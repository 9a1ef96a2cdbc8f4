import Mathlib.Algebra.Ring.Nat
import ElementLocator.Proofs.FileWrites
import ElementLocator.Proofs.OutlineBlocks

/-! # Outlines written to files

    The file of an outline is emptied before anything is read, and filled while the tree is
    walked. What stands in it at the end is the outline, or that part of the outline that comes
    before the first node which cannot be written.

    * `Outline.writesUpTo_write` — an outline writes the lines of its nodes, in document order, up to
      the first node that stops it;
    * `Outline.read_save` — the file holds the lines that the outline finished, and nothing else;
    * `Tree.saved_outline_counts_lines` — an outline that succeeds is in the file as it is, and the
      answer is the number of its lines;
    * `Tree.failed_outline_keeps_lines` — one that fails leaves the complete lines of the nodes
      before the one at fault;
    * `Tree.half_character_leaves_half_a_node` — this is so for texts that are sequences of characters
      only. -/

namespace ElementLocator

-- ── walks that stop ───────────────────────────────────────────────────────

namespace Located

/-- A node stops the outline of its tree if it stands too deep, or else if its reads fail. -/
def Stops {σ : Type} (failing : List Nat → Option Injected) (limit : Nat) (d : Located σ) : Prop :=
  limit < d.path.length ∨ d.path.length ≤ limit ∧ ∃ i, failing d.path = some i

theorem not_stops {failing : List Nat → Option Injected} {limit : Nat} {d : Located}
    (hdepth : d.path.length ≤ limit) (hfailing : failing d.path = none) : ¬ Stops failing limit d := by
  rintro (hdeep | ⟨-, i, hi⟩)
  · omega
  · rw [hfailing] at hi
    cases hi

theorem isEmpty_children (n : Located) : n.children.isEmpty = n.tree.children.isEmpty := by
  rw [children]
  cases n.tree.children <;> rfl

end Located

namespace Outline

/-- A task that writes the lines of nodes in order: of all of them if it succeeds, and else of those
    before the first that stops it. It logs nothing but that a node is too deep. -/
structure WritesUpTo (stops : Located → Prop) (nodes : List Located) (x : Task Located Unit) : Prop where
  all {u : Unit} (h : x.outcome = .ok u) :
    (∀ d ∈ nodes, ¬ stops d) ∧ finishedLines x.notes = nodes.flatMap nodeLines
  upTo {f : Failure} (h : x.outcome = .error f) :
    ∃ before d after, nodes = before ++ d :: after ∧ stops d ∧ (∀ e ∈ before, ¬ stops e) ∧
      finishedLines x.notes = before.flatMap nodeLines
  events : ∀ e ∈ loggedEvents x.notes, e.name = "tree_too_deep"

namespace WritesUpTo

variable {stops : Located → Prop}

/-- A task that is stopped by the first of its nodes. -/
theorem head {n : Located} {rest : List Located} {x : Task Located Unit} {f : Failure} (hn : stops n)
    (hx : x.outcome = .error f) (hlines : finishedLines x.notes = [])
    (hevents : ∀ e ∈ loggedEvents x.notes, e.name = "tree_too_deep") : WritesUpTo stops (n :: rest) x where
  all h := by
    rw [hx] at h
    cases h
  upTo _ := ⟨[], n, rest, rfl, hn, fun _ he => (nomatch he), hlines⟩
  events := hevents

theorem bind {ns ms : List Located} {x y : Task Located Unit} (hx : WritesUpTo stops ns x)
    (hy : WritesUpTo stops ms y) : WritesUpTo stops (ns ++ ms) (x >>= fun _ => y) := by
  cases hends : x.outcome with
  | ok u =>
      obtain ⟨hgoes, hlines⟩ := hx.all hends
      have hnotes : (x >>= fun _ => y).notes = x.notes ++ y.notes := by rw [Report.notes_bind, hends]
      refine ⟨fun h => ?_, fun h => ?_, ?_⟩
      · rw [Report.outcome_bind_of_ok hends] at h
        obtain ⟨hrest, hrestLines⟩ := hy.all h
        refine ⟨List.forall_mem_append.mpr ⟨hgoes, hrest⟩, ?_⟩
        rw [hnotes, finishedLines_append, hlines, hrestLines, List.flatMap_append]
      · rw [Report.outcome_bind_of_ok hends] at h
        obtain ⟨before, d, after, rfl, hd, hbefore, hrestLines⟩ := hy.upTo h
        refine ⟨ns ++ before, d, after, (List.append_assoc _ _ _).symm, hd,
          List.forall_mem_append.mpr ⟨hgoes, hbefore⟩, ?_⟩
        rw [hnotes, finishedLines_append, hlines, hrestLines, List.flatMap_append]
      · intro e he
        rw [hnotes, loggedEvents, List.filterMap_append, List.mem_append] at he
        rcases he with he | he
        · exact hx.events e he
        · exact hy.events e he
  | error f =>
      obtain ⟨before, d, after, rfl, hd, hbefore, hlines⟩ := hx.upTo hends
      have hnotes : (x >>= fun _ => y).notes = x.notes := by
        rw [Report.notes_bind, hends, List.append_nil]
      refine ⟨fun h => ?_, fun _ => ?_, ?_⟩
      · rw [Report.outcome_bind_of_error hends] at h
        cases h
      · exact ⟨before, d, after ++ ms, List.append_assoc _ _ _, hd, hbefore, by rw [hnotes, hlines]⟩
      · rw [hnotes]
        exact hx.events

theorem each {f : Located → Task Located Unit} {cs : List Located} (h : ∀ c ∈ cs, WritesUpTo stops c.walk (f c)) :
    WritesUpTo stops (cs.flatMap Located.walk) (Report.each f cs) := by
  induction cs with
  | nil =>
      refine ⟨fun _ => ⟨fun d hd => ?_, rfl⟩, fun h => ?_, fun e he => ?_⟩
      · cases hd
      · cases h
      · cases he
  | cons c rest ih =>
      rw [Report.each_cons, List.flatMap_cons]
      exact (h c List.mem_cons_self).bind (ih fun d hd => h d (List.mem_cons_of_mem c hd))

end WritesUpTo

-- ── the walk of an outline ────────────────────────────────────────────────

theorem loggedEvents_map_line (ls : List String) :
    loggedEvents (ls.map (Note.line : String → Note Located)) = [] := by
  rw [loggedEvents, List.filterMap_map]
  exact List.filterMap_eq_nil_iff.mpr fun _ _ => rfl

section Write

variable {failing : List Nat → Option Injected} {n : Located}

theorem readNode_of_failing {i : Injected} (h : failing n.path = some i) (depth : Nat) :
    readNode (Tree.access failing) depth n = Report.fail i.failure := by
  have hattributes : (Tree.access failing).attributes n = Report.fail i.failure := by
    rw [Tree.access]
    dsimp only
    rw [h]
  rw [readNode, hattributes]
  rfl

theorem readNode_of_readable (h : failing n.path = none) :
    readNode (Tree.access failing) n.path.length n = Report.ok (nodeLines n, n.children) := by
  have hattributes : (Tree.access failing).attributes n = Report.ok n.tree.attributes.visible := by
    rw [Tree.access]
    dsimp only
    rw [h]
  have hchildren : (Tree.access failing).children n = Report.ok n.children := by
    rw [Tree.access]
    dsimp only
    rw [h]
  rw [readNode, hattributes, hchildren, nodeLines, ← Located.isEmpty_children]
  rfl

/-- The lines of a node that can be read are written first. -/
theorem write_of_readable (limit levels : Nat) (h : failing n.path = none) :
    write (Tree.access failing) limit (levels + 1) n.path.length n =
      ((⟨(nodeLines n).map .line, .ok ()⟩ : Task Located Unit) >>= fun _ =>
        Report.each (write (Tree.access failing) limit levels (n.path.length + 1)) n.children) := by
  rw [write, readNode_of_readable h, ← each_line]
  rfl

/-- **AN OUTLINE WRITES THE LINES OF ITS NODES** in document order, up to the first one that stops it.
    The induction is on the levels that may still be entered, which make up the limit and one
    together with the depth of the node. -/
theorem writesUpTo_write {limit levels : Nat} (hlevels : n.path.length + levels = limit + 1) :
    WritesUpTo (Located.Stops failing limit) n.walk
      (write (Tree.access failing) limit levels n.path.length n) := by
  rw [Located.walk_eq_cons]
  induction levels generalizing n with
  | zero =>
      refine WritesUpTo.head (Or.inl (by omega)) rfl rfl fun e he => ?_
      rw [List.mem_singleton.mp he]
  | succ levels ih =>
      cases hf : failing n.path with
      | some i =>
          have hwrite : write (Tree.access failing) limit (levels + 1) n.path.length n =
              Report.fail i.failure := by
            rw [write, readNode_of_failing hf]
            rfl
          rw [hwrite]
          refine WritesUpTo.head (Or.inr ⟨by omega, i, hf⟩) rfl rfl fun e he => ?_
          cases he
      | none =>
          have hnode : WritesUpTo (Located.Stops failing limit) [n] ⟨(nodeLines n).map .line, .ok ()⟩ := by
            refine ⟨fun _ => ⟨fun d hd => ?_, ?_⟩, fun h => ?_, fun e he => ?_⟩
            · rw [List.mem_singleton.mp hd]
              exact Located.not_stops (by omega) hf
            · rw [finishedLines_map_line, List.flatMap_singleton]
            · cases h
            · rw [loggedEvents_map_line] at he
              cases he
          rw [write_of_readable limit levels hf, Located.below_eq_flatMap]
          refine hnode.bind (WritesUpTo.each fun c hc => ?_)
          have hdepth := Located.path_length_of_mem_children hc
          rw [← hdepth, Located.walk_eq_cons]
          exact ih (by omega)

/-- The outline of a tree within a limit, from its root. -/
theorem writesUpTo_ofRoot (failing : List Nat → Option Injected) (limit : DepthLimit) (t : Tree) :
    WritesUpTo (Located.Stops failing limit.levels) (Located.root t).walk
      (ofRoot (Tree.access failing) (.ok limit) (Located.root t)) :=
  writesUpTo_write (n := Located.root t) (Nat.zero_add _)

end Write

-- ── what is in the file ───────────────────────────────────────────────────

section Save

variable {ν : Type} {access : TreeAccess ν} {files prepared : FileSystem} {path : Path}
  {limit : FileSystem → Except Failure DepthLimit} {node : ν}

/-- Lines of characters have bytes: no such line ends an outline. -/
theorem cut_eq (notes : List (Note ν)) : cut notes = (notes, none) := by
  induction notes with
  | nil => rfl
  | cons n rest ih =>
      cases n with
      | logged e => rw [cut, ih]
      | asked node field => rw [cut, ih]
      | line s =>
          rw [cut, ih]
          rfl

theorem encoded_eq (task : Task ν Unit) : encoded task = task := by
  rw [encoded, cut_eq]

/-- The bytes of lines of characters are those of their text. -/
theorem flatMap_lineBytes (lines : List String) :
    (lines.flatMap fun s => ((lineBytes s).toOption).getD []) = Text.Utf8.encode (fileText lines).toList := by
  induction lines with
  | nil => rfl
  | cons s rest ih =>
      have htext : (fileText (s :: rest)).toList = (s ++ "\n").toList ++ (fileText rest).toList := by
        rw [fileText, List.map_cons, String.join_cons, String.toList_append, fileText]
      rw [List.flatMap_cons, ih, htext, Text.Utf8.encode, Text.Utf8.encode, List.flatMap_append]
      rfl

/-- Once a file was emptied, it is filled with the lines that a task finished. -/
theorem read_fill (h : prepare files path = (.ok (), prepared)) (task : Task ν Unit) :
    (fill prepared path task).read path =
      .ok (Text.Utf8.encode (fileText (finishedLines task.notes)).toList) := by
  rw [prepare] at h
  rcases hstart : files.makeDirectories path.parent with ⟨made, start⟩
  rw [hstart] at h
  cases made with
  | error e => cases h
  | ok u =>
      have hempty : start.write path [] = .ok prepared := FileSystem.eq_ok_of_attempted h
      obtain ⟨last, hlast⟩ :=
        FileSystem.exists_write_again hempty (Text.Utf8.encode (fileText (finishedLines task.notes)).toList)
      rw [fill, flatMap_lineBytes, hlast]
      exact FileSystem.read_write hlast

/-- **WHAT IS IN THE FILE** is what the outline wrote, however it ended. -/
theorem read_save (h : prepare files path = (.ok (), prepared)) :
    (save access files path limit node).2.read path =
      .ok (Text.Utf8.encode
        (fileText (finishedLines (ofRoot access (limit prepared) node).notes)).toList) := by
  rw [save, h]
  dsimp only
  rw [encoded_eq]
  exact read_fill h _

theorem outcome_save (h : prepare files path = (.ok (), prepared)) :
    (save access files path limit node).1.outcome =
      (ofRoot access (limit prepared) node).outcome.map
        fun _ => (finishedLines (ofRoot access (limit prepared) node).notes).length := by
  rw [save, h]
  dsimp only
  rw [encoded_eq]
  cases (ofRoot access (limit prepared) node).outcome <;> rfl

/-- An outline that fails on the way to its file fails as it does elsewhere. -/
theorem outcome_of_save {f : Failure} (h : prepare files path = (.ok (), prepared))
    (hfails : (save access files path limit node).1.outcome = .error f) :
    (ofRoot access (limit prepared) node).outcome = .error f := by
  rw [outcome_save h] at hfails
  cases hends : (ofRoot access (limit prepared) node).outcome with
  | error g =>
      rw [hends] at hfails
      rw [Except.error.inj hfails]
  | ok u =>
      rw [hends] at hfails
      cases hfails

theorem loggedEvents_withoutLines (notes : List (Note ν)) :
    loggedEvents (withoutLines notes) = loggedEvents notes := by
  rw [withoutLines, loggedEvents, List.filterMap_filter]
  congr 1
  funext n
  cases n <;> rfl

/-- An outline that fails logs in the file's case what it logs in any. -/
theorem loggedEvents_save {f : Failure} (h : prepare files path = (.ok (), prepared))
    (hfails : (ofRoot access (limit prepared) node).outcome = .error f) :
    loggedEvents (save access files path limit node).1.notes =
      loggedEvents (ofRoot access (limit prepared) node).notes := by
  rw [save, h]
  dsimp only
  rw [encoded_eq, hfails]
  exact loggedEvents_withoutLines _

end Save

theorem fileText_append (ls ms : List String) : fileText (ls ++ ms) = fileText ls ++ fileText ms := by
  rw [fileText, List.map_append, String.join_append]
  rfl

-- ── how many lines ────────────────────────────────────────────────────────

/-- How many attributes of a node are not empty. -/
def filled (a : NodeAttributes) : Nat :=
  [a.role, a.identifier, a.className, a.label].countP fun v => (present v).isSome

theorem length_shown (key : String) (v : Option String) :
    (shown key v).length = if (present v).isSome then 1 else 0 := by
  rw [shown, List.length_map]
  cases present v <;> rfl

theorem length_fields (a : NodeAttributes) : (fields a).length = filled a := by
  simp only [fields, filled, List.length_append, length_shown, List.countP_cons, List.countP_nil]
  omega

theorem filled_visible (a : NodeAttributes) : filled a.visible = filled a := by
  simp only [filled, NodeAttributes.visible, List.countP_cons, Tree.present_present]

/-- **A NODE HAS A LINE FOR EACH ATTRIBUTE** that is not empty and one more if it has children; and
    one line if it has neither. -/
theorem length_ownLines (a : NodeAttributes) (hasChildren : Bool) :
    (ownLines a hasChildren).length = max 1 (filled a + if hasChildren then 1 else 0) := by
  by_cases h : fields a ≠ [] ∨ hasChildren = true
  · rw [ownLines_fields h, List.length_append, List.length_map, length_fields]
    have hone : 1 ≤ filled a + if hasChildren then 1 else 0 := by
      rcases h with h | h
      · have hpos := List.length_pos_iff.mpr h
        rw [length_fields] at hpos
        omega
      · rw [if_pos h]
        omega
    rw [Nat.max_eq_right hone]
    cases hasChildren <;> rfl
  · obtain ⟨hfields, hchildren⟩ := not_or.mp h
    have hnone := Classical.not_not.mp hfields
    rw [eq_false_of_ne_true hchildren, ownLines_empty hnone, ← length_fields, hnone]
    rfl

theorem length_placed (depth : Nat) (ls : List String) : (placed depth ls).length = ls.length := by
  cases ls with
  | nil => rfl
  | cons first rest => rw [placed, List.length_cons, List.length_map, List.length_cons]

/-- How many lines the root of a tree has in an outline. -/
def ownCount (t : Tree) : Nat := max 1 (filled t.attributes + if t.children.isEmpty then 0 else 1)

theorem length_nodeLines (d : Located) : (nodeLines d).length = ownCount d.tree := by
  rw [nodeLines, length_placed, length_ownLines, filled_visible, ownCount]
  cases d.tree.children.isEmpty <;> rfl

theorem length_block (d : Located) : (block d).length = (d.tree.walk.map ownCount).sum := by
  rw [block, List.length_flatMap, ← Located.walk_map_tree, List.map_map]
  congr 1
  exact List.map_congr_left fun e _ => length_nodeLines e

/-- The line breaks of a text tell how many lines were put into it, where the lines have none of
    their own. -/
theorem count_line_break_textOf {ls : List String} (hne : ls ≠ []) (hls : ∀ l ∈ ls, '\n' ∉ l.toList) :
    (textOf ls).toList.count '\n' = ls.length := by
  have hone : ls.map (List.count '\n' ∘ fun l => l.toList ++ ['\n']) = ls.map fun _ => 1 := by
    refine List.map_congr_left fun l hl => ?_
    show (l.toList ++ ['\n']).count '\n' = 1
    rw [List.count_append, List.count_eq_zero.mpr (hls l hl)]
    rfl
  rw [toList_textOf hne, List.count_flatMap, hone, List.map_const', List.sum_replicate_nat, Nat.mul_one]

end Outline

-- ── outlines that succeed ─────────────────────────────────────────────────

namespace Tree

open Outline

/-- Where no read fails, the outline of a tree in memory is its block, if enough levels may be
    entered. -/
theorem writes_block (t : Tree) (limit : Nat) {levels : Nat} (h : t.height < levels) :
    Writes (write (access fun _ => none) limit levels 0 (Located.root t)) () (block (Located.root t)) := by
  rw [← lines_eq_block]
  refine writes_write limit (unfolds_root t) ?_
  rw [height_visible]
  exact h

theorem block_root_ne_nil (t : Tree) : block (Located.root t) ≠ [] := by
  rw [← lines_eq_block]
  exact lines_ne_nil _ _

/-- **AN OUTLINE THAT SUCCEEDS IS IN THE FILE AS IT IS.** For every tree within the limit, the file
    holds the text of the outline, and the answer is the number of line breaks in it: a line for
    each attribute that is not empty, one more for a node with children, and one for a node that
    has neither. -/
theorem saved_outline_counts_lines (t : Tree) (files prepared : FileSystem) (path : Path)
    (limit : FileSystem → Except Failure DepthLimit) (bound : DepthLimit)
    (hpath : prepare files path = (.ok (), prepared)) (hlimit : limit prepared = .ok bound)
    (ht : t.height ≤ bound.levels) :
    ∃ text : String,
      (Outline.text (access fun _ => none) (.ok bound) (Located.root t)).outcome = .ok text ∧
        (save (access fun _ => none) files path limit (Located.root t)).2.read path =
          .ok (Text.Utf8.encode text.toList) ∧
        (save (access fun _ => none) files path limit (Located.root t)).1.outcome =
          .ok (text.toList.count '\n') ∧
        text.toList.count '\n' = (t.walk.map ownCount).sum := by
  have hcount := count_line_break_textOf (block_root_ne_nil t) line_break_not_mem
  have hwrites :
      Writes (ofRoot (access fun _ => none) (.ok bound) (Located.root t)) () (block (Located.root t)) :=
    Writes.bind (l := []) (a := bound) ⟨rfl, rfl⟩ (writes_block t bound.levels (Nat.lt_succ_of_le ht))
  obtain ⟨hend, hlines⟩ := hwrites
  refine ⟨textOf (block (Located.root t)), ?_, ?_, ?_, ?_⟩
  · rw [outcome_text_of_located (d := Located.root t) bound ht, ← lines_eq_block]
    rfl
  · rw [read_save hpath, hlimit, hlines, textOf_eq_fileText (block_root_ne_nil t)]
  · rw [outcome_save hpath, hlimit, hend, hlines, hcount]
    rfl
  · rw [hcount, length_block]
    rfl

/-- A home directory without files. -/
def home : FileSystem := ⟨[(["home"], .directory)], ["home"]⟩

/-- A path in a directory that is not there yet. -/
def drawer : Path := ⟨"", ["outlines", "tree.yaml"]⟩

/-- The outline of the player goes into a directory that is made for it, in nine lines. -/
theorem nine_lines_of_player :
    player.height ≤ 2 ∧
      ∃ text : String,
        (Outline.text (access fun _ => none) (.ok ⟨2, by decide, by decide⟩) (Located.root player)).outcome =
            .ok text ∧
          (save (access fun _ => none) home drawer (fun _ => .ok ⟨2, by decide, by decide⟩)
            (Located.root player)).2.read drawer = .ok (Text.Utf8.encode text.toList) ∧
          (save (access fun _ => none) home drawer (fun _ => .ok ⟨2, by decide, by decide⟩)
            (Located.root player)).1.outcome = .ok 9 := by
  have hheight : player.height ≤ 2 := by decide
  obtain ⟨text, htext, hread, hanswer, hcount⟩ := saved_outline_counts_lines player home _ drawer
    (fun _ => .ok ⟨2, by decide, by decide⟩) ⟨2, by decide, by decide⟩ rfl rfl hheight
  refine ⟨hheight, text, htext, hread, ?_⟩
  rw [hanswer, hcount]
  rfl

-- ── outlines that fail ────────────────────────────────────────────────────

/-- The lines that the outline of a tree finished before it failed. -/
structure Kept (t : Tree) (failing : List Nat → Option Injected) (limit : Except Failure DepthLimit)
    (kept : List String) : Prop where
  /-- They are those of the nodes before the first one, in document order, that stands too deep or cannot
      be read. -/
  before (bound : DepthLimit) (h : limit = .ok bound) :
    ∃ before d after, (Located.root t).walk = before ++ d :: after ∧
      d.Stops failing bound.levels ∧ (∀ e ∈ before, ¬ e.Stops failing bound.levels) ∧
      kept = before.flatMap nodeLines
  /-- The outline that the tree has without failures and limit begins with them. -/
  begins : ∃ rest,
    (∀ limit levels, t.height < levels →
      Writes (write (access fun _ => none) limit levels 0 (Located.root t)) () (kept ++ rest)) ∧
    textOf (kept ++ rest) = fileText kept ++ fileText rest
  /-- There are none if there is no depth limit to be had. -/
  unsettled {f : Failure} (h : limit = .error f) : kept = []
  /-- There are none if the root cannot be read. -/
  root {i : Injected} (h : failing [] = some i) : kept = []

theorem begins_of_block_eq {t : Tree} {kept rest : List String} (h : block (Located.root t) = kept ++ rest) :
    (∀ limit levels, t.height < levels →
      Writes (write (access fun _ => none) limit levels 0 (Located.root t)) () (kept ++ rest)) ∧
    textOf (kept ++ rest) = fileText kept ++ fileText rest := by
  refine ⟨fun limit levels hlevels => ?_, ?_⟩
  · rw [← h]
    exact writes_block t limit hlevels
  · rw [← fileText_append, ← h, textOf_eq_fileText (block_root_ne_nil t)]

section Fails

variable {t : Tree} {failing : List Nat → Option Injected} {limit : Except Failure DepthLimit} {f : Failure}

/-- An outline that fails has finished the lines of the nodes before the one at fault. -/
theorem kept_of_error (h : (ofRoot (access failing) limit (Located.root t)).outcome = .error f) :
    Kept t failing limit (finishedLines (ofRoot (access failing) limit (Located.root t)).notes) := by
  cases limit with
  | error g =>
      refine ⟨fun _ h => (nomatch h), ⟨block (Located.root t), ?_⟩, fun _ => rfl, fun _ => rfl⟩
      exact begins_of_block_eq (List.nil_append _).symm
  | ok bound =>
      obtain ⟨before, d, after, hwalk, hd, hbefore, hkept⟩ :=
        (writesUpTo_ofRoot failing bound t).upTo h
      rw [hkept]
      refine ⟨?_, ⟨(d :: after).flatMap nodeLines, ?_⟩, fun h => (nomatch h), ?_⟩
      · intro other hother
        cases hother
        exact ⟨before, d, after, hwalk, hd, hbefore, rfl⟩
      · refine begins_of_block_eq ?_
        rw [block, hwalk, List.flatMap_append]
      · intro i hi
        cases before with
        | nil => rfl
        | cons e before =>
            -- The first node of the walk is the root, whose place is empty.
            rw [Located.walk_eq_cons, List.cons_append] at hwalk
            refine absurd ?_ (hbefore e List.mem_cons_self)
            rw [← (List.cons.inj hwalk).1]
            exact Or.inr ⟨Nat.zero_le _, i, hi⟩

theorem name_of_mem_loggedEvents {e : LogEvent}
    (he : e ∈ loggedEvents (ofRoot (access failing) limit (Located.root t)).notes) :
    e.name = "tree_too_deep" := by
  cases limit with
  | error g => cases he
  | ok bound => exact (writesUpTo_ofRoot failing bound t).events e he

/-- **AN OUTLINE THAT FAILS LEAVES WHOLE NODES.** Whatever ends the outline of a tree, the file holds
    the lines of the nodes before the one at fault, and nothing else. Nothing is left where the limit
    asked for is out of range; and no event tells that the outline was written. -/
theorem failed_outline_keeps_lines (t : Tree) (failing : List Nat → Option Injected)
    (files prepared : FileSystem) (path : Path) (asked : Option Int)
    (standard : FileSystem → Except Failure DepthLimit) (f : Failure)
    (hpath : prepare files path = (.ok (), prepared))
    (hfails : (save (access failing) files path (fun fs => DepthLimit.choose asked (standard fs))
      (Located.root t)).1.outcome = .error f) :
    ∃ kept : List String,
      (save (access failing) files path (fun fs => DepthLimit.choose asked (standard fs))
          (Located.root t)).2.read path = .ok (Text.Utf8.encode (fileText kept).toList) ∧
        Kept t failing (DepthLimit.choose asked (standard prepared)) kept ∧
        (∀ n, asked = some n → ¬ (1 ≤ n ∧ n ≤ deepestLimit) → kept = []) ∧
        ∀ e ∈ loggedEvents (save (access failing) files path
          (fun fs => DepthLimit.choose asked (standard fs)) (Located.root t)).1.notes,
          e.name ≠ "tree_dump_written" := by
  have hends := outcome_of_save hpath hfails
  have hkept := kept_of_error hends
  refine ⟨_, read_save hpath, hkept, fun n hn hrange => ?_, fun e he => ?_⟩
  · refine hkept.unsettled (f := .depthOutOfRange n) ?_
    rw [hn, DepthLimit.choose, DepthLimit.ofInt, dif_neg hrange]
  · rw [loggedEvents_save hpath hends] at he
    rw [name_of_mem_loggedEvents he]
    decide

end Fails

/-- The button of the player cannot be read. -/
def brokenButton (path : List Nat) : Option Injected :=
  if path = [0, 0] then some (.cannotComplete, .null) else none

/-- Only what stands before the broken button is kept. -/
theorem kept_before_button :
    ∃ kept : List String,
      (save (access brokenButton) home drawer
          (fun _ => DepthLimit.choose (some 3) (.ok ⟨1, by decide, by decide⟩))
          (Located.root player)).2.read drawer = .ok (Text.Utf8.encode (fileText kept).toList) ∧
        ∃ before button after, (Located.root player).walk = before ++ button :: after ∧
          button.path = [0, 0] ∧ kept = before.flatMap nodeLines := by
  obtain ⟨kept, hread, hkept, -⟩ := failed_outline_keeps_lines player brokenButton home _ drawer (some 3)
    (fun _ => .ok ⟨1, by decide, by decide⟩) _ rfl rfl
  obtain ⟨before, d, after, hwalk, hd, -, hlines⟩ := hkept.before ⟨3, by decide, by decide⟩ rfl
  have hdepth : ∀ e ∈ (Located.root player).walk, e.path.length ≤ 3 := by decide
  have hmem : d ∈ (Located.root player).walk := by
    rw [hwalk]
    exact List.mem_append_right before List.mem_cons_self
  refine ⟨kept, hread, before, d, after, hwalk, ?_, hlines⟩
  rcases hd with hd | ⟨-, i, hi⟩
  · exact absurd (hdepth d hmem) (Nat.not_le_of_lt hd)
  · refine Classical.byContradiction fun hpath => ?_
    rw [brokenButton, if_neg hpath] at hi
    cases hi

/-- An element whose label is half of a character. -/
def halfLabelled : Tree Text.Wide := .node ⟨some [.char 'A'], none, none, some [.half 0xD800]⟩ []

/-- Texts with halves of characters have no bytes: here no node is too deep and every read succeeds, but the
    outline fails, and the first of the two lines of the root is left. -/
theorem half_character_leaves_half_a_node :
    (∀ d ∈ (Located.root halfLabelled).walk, ¬ d.Stops (fun _ => none) 2) ∧
      (ownLines halfLabelled.attributes.visible false).length = 2 ∧
        (save (access fun _ => none) home drawer (fun _ => .ok ⟨2, by decide, by decide⟩)
            (Located.root halfLabelled)).1.outcome = .error (.unencodable ⟨8, [0xD800]⟩) ∧
          (save (access fun _ => none) home drawer (fun _ => .ok ⟨2, by decide, by decide⟩)
            (Located.root halfLabelled)).2.read drawer = .ok (Text.Utf8.encode "role: \"A\"\n".toList) := by
  refine ⟨fun d hd => ?_, rfl, rfl, rfl⟩
  rw [List.mem_singleton.mp hd]
  rintro (hdeep | ⟨-, i, hi⟩)
  · cases hdeep
  · cases hi

end Tree

end ElementLocator
