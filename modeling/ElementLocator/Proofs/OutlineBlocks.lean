import ElementLocator.Proofs.OutlineText

/-! # Blocks of an outline

    The outline of a tree is made of blocks, one for each node with all that stands below it. A
    block starts with the lines of its node and goes on with the blocks of the children; and it
    is the outline of the subtree alone, moved to the place of the node.

    * `Outline.lines_eq_block` — the lines of a tree are those of its nodes, in document order;
    * `lines_eq_placed` — the lines of a tree at a depth are its lines at the top, moved there;
    * `line_break_not_mem` — no text of a node can break a line;
    * `Tree.outline_of_blocks` — every node below the root has a block in the outline, which is
      the outline of the node. -/

namespace ElementLocator

-- ── line breaks ───────────────────────────────────────────────────────────

namespace Text.Quoted

theorem digitChar_ne_line_break {d : Nat} (hd : d < 16) : Nat.digitChar d ≠ '\n' := by
  revert d
  decide

/-- What is written for a character is no line break, whatever the character is. -/
theorem line_break_not_mem_escape (c : Char) : '\n' ∉ escape c := by
  simp only [escape]
  by_cases hquote : c = '"'
  · rw [if_pos hquote]
    decide
  by_cases hslash : c = '\\'
  · rw [if_neg hquote, if_pos hslash]
    decide
  by_cases hn : c = '\n'
  · rw [if_neg hquote, if_neg hslash, if_pos hn]
    decide
  rw [if_neg hquote, if_neg hslash, if_neg hn]
  split
  · decide
  split
  · decide
  split
  · decide
  split
  · decide
  split
  · have hdigit (n : Nat) : '\n' ≠ Nat.digitChar (n % 16) :=
      (digitChar_ne_line_break (Nat.mod_lt n (by decide))).symm
    simp [hex4, hdigit]
  · simpa using fun h => hn h.symm

theorem line_break_not_mem_quote (s : String) : '\n' ∉ (quote s).toList := by
  rw [quote, String.toList_ofList]
  intro h
  rcases List.mem_append.mp h with h | h
  · rcases List.mem_cons.mp h with h | h
    · exact absurd h (by decide)
    · obtain ⟨c, -, hc⟩ := List.mem_flatMap.mp h
      exact line_break_not_mem_escape c hc
  · exact absurd (List.mem_singleton.mp h) (by decide)

end Text.Quoted

namespace Outline

theorem line_break_not_mem_append {s t : String} (hs : '\n' ∉ s.toList) (ht : '\n' ∉ t.toList) :
    '\n' ∉ (s ++ t).toList := by
  rw [String.toList_append, List.mem_append]
  exact not_or.mpr ⟨hs, ht⟩

theorem line_break_not_mem_blanks (n : Nat) : '\n' ∉ (blanks n).toList := by
  rw [blanks, String.toList_ofList]
  intro h
  exact absurd (List.eq_of_mem_replicate h) (by decide)

theorem line_break_not_mem_lead (depth : Nat) : '\n' ∉ (lead depth).toList := by
  rw [lead]
  split
  · decide
  · exact line_break_not_mem_append (line_break_not_mem_blanks _) (by decide)

theorem line_break_not_mem_fieldText {a : NodeAttributes} {f : String × String} (hf : f ∈ fields a) :
    '\n' ∉ (fieldText f).toList := by
  have hshown {key : String} {v : Option String} (hkey : '\n' ∉ key.toList) (hf : f ∈ shown key v) :
      '\n' ∉ f.1.toList := by
    obtain ⟨s, -, rfl⟩ := List.mem_map.mp hf
    exact hkey
  have hkey : '\n' ∉ f.1.toList := by
    simp only [fields, List.mem_append] at hf
    rcases hf with ((hf | hf) | hf) | hf
    all_goals exact hshown (by decide) hf
  exact line_break_not_mem_append (line_break_not_mem_append hkey (by decide))
    (Text.Quoted.line_break_not_mem_quote f.2)

theorem line_break_not_mem_ownLines {a : NodeAttributes} {hasChildren : Bool} {l : String}
    (hl : l ∈ ownLines a hasChildren) : '\n' ∉ l.toList := by
  by_cases h : fields a ≠ [] ∨ hasChildren = true
  · rw [ownLines_fields h, List.mem_append] at hl
    rcases hl with hl | hl
    · obtain ⟨f, hf, rfl⟩ := List.mem_map.mp hl
      exact line_break_not_mem_fieldText hf
    · cases hasChildren with
      | false => cases hl
      | true =>
          rw [List.mem_singleton.mp hl]
          decide
  · obtain ⟨hfields, hchildren⟩ := not_or.mp h
    rw [eq_false_of_ne_true hchildren, ownLines_empty (Classical.not_not.mp hfields)] at hl
    rw [List.mem_singleton.mp hl]
    decide

theorem line_break_not_mem_placed {depth : Nat} {ls : List String}
    (hls : ∀ l ∈ ls, '\n' ∉ l.toList) : ∀ l ∈ placed depth ls, '\n' ∉ l.toList := by
  intro l hl
  cases ls with
  | nil => cases hl
  | cons first rest =>
      rw [placed] at hl
      rcases List.mem_cons.mp hl with rfl | hl
      · exact line_break_not_mem_append (line_break_not_mem_lead depth) (hls first List.mem_cons_self)
      · obtain ⟨m, hm, rfl⟩ := List.mem_map.mp hl
        exact line_break_not_mem_append (line_break_not_mem_blanks _)
          (hls m (List.mem_cons_of_mem first hm))

-- ── lines by nodes ────────────────────────────────────────────────────────

/-- The lines that the outline of a tree has for one of its nodes. -/
def nodeLines (d : Located) : List String :=
  placed d.path.length (ownLines d.tree.attributes.visible (!d.tree.children.isEmpty))

/-- The lines for a node and for all that stands below it. -/
def block (d : Located) : List String := d.walk.flatMap nodeLines

/-- No text of a node can break a line. -/
theorem line_break_not_mem {d : Located} : ∀ l ∈ block d, '\n' ∉ l.toList := by
  intro l hl
  obtain ⟨e, -, hl⟩ := List.mem_flatMap.mp hl
  exact line_break_not_mem_placed (fun _ => line_break_not_mem_ownLines) l hl

/-- A block starts with the lines of its node; the blocks of the children follow in order. -/
theorem block_eq_append (d : Located) : block d = nodeLines d ++ d.children.flatMap block := by
  rw [block, Located.walk_eq_cons, List.flatMap_cons, Located.below_eq_flatMap, List.flatMap_assoc]
  rfl

theorem isEmpty_visibleEach (ts : List Tree) : (Tree.visibleEach ts).isEmpty = ts.isEmpty := by
  cases ts <;> rfl

mutual

theorem lines_eq_flatMap (path : List Nat) :
    ∀ t : Tree, lines path.length t.visible = (Located.walkFrom path t).flatMap nodeLines
  | .node a cs => by
      rw [Tree.visible, lines, isEmpty_visibleEach, Located.walkFrom, List.flatMap_cons,
        linesEach_eq_flatMap path 0 cs]
      rfl

theorem linesEach_eq_flatMap (path : List Nat) (i : Nat) :
    ∀ ts : List Tree,
      linesEach (path.length + 1) (Tree.visibleEach ts) = (Located.walkEachFrom path i ts).flatMap nodeLines
  | [] => rfl
  | t :: rest => by
      have hlength : path.length + 1 = (path ++ [i]).length := by
        rw [List.length_append, List.length_singleton]
      rw [Tree.visibleEach, linesEach, Located.walkEachFrom, List.flatMap_append,
        linesEach_eq_flatMap path (i + 1) rest, hlength, lines_eq_flatMap (path ++ [i]) t]

end

/-- **THE LINES OF A TREE** are those of its nodes, in document order. -/
theorem lines_eq_block (d : Located) : lines d.path.length d.tree.visible = block d :=
  lines_eq_flatMap d.path d.tree

-- ── lines further to the right ────────────────────────────────────────────

theorem blanks_add (m n : Nat) : blanks (m + n) = blanks m ++ blanks n := by
  rw [← String.toList_inj, String.toList_append]
  simp only [blanks]
  rw [String.toList_ofList, String.toList_ofList, String.toList_ofList, List.replicate_append_replicate]

theorem pad_add (k depth : Nat) : pad (k + depth) = pad k ++ pad depth := by
  simp only [pad]
  rw [Nat.mul_add, blanks_add]

/-- What stands before a node moves with it, save for the root, which has nothing before it. -/
theorem lead_add (k depth : Nat) : lead (k + (depth + 1)) = pad k ++ lead (depth + 1) := by
  simp only [lead, pad]
  rw [if_neg (by omega), if_neg (by omega), ← String.append_assoc, ← blanks_add]
  congr 2
  omega

theorem placed_add (k depth : Nat) (ls : List String) :
    placed (k + (depth + 1)) ls = (placed (depth + 1) ls).map (pad k ++ ·) := by
  cases ls with
  | nil => rfl
  | cons first rest =>
      rw [placed_cons, placed_cons, List.map_cons, List.map_map, lead_add, pad_add, String.append_assoc]
      congr 1
      refine List.map_congr_left fun l _ => ?_
      exact String.append_assoc

mutual

/-- Below the top, the lines of a tree move as they are. -/
theorem lines_add (k depth : Nat) :
    ∀ t : Tree, lines (k + (depth + 1)) t = (lines (depth + 1) t).map (pad k ++ ·)
  | .node a cs => by
      rw [lines, lines, List.map_append, placed_add]
      congr 1
      exact linesEach_add k (depth + 1) cs

theorem linesEach_add (k depth : Nat) :
    ∀ ts : List Tree, linesEach (k + (depth + 1)) ts = (linesEach (depth + 1) ts).map (pad k ++ ·)
  | [] => rfl
  | t :: rest => by
      rw [linesEach, linesEach, List.map_append, lines_add k depth t, linesEach_add k depth rest]

end

theorem placed_zero (ls : List String) : placed 0 ls = ls := by
  cases ls with
  | nil => rfl
  | cons first rest =>
      have hblank (l : String) : pad 0 ++ l = l := String.empty_append
      rw [placed_cons]
      simp only [hblank]
      rw [List.map_id']
      exact congrArg (· :: rest) String.empty_append

theorem placed_append {ls : List String} (h : ls ≠ []) (depth : Nat) (ms : List String) :
    placed depth (ls ++ ms) = placed depth ls ++ ms.map (pad depth ++ ·) := by
  cases ls with
  | nil => exact absurd rfl h
  | cons first rest =>
      rw [List.cons_append, placed_cons, placed_cons, List.map_append, List.cons_append]

/-- **THE LINES OF A TREE AT A DEPTH** are its lines at the top, the first one behind the dash of the
    node and the others behind its blanks. -/
theorem lines_eq_placed (depth : Nat) (t : Tree) : lines depth t = placed depth (lines 0 t) := by
  obtain ⟨a, cs⟩ := t
  rw [lines, lines, placed_zero, placed_append (ownLines_ne_nil _ _)]
  congr 1
  exact linesEach_add depth 0 cs

end Outline

-- ── nodes of a tree ───────────────────────────────────────────────────────

namespace Located

mutual

theorem exists_walkFrom_append {path : List Nat} {d : Located} :
    ∀ {t : Tree}, d ∈ walkFrom path t → ∃ before after, walkFrom path t = before ++ d.walk ++ after
  | .node a cs, hd => by
      rw [walkFrom] at hd ⊢
      rcases List.mem_cons.mp hd with rfl | hd
      · exact ⟨[], [], by rw [List.nil_append, List.append_nil, walk, walkFrom]⟩
      · obtain ⟨before, after, h⟩ := exists_walkEachFrom_append hd
        exact ⟨_ :: before, after, by rw [h]; rfl⟩

theorem exists_walkEachFrom_append {path : List Nat} {i : Nat} {d : Located} :
    ∀ {ts : List Tree}, d ∈ walkEachFrom path i ts →
      ∃ before after, walkEachFrom path i ts = before ++ d.walk ++ after
  | t :: rest, hd => by
      rw [walkEachFrom, List.mem_append] at hd
      rw [walkEachFrom]
      rcases hd with hd | hd
      · obtain ⟨before, after, h⟩ := exists_walkFrom_append hd
        exact ⟨before, after ++ walkEachFrom path (i + 1) rest, by rw [h, List.append_assoc]⟩
      · obtain ⟨before, after, h⟩ := exists_walkEachFrom_append hd
        exact ⟨walkFrom (path ++ [i]) t ++ before, after, by
          rw [h, List.append_assoc, List.append_assoc, List.append_assoc]⟩

end

/-- The nodes of a subtree stand together in the document order of the whole tree. -/
theorem exists_walk_append {n d : Located} (hd : d ∈ n.walk) :
    ∃ before after, n.walk = before ++ d.walk ++ after := exists_walkFrom_append hd

end Located

-- ── outlines in blocks ────────────────────────────────────────────────────

namespace Tree

open Outline

theorem height_le_of_mem_walk {n d : Located} {levels : Nat} (hn : n.tree.height ≤ levels) (hd : d ∈ n.walk) :
    d.tree.height ≤ levels := by
  refine of_mem_walk (P := fun t => t.height ≤ levels) (t := n.tree) ?_ hn ?_
  · intro a cs h c hc
    have := height_le_heightAll hc
    rw [height] at h
    omega
  · rw [← Located.walk_map_tree]
    exact List.mem_map_of_mem hd

/-- The outline of any node of a tree within the limit. -/
theorem outcome_text_of_located {d : Located} (limit : DepthLimit) (hd : d.tree.height ≤ limit.levels) :
    (Outline.text (access fun _ => none) (.ok limit) d).outcome = .ok (textOf (lines 0 d.tree.visible)) :=
  outcome_text limit (unfolds_visible d.path d.tree) (by rw [height_visible]; exact hd)

/-- **AN OUTLINE IS MADE OF OUTLINES.** The outline of a tree within the limit has the lines of its
    nodes in document order, none of which holds a line break. The lines of a node are followed by
    the blocks of its children and nothing else. The nodes of a subtree stand together, so that
    their lines are one block; and this is the outline of the subtree's root with a dash before
    the first line and blanks before the others, as many as the depth of the node asks for. -/
theorem outline_of_blocks (t : Tree) (limit : DepthLimit) (ht : t.height ≤ limit.levels) :
    (Outline.text (access fun _ => none) (.ok limit) (Located.root t)).outcome =
        .ok (textOf (block (Located.root t))) ∧
      (∀ l ∈ block (Located.root t), '\n' ∉ l.toList) ∧
      (∀ d ∈ (Located.root t).walk, block d = nodeLines d ++ d.children.flatMap block) ∧
      ∀ d ∈ (Located.root t).below,
        ∃ before after first rest,
          (Located.root t).walk = before ++ d.walk ++ after ∧
            block (Located.root t) = before.flatMap nodeLines ++ block d ++ after.flatMap nodeLines ∧
            (Outline.text (access fun _ => none) (.ok limit) d).outcome = .ok (textOf (first :: rest)) ∧
            block d = (blanks (4 * d.path.length - 2) ++ "- " ++ first) ::
              rest.map (blanks (4 * d.path.length) ++ ·) := by
  refine ⟨?_, line_break_not_mem, fun d _ => block_eq_append d, ?_⟩
  · rw [outcome_text_of_located (d := Located.root t) limit ht, ← lines_eq_block]
    rfl
  intro d hd
  have hwalk := Located.mem_walk_of_mem_below hd
  obtain ⟨before, after, hnodes⟩ := Located.exists_walk_append hwalk
  obtain ⟨first, rest, hlines⟩ := List.exists_cons_of_ne_nil (lines_ne_nil 0 d.tree.visible)
  have hdepth : d.path.length ≠ 0 := by
    obtain ⟨i, s, -, hpath⟩ := Located.exists_path_of_mem_walkEachFrom hd
    rw [hpath, List.length_append, List.length_cons]
    omega
  refine ⟨before, after, first, rest, hnodes, ?_, ?_, ?_⟩
  · rw [block, hnodes, List.flatMap_append, List.flatMap_append, block]
  · rw [outcome_text_of_located limit (height_le_of_mem_walk ht hwalk), hlines]
  · rw [← lines_eq_block, lines_eq_placed, hlines, placed_cons, lead, if_neg hdepth, pad]

/-- The window of a player, with a button. -/
def playerWindow : Tree :=
  .node ⟨some "Window", none, some "", none⟩ [.node ⟨some "Button", some "play", none, some "a\nb"⟩ []]

/-- A player, with its window and a node that shows nothing. -/
def player : Tree :=
  .node ⟨some "Application", none, none, some "Demo"⟩ [playerWindow, .node .empty []]

/-- The outline of the window stands in that of the player, four columns to the right. -/
theorem outline_of_window :
    player.height ≤ 2 ∧
      ∃ before after first rest,
        (Located.root player).walk = before ++ Located.walk ⟨[0], playerWindow⟩ ++ after ∧
          (Outline.text (access fun _ => none) (.ok ⟨2, by decide, by decide⟩) ⟨[0], playerWindow⟩).outcome =
            .ok (textOf (first :: rest)) ∧
          block (Located.root player) =
            before.flatMap nodeLines ++ ("  - " ++ first) :: rest.map ("    " ++ ·) ++
              after.flatMap nodeLines := by
  have hheight : player.height ≤ 2 := by decide
  have hbelow : (⟨[0], playerWindow⟩ : Located) ∈ (Located.root player).below := List.Mem.head _
  obtain ⟨-, -, -, hblocks⟩ := outline_of_blocks player ⟨2, by decide, by decide⟩ hheight
  obtain ⟨before, after, first, rest, hwalk, hlines, htext, hblock⟩ := hblocks _ hbelow
  refine ⟨hheight, before, after, first, rest, hwalk, htext, ?_⟩
  rw [hlines, hblock]
  rfl

end Tree

end ElementLocator
