import ElementLocator.Outline.Saving
import ElementLocator.Proofs.DocumentOrder

/-! # The text of an outline

    An outline reads a tree through a backend while it writes. Where every read succeeds, the
    nodes below a handle unfold to a tree as plain data (`Unfolds`), and the outline depends on
    that tree alone.

    * `Outline.lines` — the lines of a tree, by recursion on it and without any backend;
    * `Outline.outcome_text` — an outline of a handle is the text of the lines of the tree that
      the handle unfolds to;
    * `Tree.unfolds_root` — a tree in memory unfolds to itself, less its empty texts. -/

namespace ElementLocator

-- ── trees behind handles ──────────────────────────────────────────────────

/-- A task that succeeds, with its answer and the lines that it finished. -/
def Writes {ν α : Type} (x : Task ν α) (a : α) (lines : List String) : Prop :=
  x.outcome = .ok a ∧ finishedLines x.notes = lines

theorem finishedLines_append {ν : Type} (ns ms : List (Note ν)) :
    finishedLines (ns ++ ms) = finishedLines ns ++ finishedLines ms := List.filterMap_append

theorem Writes.bind {ν α β : Type} {x : Task ν α} {f : α → Task ν β} {a : α} {b : β}
    {l m : List String} (hx : Writes x a l) (hf : Writes (f a) b m) : Writes (x >>= f) b (l ++ m) := by
  obtain ⟨hx, hl⟩ := hx
  obtain ⟨hf, hm⟩ := hf
  refine ⟨by rw [Report.outcome_bind_of_ok hx, hf], ?_⟩
  rw [Report.notes_bind, hx, finishedLines_append, hl, hm]

theorem Writes.pure {ν α : Type} (a : α) : Writes (Pure.pure a : Task ν α) a [] := ⟨rfl, rfl⟩

section Unfolding

variable {ν : Type} (access : TreeAccess ν)

mutual

/-- A handle unfolds to a tree: its reads succeed and finish no lines, the attributes are those
    of the root, and the children unfold to the subtrees in order. -/
def Unfolds : Tree → ν → Prop
  | .node a ts, node =>
    Writes (access.attributes node) a [] ∧
      ∃ cs, Writes (access.children node) cs [] ∧ UnfoldsEach ts cs

/-- Handles unfold to trees one by one. -/
def UnfoldsEach : List Tree → List ν → Prop
  | [], [] => True
  | t :: ts, c :: cs => Unfolds t c ∧ UnfoldsEach ts cs
  | _, _ => False

end

end Unfolding

-- ── lines of trees ────────────────────────────────────────────────────────

namespace Outline

mutual

/-- The lines of a tree at a depth. -/
def lines (depth : Nat) : Tree → List String
  | .node a cs => placed depth (ownLines a (!cs.isEmpty)) ++ linesEach (depth + 1) cs

/-- The lines of several trees at a depth. -/
def linesEach (depth : Nat) : List Tree → List String
  | [] => []
  | t :: rest => lines depth t ++ linesEach depth rest

end

variable {ν : Type} {access : TreeAccess ν}

theorem finishedLines_map_line (ls : List String) :
    finishedLines (ls.map (Note.line : String → Note ν)) = ls := by
  rw [finishedLines, List.filterMap_map]
  exact List.filterMap_some

theorem each_line (ls : List String) :
    Report.each (fun s => (Report.note (.line s) : Task ν Unit)) ls = ⟨ls.map .line, .ok ()⟩ := by
  induction ls with
  | nil => rfl
  | cons s rest ih =>
      rw [Report.each_cons, ih]
      rfl

theorem writes_each_note (ls : List String) :
    Writes (Report.each (fun s => (Report.note (.line s) : Task ν Unit)) ls) () ls := by
  rw [each_line]
  exact ⟨rfl, finishedLines_map_line ls⟩

theorem writes_readNode {node : ν} {a : NodeAttributes} {cs : List ν} (depth : Nat)
    (ha : Writes (access.attributes node) a []) (hcs : Writes (access.children node) cs []) :
    Writes (readNode access depth node) (placed depth (ownLines a (!cs.isEmpty)), cs) [] := by
  simp only [readNode]
  exact ha.bind (hcs.bind (Writes.pure _))

theorem isEmpty_of_unfoldsEach {ts : List Tree} {cs : List ν} (h : UnfoldsEach access ts cs) :
    cs.isEmpty = ts.isEmpty := by
  cases ts with
  | nil =>
      cases cs with
      | nil => rfl
      | cons c cs => exact (h : False).elim
  | cons t ts =>
      cases cs with
      | nil => exact (h : False).elim
      | cons c cs => rfl

mutual

/-- **AN OUTLINE WRITES THE LINES OF THE TREE** that its handle unfolds to. The recursion is on
    that tree; the levels that may still be entered exceed its height all the way down. -/
theorem writes_write (limit : Nat) {levels depth : Nat} {node : ν} :
    ∀ {t : Tree}, Unfolds access t node → t.height < levels →
      Writes (write access limit levels depth node) () (lines depth t)
  | .node a ts, h, hlevels => by
      obtain ⟨ha, cs, hcs, hts⟩ := h
      rw [Tree.height] at hlevels
      cases levels with
      | zero => exact nomatch hlevels
      | succ levels =>
          rw [lines, ← isEmpty_of_unfoldsEach hts]
          simp only [write]
          refine Writes.bind (l := []) (writes_readNode depth ha hcs) ?_
          refine Writes.bind (writes_each_note _) ?_
          exact writes_writeEach limit hts (by omega)

theorem writes_writeEach (limit : Nat) {levels depth : Nat} :
    ∀ {ts : List Tree} {cs : List ν}, UnfoldsEach access ts cs → Tree.heightAll ts ≤ levels →
      Writes (Report.each (write access limit levels depth) cs) () (linesEach depth ts)
  | [], [], _, _ => ⟨rfl, rfl⟩
  | t :: ts, c :: cs, h, hlevels => by
      obtain ⟨ht, hts⟩ := h
      rw [Tree.heightAll] at hlevels
      rw [Report.each_cons, linesEach]
      exact (writes_write limit ht (by omega)).bind (writes_writeEach limit hts (by omega))

end

/-- **THE OUTLINE OF A HANDLE** is the text of the lines of its tree, if the limit reaches the
    bottom. -/
theorem outcome_text {t : Tree} {node : ν} (limit : DepthLimit) (h : Unfolds access t node)
    (ht : t.height ≤ limit.levels) :
    (text access (.ok limit) node).outcome = .ok (textOf (lines 0 t)) := by
  obtain ⟨hend, hlines⟩ : Writes (write access limit.levels (limit.levels + 1) 0 node) () (lines 0 t) :=
    writes_write limit.levels h (Nat.lt_succ_of_le ht)
  have hroot : Writes (ofRoot access (.ok limit) node) () (lines 0 t) :=
    Writes.bind (l := []) (a := limit) ⟨rfl, rfl⟩ ⟨hend, hlines⟩
  rw [text]
  dsimp only
  rw [hroot.1, hroot.2]
  rfl

-- ── lines of one node ─────────────────────────────────────────────────────

/-- A key with its text, if there is one to show. -/
def shown (key : String) (v : Option String) : List (String × String) :=
  (present v).toList.map (key, ·)

/-- What a node shows: keys with texts, in order. -/
def fields (a : NodeAttributes) : List (String × String) :=
  shown "role" a.role ++ shown "identifier" a.identifier ++ shown "className" a.className ++
    shown "label" a.label

/-- The line of a key with its text. -/
def fieldText (field : String × String) : String := field.1 ++ ": " ++ Text.Quoted.quote field.2

theorem fieldLine_eq_map_shown (key : String) (v : Option String) :
    fieldLine key v = (shown key v).map fieldText := by
  simp only [fieldLine, shown]
  cases present v <;> rfl

/-- A node without anything to show is an empty mapping. -/
theorem ownLines_empty {a : NodeAttributes} (h : fields a = []) :
    ownLines a false = ["\x7b\x7d"] := by
  simp only [ownLines]
  simp only [fieldLine_eq_map_shown, ← List.map_append]
  rw [show shown "role" a.role ++ shown "identifier" a.identifier ++ shown "className" a.className ++
    shown "label" a.label = [] from h]
  rfl

/-- Any other node shows its fields, and then that it has children. -/
theorem ownLines_fields {a : NodeAttributes} {hasChildren : Bool}
    (h : fields a ≠ [] ∨ hasChildren = true) :
    ownLines a hasChildren =
      (fields a).map fieldText ++ (if hasChildren then ["children:"] else []) := by
  simp only [ownLines]
  simp only [fieldLine_eq_map_shown, ← List.map_append]
  refine if_neg ?_
  intro hempty
  obtain ⟨hfields, hchildren⟩ := List.append_eq_nil_iff.mp (List.isEmpty_iff.mp hempty)
  rcases h with h | h
  · exact h (List.map_eq_nil_iff.mp hfields)
  · rw [if_pos h] at hchildren
    exact nomatch hchildren

theorem ownLines_ne_nil (a : NodeAttributes) (hasChildren : Bool) : ownLines a hasChildren ≠ [] := by
  by_cases h : fields a ≠ [] ∨ hasChildren = true
  · intro hnil
    rw [ownLines_fields h] at hnil
    obtain ⟨hfields, hchildren⟩ := List.append_eq_nil_iff.mp hnil
    rcases h with h | h
    · exact h (List.map_eq_nil_iff.mp hfields)
    · rw [if_pos h] at hchildren
      exact nomatch hchildren
  · obtain ⟨hfields, hchildren⟩ := not_or.mp h
    rw [eq_false_of_ne_true hchildren, ownLines_empty (Classical.not_not.mp hfields)]
    exact List.cons_ne_nil _ _

theorem lines_ne_nil (depth : Nat) (t : Tree) : lines depth t ≠ [] := by
  obtain ⟨a, cs⟩ := t
  intro hnil
  rw [lines] at hnil
  cases hown : ownLines a (!cs.isEmpty) with
  | nil => exact ownLines_ne_nil _ _ hown
  | cons first rest =>
      rw [hown, placed] at hnil
      exact nomatch hnil

/-- Each line ends in a line break. -/
theorem toList_textOf {ls : List String} (h : ls ≠ []) :
    (textOf ls).toList = ls.flatMap fun l => l.toList ++ ['\n'] := by
  simp only [textOf]
  induction ls with
  | nil => exact absurd rfl h
  | cons l rest ih =>
      cases rest with
      | nil => simp
      | cons m rest =>
          have ih := ih (List.cons_ne_nil m rest)
          rw [String.toList_append] at ih ⊢
          rw [String.intercalate_cons_cons, List.flatMap_cons, ← ih]
          simp

theorem textOf_eq_fileText : ∀ {lines : List String}, lines ≠ [] → textOf lines = fileText lines
  | [], h => absurd rfl h
  | [line], _ => by
      rw [textOf, String.intercalate_singleton, fileText, List.map_singleton, String.join_cons,
        String.join_nil, String.append_empty]
  | line :: next :: rest, _ => by
      rw [textOf, String.intercalate_cons_cons, String.append_assoc, ← textOf,
        textOf_eq_fileText (List.cons_ne_nil next rest), fileText, fileText]
      exact String.join_cons.symm

end Outline

-- ── trees in memory ───────────────────────────────────────────────────────

namespace Tree

mutual

/-- The tree as a backend reports it: an empty text counts as none, everywhere. -/
def visible : Tree → Tree
  | .node a cs => .node a.visible (visibleEach cs)

/-- Several trees as a backend reports them. -/
def visibleEach : List Tree → List Tree
  | [] => []
  | t :: rest => t.visible :: visibleEach rest

end

theorem present_present (s : Option String) : present (present s) = present s := by
  simp only [present]
  rw [Option.filter_filter]
  simp

theorem visible_visible (a : NodeAttributes) : a.visible.visible = a.visible := by
  simp only [NodeAttributes.visible]
  simp only [present_present]

mutual

theorem visible_idem : ∀ t : Tree, t.visible.visible = t.visible
  | .node a cs => by rw [visible, visible, visible_visible, visibleEach_idem cs]

theorem visibleEach_idem : ∀ ts : List Tree, visibleEach (visibleEach ts) = visibleEach ts
  | [] => rfl
  | t :: rest => by rw [visibleEach, visibleEach, visible_idem t, visibleEach_idem rest]

end

mutual

theorem height_visible : ∀ t : Tree, t.visible.height = t.height
  | .node a cs => by rw [visible, height, height, heightAll_visibleEach cs]

theorem heightAll_visibleEach : ∀ ts : List Tree, heightAll (visibleEach ts) = heightAll ts
  | [] => rfl
  | t :: rest => by
      rw [visibleEach, heightAll, heightAll, height_visible t, heightAll_visibleEach rest]

end

mutual

theorem unfolds_visible (path : List Nat) :
    ∀ t : Tree, Unfolds (access fun _ => none) t.visible ⟨path, t⟩
  | .node a cs => by
      rw [visible]
      refine ⟨⟨rfl, rfl⟩, Located.childrenFrom path 0 cs, ⟨rfl, rfl⟩, ?_⟩
      exact unfoldsEach_visible path 0 cs

theorem unfoldsEach_visible (path : List Nat) (i : Nat) :
    ∀ ts : List Tree,
      UnfoldsEach (access fun _ => none) (visibleEach ts) (Located.childrenFrom path i ts)
  | [] => trivial
  | t :: rest => by
      rw [visibleEach, Located.childrenFrom]
      exact ⟨unfolds_visible (path ++ [i]) t, unfoldsEach_visible path (i + 1) rest⟩

end

/-- **A TREE IN MEMORY UNFOLDS TO ITSELF**, less its empty texts. -/
theorem unfolds_root (t : Tree) : Unfolds (access fun _ => none) t.visible (Located.root t) :=
  unfolds_visible [] t

end Tree

end ElementLocator
