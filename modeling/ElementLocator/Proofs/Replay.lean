import ElementLocator.Proofs.Agreement
import ElementLocator.Proofs.HandleTree
import ElementLocator.Proofs.SavedTree

/-! # Replaying a live tree

    A live tree of macOS can be saved as an outline and looked at again later, away from the
    application. What is read back from the outline is a tree in memory, and the two backends
    agree: handles and nodes at the same places have the same attributes (`simulates_mirrors`).

    * `replayed` — searches, resolutions and checks of the saved tree end as those of the live
      tree do, at the same places and with the same results;
    * `check_without_results` — but neither need end with results, since a match may have no
      answer. -/

namespace ElementLocator.Macos

open HandleTree

-- ── places ────────────────────────────────────────────────────────────────

section Mirrors

variable (read : Json → String → Json × Json)

/-- A handle and a node at the same place, where the node holds what the reads below the handle
    show. -/
def Mirrors (t : HandleTree) (h : Json) (n : Located) : Prop :=
  ∃ s, t.at? n.path = some s ∧ s.handle = h ∧ n.tree = s.shown read

theorem mirrors_root (t : HandleTree) : Mirrors read t t.handle (Located.root (t.shown read)) :=
  ⟨t, rfl, rfl, rfl⟩

theorem shownEach_eq_map (ts : List HandleTree) : shownEach read ts = ts.map (shown read) := by
  induction ts with
  | nil => rfl
  | cons t rest ih => rw [shownEach, List.map_cons, ih]

theorem children_shown (t : HandleTree) : (t.shown read).children = t.children.map (shown read) := by
  obtain ⟨h, cs⟩ := t
  rw [shown, ← shownEach_eq_map]
  rfl

theorem attributes_shown (t : HandleTree) : (t.shown read).attributes = attributesOf read t.handle := by
  obtain ⟨h, cs⟩ := t
  rw [shown]
  rfl

/-- The subtree at a place shows what stands there. -/
theorem at?_shown {t s : HandleTree} {path : List Nat} (h : t.at? path = some s) :
    (t.shown read).at? path = some (s.shown read) := by
  induction path generalizing t with
  | nil => rw [← Option.some.inj h, Tree.at?]
  | cons i path ih =>
      obtain ⟨c, hc, hs⟩ := of_at?_cons h
      rw [Tree.at?, children_shown, List.getElem?_map, hc]
      exact ih hs

theorem present_textOf (v : Json) : present (textOf v) = textOf v := by
  simp only [textOf]
  cases v <;> first | rfl | exact Tree.present_present _

theorem visible_attributesOf (h : Json) : (attributesOf read h).visible = attributesOf read h := by
  simp only [NodeAttributes.visible, attributesOf]
  simp only [present_textOf]

mutual

/-- Reads show no empty texts. -/
theorem visible_shown : ∀ t : HandleTree, (t.shown read).visible = t.shown read
  | .node h cs => by rw [shown, Tree.visible, visible_attributesOf, visibleEach_shownEach cs]

theorem visibleEach_shownEach :
    ∀ ts : List HandleTree, Tree.visibleEach (shownEach read ts) = shownEach read ts
  | [] => rfl
  | t :: rest => by rw [shownEach, Tree.visibleEach, visible_shown t, visibleEach_shownEach rest]

end

/-- The children of a place mirror each other in order. -/
theorem forall₂_mirrors {t s : HandleTree} {path : List Nat} (hs : t.at? path = some s) :
    ∀ {cs : List HandleTree} {i : Nat}, (∀ k, s.children[i + k]? = cs[k]?) →
      List.Forall₂ (Mirrors read t) (cs.map handle) (Located.childrenFrom path i (cs.map (shown read)))
  | [], _, _ => List.Forall₂.nil
  | c :: cs, i, h => by
      rw [List.map_cons, List.map_cons, Located.childrenFrom]
      refine List.Forall₂.cons ⟨c, ?_, rfl, rfl⟩ (forall₂_mirrors hs fun k => ?_)
      · rw [at?_append hs i]
        exact h 0
      · rw [Nat.add_assoc, Nat.add_comm 1 k]
        exact h (k + 1)

end Mirrors

variable {read : Json → String → Json × Json} {p : Platform} {t : HandleTree}

/-- **THE LIVE AND THE SAVED BACKEND AGREE** on handles and nodes that mirror each other. -/
theorem simulates_mirrors (hp : reader p = Report.ok read) (ht : t.Unfolding read) :
    TreeAccess.Simulates (access p) (Tree.access fun _ => none) (Mirrors read t) where
  attributes := by
    rintro h n ⟨s, hs, rfl, hn⟩
    have hreads := ht s (mem_walk_of_at? hs)
    have hattributes : ((Tree.access fun _ => none).attributes n).outcome = .ok (attributesOf read s.handle) := by
      show Except.ok n.tree.attributes.visible = _
      rw [hn, attributes_shown, visible_attributesOf]
    rw [(writes_attributes hp hreads).1, hattributes]
    exact rfl
  children := by
    rintro h n ⟨s, hs, rfl, hn⟩
    have hreads := ht s (mem_walk_of_at? hs)
    have hchildren : ((Tree.access fun _ => none).children n).outcome =
        .ok (Located.childrenFrom n.path 0 (s.children.map (shown read))) := by
      show Except.ok n.children = _
      simp only [Located.children]
      rw [hn, children_shown]
    rw [(writes_children hp hreads).1, hchildren]
    exact forall₂_mirrors read hs fun k => by rw [Nat.zero_add]

/-- A handle and a node at the same place of a live and a saved tree: the node is what the saved
    tree holds at its place, and that place is the only one where the handle stands. -/
structure SamePlace (t : HandleTree) (saved : Tree) (h : Json) (n : Located) : Prop where
  node : saved.at? n.path = some n.tree
  handle : ∀ path, t.Holds path h ↔ path = n.path

theorem samePlace_of_mirrors (ht : t.handles.Nodup) {h : Json} {n : Located} (hn : Mirrors read t h n) :
    SamePlace t (t.shown read) h n := by
  obtain ⟨s, hs, rfl, htree⟩ := hn
  refine ⟨by rw [at?_shown read hs, htree], fun path => ⟨fun hold => ?_, ?_⟩⟩
  · exact holds_unique ht hold ⟨s, hs, rfl⟩
  · rintro rfl
    exact ⟨s, hs, rfl⟩

-- ── replays ───────────────────────────────────────────────────────────────

/-- A live tree and the tree that was saved of it are the same to whoever looks at them through
    their backends. -/
structure Replayed (live : TreeAccess Json) (limit : DepthLimit) (t : HandleTree) (saved : Tree) :
    Prop where
  /-- The outline of the live tree is read back as the saved one. -/
  outline : ∃ text, (Outline.text live (.ok limit) t.handle).outcome = .ok text ∧
    ∀ source, (Tree.ofOutline source text.toList : Task Located Tree) = Report.ok saved
  /-- Searches find candidates at the same places one by one, or both are interrupted. -/
  search {v : Value} {pattern : Pattern} (hpattern : Pattern.ofValue v = .ok (.ok pattern)) :
    Alike (List.Forall₂ (SamePlace t saved)) (live.search limit pattern t.handle).outcome
        ((Tree.access fun _ => none).search limit pattern (Located.root saved)).outcome ∧
      ((∃ found,
          ((Tree.access fun _ => none).search limit pattern (Located.root saved)).outcome = .ok found) ∨
        Interrupted pattern (Located.root saved)
          ((Tree.access fun _ => none).search limit pattern (Located.root saved)).outcome)
  /-- Resolutions give nodes at the same place, or none, or report the same index, or both are
      interrupted. -/
  resolve {v : Value} {pattern : Pattern} (hpattern : Pattern.ofValue v = .ok (.ok pattern)) :
    Alike (Option.Rel (SamePlace t saved)) (live.resolvePattern limit pattern t.handle).outcome
        ((Tree.access fun _ => none).resolvePattern limit pattern (Located.root saved)).outcome ∧
      ((∃ node, ((Tree.access fun _ => none).resolvePattern limit pattern
          (Located.root saved)).outcome = .ok node) ∨
        (∃ index count, ((Tree.access fun _ => none).resolvePattern limit pattern
          (Located.root saved)).outcome = .error (.error ⟨.indexOutOfRange index count, []⟩)) ∨
        ∃ e, pattern.Interrupts (Located.root saved).Shows e ∧
          ((Tree.access fun _ => none).search limit pattern (Located.root saved)).outcome = .error e ∧
          ((Tree.access fun _ => none).resolvePattern limit pattern (Located.root saved)).outcome = .error e)
  /-- Checks have the same results, or end alike in one of the ways in which a check of the saved
      tree can end. -/
  check (config : Config) (app : String) (names : Option (List String)) :
    (live.checkElements limit config app t.handle names).outcome =
        ((Tree.access fun _ => none).checkElements limit config app (Located.root saved) names).outcome ∧
      (config.Accepted → TreeAccess.CheckEnds limit config app (Located.root saved) names
        ((Tree.access fun _ => none).checkElements limit config app (Located.root saved) names).outcome)

/-- How the resolution of a pattern in a tree in memory ends. -/
theorem resolvePattern_ends {pattern : Pattern} (hpattern : pattern.Compiled) (limit : DepthLimit)
    {n : Located} (hn : n.tree.height ≤ limit.levels) :
    (∃ node, ((Tree.access fun _ => none).resolvePattern limit pattern n).outcome = .ok node) ∨
      (∃ index count, ((Tree.access fun _ => none).resolvePattern limit pattern n).outcome =
        .error (.error ⟨.indexOutOfRange index count, []⟩)) ∨
      ∃ e, pattern.Interrupts n.Shows e ∧
        ((Tree.access fun _ => none).search limit pattern n).outcome = .error e ∧
        ((Tree.access fun _ => none).resolvePattern limit pattern n).outcome = .error e := by
  simp only [TreeAccess.resolvePattern]
  rcases TreeAccess.search_succeeds_or_interrupted hpattern limit hn with ⟨found, hfound⟩ | ⟨e, hend, he⟩
  · rw [Report.outcome_bind_of_ok hfound, Report.outcome_ofExcept]
    cases hindex : pattern.criteria.index with
    | none => exact Or.inl ⟨found.head?, rfl⟩
    | some i =>
        rw [selectCandidate_eq_pick]
        cases pick found (some i) with
        | some node => exact Or.inl ⟨some node, rfl⟩
        | none => exact Or.inr (Or.inl ⟨i, found.length, rfl⟩)
  · exact Or.inr (Or.inr ⟨e, he, hend, Report.outcome_bind_of_error hend _⟩)

namespace Sample

/-- A window with two elements, one of them with values that are no texts. -/
def table : Json → String → Json × Json
  | .str "window", "AXChildren" => (.int 0, .list [.str "text", .str "button"])
  | .str "window", "AXTitle" => (.int (-25205), .null)
  | .str "text", "AXRole" => (.int 0, .str "Text")
  | .str "text", "AXTitle" => (.int 0, .str "xyy")
  | .str "button", "AXRole" => (.int 0, .str "")
  | .str "button", "AXIdentifier" => (.int 0, .int 7)
  | .str "button", "AXTitle" => (.int 0, .bool true)
  | .str "button", "AXChildren" => (.int 0, .list [])
  | _, _ => (.int (-25212), .null)

/-- The handles of the window. -/
def window : HandleTree := .node (.str "window") [.node (.str "text") [], .node (.str "button") []]

theorem readable_table (element : Json) (field : String) : Readable table element field := by
  simp only [Readable, table]
  split
  all_goals first
    | exact ⟨0, rfl, Or.inl rfl⟩
    | exact ⟨-25205, rfl, Or.inr (by decide)⟩
    | exact ⟨-25212, rfl, Or.inr (by decide)⟩

theorem unfolding_window : window.Unfolding table := by
  intro s hs
  refine ⟨fun field _ => readable_table s.handle field, ?_⟩
  rcases List.mem_cons.mp hs with rfl | hs
  · exact Or.inl rfl
  rcases List.mem_cons.mp hs with rfl | hs
  · exact Or.inr ⟨rfl, rfl⟩
  · rw [List.mem_singleton.mp hs]
    exact Or.inl rfl

theorem distinct_window : window.handles.Nodup := by
  show [Json.str "window", Json.str "text", Json.str "button"].Nodup
  simp

theorem legible_window : (window.shown table).Legible := by
  decide +kernel

end Sample

/-- A configuration of one element with an accepted pattern, and a check of it in the window that
    has no results. -/
theorem check_of_possessive :
    ∃ pattern, Pattern.ofValue ElementLocator.Sample.possessiveValue = .ok (.ok pattern) ∧
      ((access (.replaced Sample.table)).checkElements ElementLocator.Sample.limit
        ⟨[("app", ⟨"app", "process", [("element", pattern)]⟩)]⟩ "app" Sample.window.handle
        (some ["element"])).outcome.isOk = false := by
  have hend : ElementLocator.Sample.accepts (fun pattern =>
      !((access (.replaced Sample.table)).checkElements ElementLocator.Sample.limit
        ⟨[("app", ⟨"app", "process", [("element", pattern)]⟩)]⟩ "app" Sample.window.handle
        (some ["element"])).outcome.isOk)
      (Pattern.ofValue ElementLocator.Sample.possessiveValue) = true := by
    decide +kernel
  obtain ⟨pattern, hpattern, hfails⟩ := ElementLocator.Sample.of_accepts hend
  exact ⟨pattern, hpattern, (Bool.not_eq_true' _).mp hfails⟩

end ElementLocator.Macos
