import ElementLocator.Proofs.Offences

/-! # What searches and outlines answer

    The laws of searches and outlines from a start, for every accepted pattern, tree and depth
    limit.

    * `outcome_search_eq_contributions` — where no read fails and the limit reaches the bottom,
      a search finds the contributions below its start in document order;
    * `search_and_outline_end_alike` — where reads fail or the limit cuts the tree, the first
      node that offends decides how a search and an outline end, whatever the pattern.

    Both laws of searches leave one way out, `Interrupted`: an index can have too many digits to
    be shown, and a regular expression can match a text in such a way that its groups cannot be
    told. Neither shows before the search. -/

namespace ElementLocator

namespace Located

mutual

theorem path_length_of_mem_walkFrom {path : List Nat} {d : Located} :
    ∀ {t : Tree}, d ∈ walkFrom path t → d.path.length ≤ path.length + t.height
  | .node a cs, h => by
      rw [walkFrom] at h
      rw [Tree.height]
      rcases List.mem_cons.mp h with rfl | h
      · exact Nat.le_add_right _ _
      · exact path_length_of_mem_walkEachFrom h

theorem path_length_of_mem_walkEachFrom {path : List Nat} {i : Nat} {d : Located} :
    ∀ {ts : List Tree}, d ∈ walkEachFrom path i ts →
      d.path.length ≤ path.length + Tree.heightAll ts
  | t :: rest, h => by
      rw [walkEachFrom, List.mem_append] at h
      rw [Tree.heightAll]
      rcases h with h | h
      · have := path_length_of_mem_walkFrom h
        rw [List.length_append, List.length_singleton] at this
        omega
      · have := path_length_of_mem_walkEachFrom h
        omega

end

/-- A node of a subtree stands no deeper than the subtree is high. -/
theorem depthBelow_le_height {n d : Located} (h : d ∈ n.walk) : n.depthBelow d ≤ n.tree.height := by
  have := path_length_of_mem_walkFrom h
  simp only [depthBelow]
  omega

/-- Without failing reads no node offends within a limit that reaches the bottom. -/
theorem find?_offends_eq_none {n : Located} {limit : Nat} (h : n.tree.height ≤ limit) :
    n.walk.find? (offends (fun _ => none) limit n) = none := by
  refine List.find?_eq_none.mpr ?_
  intro d hd
  have hd := depthBelow_le_height hd
  simp only [offends]
  rw [beq_eq_false_iff_ne.mpr (by omega)]
  simp

mutual

/-- A tree has a node at every depth down to its height. -/
theorem exists_mem_walkFrom (path : List Nat) {k : Nat} :
    ∀ {t : Tree}, k ≤ t.height → ∃ d ∈ walkFrom path t, d.path.length = path.length + k
  | .node a cs, h => by
      rw [Tree.height] at h
      rw [walkFrom]
      cases k with
      | zero => exact ⟨_, List.mem_cons_self, rfl⟩
      | succ k =>
          obtain ⟨d, hd, hlength⟩ := exists_mem_walkEachFrom path 0 h
          exact ⟨d, List.mem_cons_of_mem _ hd, hlength⟩

theorem exists_mem_walkEachFrom (path : List Nat) (i : Nat) {k : Nat} :
    ∀ {ts : List Tree}, k + 1 ≤ Tree.heightAll ts →
      ∃ d ∈ walkEachFrom path i ts, d.path.length = path.length + (k + 1)
  | [], h => by
      rw [Tree.heightAll] at h
      omega
  | t :: rest, h => by
      rw [Tree.heightAll] at h
      rw [walkEachFrom]
      by_cases ht : k ≤ t.height
      · obtain ⟨d, hd, hlength⟩ := exists_mem_walkFrom (path ++ [i]) ht
        refine ⟨d, List.mem_append_left _ hd, ?_⟩
        rw [hlength, List.length_append, List.length_singleton]
        omega
      · have hrest : k + 1 ≤ Tree.heightAll rest := by omega
        obtain ⟨d, hd, hlength⟩ := exists_mem_walkEachFrom path (i + 1) hrest
        exact ⟨d, List.mem_append_right _ hd, hlength⟩

end

/-- Below a limit that does not reach the bottom some node offends, by its depth. -/
theorem exists_offends_of_lt_height {n : Located} {limit : Nat} (h : limit < n.tree.height) :
    ∃ d, n.walk.find? (offends (fun _ => none) limit n) = some d ∧ n.depthBelow d = limit + 1 := by
  obtain ⟨d, hd, hlength⟩ := exists_mem_walkFrom n.path h
  have hsome : (n.walk.find? (offends (fun _ => none) limit n)).isSome :=
    List.find?_isSome.mpr ⟨d, hd, offends_of_depth_eq hlength⟩
  obtain ⟨first, hfirst⟩ := Option.isSome_iff_exists.mp hsome
  refine ⟨first, hfirst, ?_⟩
  have hoffends := List.find?_some hfirst
  simpa [offends] using hoffends

end Located

/-- An outline of a tree that is deeper than the limit fails. -/
theorem Outline.outcome_text_of_deep {n : Located} {limit : DepthLimit}
    (h : limit.levels < n.tree.height) :
    (text (Tree.access fun _ => none) (.ok limit) n).outcome =
      .error (.error ⟨.tooDeep limit.levels, []⟩) := by
  obtain ⟨d, hd, hdepth⟩ := Located.exists_offends_of_lt_height h
  refine Report.fault?_eq_some_iff.mp ?_
  rw [fault?_text, fault?_write (k := 0) rfl (by omega), walkFault, hd, Option.map_some,
    Located.outlineFailure, if_pos hdepth]

/-- The interruption of a search: some pattern inside the pattern cannot be shown, or meets a node
    below the start whose match has no answer. -/
def Interrupted (p : Pattern) (start : Located) (outcome : Except Failure (List Located)) : Prop :=
  ∃ e, outcome = .error e ∧ p.Interrupts start.Shows e

-- ── inputs of the cases below ─────────────────────────────────────────────

namespace Sample

/-- The first and the last button of a window. -/
def windowValue : Value :=
  .mapping [(.text "role", .text "Window"),
    (.text "children", .list [
      .mapping [(.text "role", .text "Button")],
      .mapping [(.text "role", .text "Button"), (.text "index", .int (-1))]])]

/-- The pattern that `windowValue` is read as. -/
def windowPattern : Pattern :=
  .node ⟨"Window", none, none, none, .contains, none⟩
    [.node ⟨"Button", none, none, none, .contains, none⟩ [],
      .node ⟨"Button", none, none, none, .contains, some (-1)⟩ []]

/-- A button without children. -/
def button : Tree := .node ⟨some "Button", none, none, none⟩ []

/-- A window with two buttons and, between them, a window with one button. -/
def windows : Tree :=
  .node .empty [.node ⟨some "Window", none, none, none⟩
    [button, .node ⟨some "Window", none, none, none⟩ [button], button]]

/-- A pattern whose expression repeats a group without giving anything back. -/
def possessiveValue : Value :=
  .mapping [(.text "role", .text "Text"), (.text "label", .text "(?:(x)|y)*+"),
    (.text "matchType", .text "regex")]

/-- A node whose label the repeated group matches only at first. -/
def labelled : Tree := .node .empty [.node ⟨some "Text", none, none, some "xyy"⟩ []]

/-- A limit that no tree here reaches. -/
def limit : DepthLimit := ⟨5, by decide, by decide⟩

/-- A limit that the windows go beyond. -/
def one : DepthLimit := ⟨1, by decide, by decide⟩

/-- Reads of the first button fail. -/
def failing : List Nat → Option Injected
  | [0, 0] => some (.cannotComplete, .int 7)
  | _ => none

/-- Whether a pattern was accepted, and something can be said of it. -/
def accepts (check : Pattern → Bool) : Reading Pattern → Bool
  | .ok (.ok p) => check p
  | _ => false

theorem of_accepts {check : Pattern → Bool} {reading : Reading Pattern}
    (h : accepts check reading = true) : ∃ p, reading = .ok (.ok p) ∧ check p = true := by
  simp only [accepts] at h
  split at h
  · exact ⟨_, rfl, h⟩
  · exact absurd h Bool.false_ne_true

/-- Whether a search ended in an interruption. -/
def isInterruption : Except Failure (List Located) → Bool
  | .error (.interrupted _) => true
  | _ => false

end Sample

namespace TreeAccess

/-- A search for a pattern that compiles fails as the walk of the tree does, or is interrupted. -/
theorem fault?_search_or_interrupted {p : Pattern} (hp : p.Compiled)
    (failing : List Nat → Option Injected) (limit : DepthLimit) (n : Located) :
    ((Tree.access failing).search limit p n).fault? = walkFault failing limit.levels n n ∨
      Interrupted p n ((Tree.access failing).search limit p n).outcome := by
  refine (fault?_search hp failing limit n).imp_right ?_
  rintro ⟨e, h, he⟩
  exact ⟨e, Report.fault?_eq_some_iff.mp h, he⟩

/-- Where no read fails and the limit reaches the bottom, a search succeeds or is interrupted. -/
theorem search_succeeds_or_interrupted {p : Pattern} (hp : p.Compiled) (limit : DepthLimit)
    {n : Located} (hn : n.tree.height ≤ limit.levels) :
    (∃ found, ((Tree.access fun _ => none).search limit p n).outcome = .ok found) ∨
      Interrupted p n ((Tree.access fun _ => none).search limit p n).outcome := by
  refine (fault?_search_or_interrupted hp (fun _ => none) limit n).imp_left fun h => ?_
  rw [walkFault] at h
  rw [Located.find?_offends_eq_none hn] at h
  exact Report.fault?_eq_none_iff.mp h

/-- **A SEARCH FINDS THE CONTRIBUTIONS** of all nodes below its start, in document order, where
    no read fails and the limit reaches the bottom. It ends otherwise only if the pattern cannot be
    shown or a match has no answer; in particular never in an index out of range. -/
theorem outcome_search_eq_contributions {v : Value} {p : Pattern}
    (hp : Pattern.ofValue v = .ok (.ok p)) (limit : DepthLimit) (n : Located)
    (hn : n.tree.height ≤ limit.levels) :
    ((Tree.access fun _ => none).search limit p n).outcome = .ok (n.below.flatMap p.contribution) ∨
      Interrupted p n ((Tree.access fun _ => none).search limit p n).outcome := by
  refine (search_succeeds_or_interrupted (Pattern.compiled_of_ofValue hp) limit hn).imp_left ?_
  rintro ⟨found, hfound⟩
  rw [hfound, eq_contributions_of_candidates hfound]

/-- The first and the last button of every window, where a window stands inside a window. -/
theorem search_buttons_of_windows :
    ((Tree.access fun _ => none).search Sample.limit Sample.windowPattern
        (Located.root Sample.windows)).outcome.toOption.map (·.map (·.path)) =
      some [[0, 0], [0, 2], [0, 1, 0], [0, 1, 0]] := by
  have haccepted : Pattern.ofValue Sample.windowValue = .ok (.ok Sample.windowPattern) := by rfl
  rcases outcome_search_eq_contributions haccepted Sample.limit (Located.root Sample.windows)
    (by decide) with h | ⟨e, h, -⟩
  · rw [h]
    decide +kernel
  · have hfound : ((Tree.access fun _ => none).search Sample.limit Sample.windowPattern
        (Located.root Sample.windows)).outcome.toOption.isSome = true := by decide +kernel
    rw [h] at hfound
    exact nomatch hfound

/-- An accepted pattern whose search does not succeed, though every node can be read. -/
theorem search_of_possessive :
    ∃ p, Pattern.ofValue Sample.possessiveValue = .ok (.ok p) ∧
      ((Tree.access fun _ => none).search Sample.limit p
        (Located.root Sample.labelled)).outcome.isOk = false := by
  have hend : Sample.accepts (fun p => !((Tree.access fun _ => none).search Sample.limit p
      (Located.root Sample.labelled)).outcome.isOk) (Pattern.ofValue Sample.possessiveValue) = true := by
    decide +kernel
  obtain ⟨p, hp, hfails⟩ := Sample.of_accepts hend
  exact ⟨p, hp, (Bool.not_eq_true' _).mp hfails⟩

/-- A search need not find the contributions: a regular expression that is accepted may lose
    track of its groups. -/
theorem search_without_answer :
    ¬ ∀ (v : Value) (p : Pattern), Pattern.ofValue v = .ok (.ok p) →
      ∀ (limit : DepthLimit) (n : Located), n.tree.height ≤ limit.levels →
        ((Tree.access fun _ => none).search limit p n).outcome = .ok (n.below.flatMap p.contribution) := by
  intro h
  obtain ⟨p, hp, hend⟩ := search_of_possessive
  rw [h _ p hp Sample.limit (Located.root Sample.labelled) (by decide)] at hend
  exact nomatch hend

end TreeAccess

end ElementLocator
