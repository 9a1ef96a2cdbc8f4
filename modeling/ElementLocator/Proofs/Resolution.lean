import Mathlib.Data.List.Basic
import ElementLocator.Proofs.SearchAnswers

/-! # What a pattern resolves to

    One selection is made in two places: by the caller of a search, who is told when an index
    lies beyond the candidates, and inside a match, where such an inner pattern gives nothing.

    * `Selects` — how the selection ends, for every index and every number of candidates;
    * `outcome_candidates_of_le` — levels to spare change nothing, so that an inner search that
      starts at a match and goes on to the limit of the outer one finds what it finds when it
      starts there itself;
    * `Composed` — a search for a composite pattern is put together from what its inner patterns
      resolve to at each match. -/

namespace ElementLocator

/-- The node that a pattern resolved to, if it resolved to any. -/
def resolved {ν : Type} : Except Failure (Option ν) → Option ν
  | .ok node => node
  | .error _ => none

/-- How selecting from candidates by an index ends. -/
structure Selects {ν : Type} (found : List ν) (index : Option Int)
    (outcome : Except Failure (Option ν)) : Prop where
  /-- Without an index it is the first candidate, or none where there are none. -/
  unindexed : index = none → outcome = .ok found.head?
  /-- From zero on candidates count from the front. -/
  front : ∀ i, index = some i → 0 ≤ i → i < found.length →
    ∃ node, found[i.toNat]? = some node ∧ outcome = .ok (some node)
  /-- Below zero they count from the back. -/
  back : ∀ i, index = some i → -found.length ≤ i → i < 0 →
    ∃ node, found[(found.length + i).toNat]? = some node ∧ outcome = .ok (some node)
  /-- Any other index is reported as it was given, with the number of candidates. -/
  beyond : ∀ i, index = some i → i < -found.length ∨ found.length ≤ i →
    outcome = .error (.error ⟨.indexOutOfRange i found.length, []⟩)
  /-- Below zero the same node is selected from the front of the candidates in reverse order. -/
  mirrored : ∀ i, index = some i → i < 0 → ∀ node,
    outcome = .ok (some node) ↔ selectCandidate found.reverse (some (-1 - i)) = .ok (some node)

-- ── selecting by an index ─────────────────────────────────────────────────

section Index

variable {α : Type} {values : List α} {i : Int}

theorem pick_of_nonneg (h : 0 ≤ i) : pick values (some i) = values[i.toNat]? := by
  obtain ⟨k, rfl⟩ := Int.eq_ofNat_of_zero_le h
  rfl

/-- An index from the back means what its mirror means in reverse order. -/
theorem pick_of_neg (h : i < 0) : pick values (some i) = pick values.reverse (some (-1 - i)) := by
  obtain ⟨k, rfl⟩ := Int.eq_negSucc_of_lt_zero h
  have hmirror : -1 - Int.negSucc k = k := by omega
  rw [hmirror, pick_of_nonneg (Int.natCast_nonneg k), Int.toNat_natCast]
  rfl

theorem selectCandidate_eq_ok_iff {a : α} :
    selectCandidate values (some i) = .ok (some a) ↔ pick values (some i) = some a := by
  rw [selectCandidate_eq_pick]
  cases pick values (some i) with
  | none =>
      constructor
      · intro h
        cases h
      · intro h
        cases h
  | some b =>
      constructor
      · intro h
        cases h
        rfl
      · intro h
        cases h
        rfl

end Index

/-- The selection ends as it should for every index. -/
theorem selects_selectCandidate {ν : Type} (found : List ν) (index : Option Int) :
    Selects found index ((selectCandidate found index).mapError Failure.error) := by
  constructor
  case unindexed =>
    rintro rfl
    rfl
  case front =>
    rintro i rfl h0 hi
    have hk : i.toNat < found.length := by omega
    refine ⟨found[i.toNat], List.getElem?_eq_getElem hk, ?_⟩
    rw [selectCandidate_eq_ok_iff.mpr]
    · rfl
    · rw [pick_of_nonneg h0, List.getElem?_eq_getElem hk]
  case back =>
    rintro i rfl hi h0
    have hk : (found.length + i).toNat < found.length := by omega
    refine ⟨found[(found.length + i).toNat], List.getElem?_eq_getElem hk, ?_⟩
    rw [selectCandidate_of_place hk]
    · rw [List.getElem?_eq_getElem hk]
      rfl
    · rw [if_neg (by omega)]
      omega
  case beyond =>
    rintro i rfl hi
    rw [selectCandidate_of_no_place]
    · rfl
    · intro k hk
      split <;> omega
  case mirrored =>
    rintro i rfl h0 node
    rw [selectCandidate_eq_ok_iff, ← pick_of_neg h0, ← selectCandidate_eq_ok_iff]
    cases selectCandidate found (some i) with
    | ok a => exact ⟨fun h => congrArg _ (Except.ok.inj h), fun h => congrArg _ (Except.ok.inj h)⟩
    | error e =>
        constructor
        · intro h
          cases h
        · intro h
          cases h

/-- What is selected, if anything is, is what the index means. -/
theorem resolved_selectCandidate {ν : Type} (found : List ν) (index : Option Int) :
    resolved ((selectCandidate found index).mapError Failure.error) = pick found index := by
  cases index with
  | none => rfl
  | some i =>
      rw [selectCandidate_eq_pick]
      cases pick found (some i) <;> rfl

namespace TreeAccess

-- ── levels to spare ───────────────────────────────────────────────────────

section Levels

variable {ν : Type} {access : TreeAccess ν} {limit limit' : Nat}

/-- What a child contributes itself does not change when inner searches find the same. -/
theorem outcome_ownCandidates_of {levels levels' : Nat} {p : Pattern} {child : ν} {fits : Bool}
    {own : List ν}
    (hinner : ∀ {q : Pattern} {found : List ν},
      (candidates access limit levels q child).outcome = .ok found →
      (candidates access limit' levels' q child).outcome = .ok found)
    (h : (ownCandidates access limit levels p child fits).outcome = .ok own) :
    (ownCandidates access limit' levels' p child fits).outcome = .ok own := by
  cases fits with
  | false => exact h
  | true =>
      cases hcs : p.children with
      | nil =>
          simp only [ownCandidates] at h ⊢
          rw [hcs] at h ⊢
          exact h
      | cons q rest =>
          rw [ownCandidates_composite _ _ _ _ _ hcs] at h ⊢
          refine Report.outcome_collect_of h ?_
          intro q _ r hr
          obtain ⟨found, hfound, hr⟩ := Report.outcome_bind_eq_ok hr
          rw [Report.outcome_bind_of_ok (hinner hfound)]
          exact hr

/-- **LEVELS TO SPARE CHANGE NOTHING**: a search that succeeds finds the same when it may enter
    more levels. The induction is on the levels of the search that succeeds. -/
theorem outcome_candidates_of_le {levels levels' : Nat} {p : Pattern} {node : ν} {found : List ν}
    (hle : levels ≤ levels') (h : (candidates access limit levels p node).outcome = .ok found) :
    (candidates access limit' levels' p node).outcome = .ok found := by
  induction levels generalizing levels' p node found with
  | zero => cases h
  | succ levels ih =>
      obtain ⟨more, rfl⟩ : ∃ more, levels' = more + 1 := ⟨levels' - 1, by omega⟩
      have hmore : levels ≤ more := by omega
      rw [candidates_succ] at h ⊢
      obtain ⟨children, hchildren, h⟩ := Report.outcome_bind_eq_ok h
      obtain ⟨_, hannounced, h⟩ := Report.outcome_bind_eq_ok h
      have hshort := short_of_announce hannounced
      rw [Report.outcome_bind_of_ok hchildren, Report.outcome_bind_of_ok (outcome_announce hshort)]
      refine Report.outcome_collect_of h ?_
      intro child _ r hr
      obtain ⟨a, ha, hr⟩ := Report.outcome_bind_eq_ok hr
      obtain ⟨fits, hfits, hr⟩ := Report.outcome_bind_eq_ok hr
      obtain ⟨own, hown, hr⟩ := Report.outcome_bind_eq_ok hr
      obtain ⟨deeper, hdeeper, hr⟩ := Report.outcome_bind_eq_ok hr
      simp only [searchChild]
      rw [Report.outcome_bind_of_ok ha, Report.outcome_bind_of_ok hfits,
        Report.outcome_bind_of_ok (outcome_ownCandidates_of (ih hmore) hown),
        Report.outcome_bind_of_ok (ih hmore hdeeper)]
      exact hr

end Levels

-- ── searches of inner patterns ────────────────────────────────────────────

variable {failing : List Nat → Option Injected} {limit : Nat}

/-- A search that succeeds has searched for every inner pattern inside every match. The induction
    is on the levels that may still be entered. -/
theorem exists_inner_candidates {levels : Nat} {p q : Pattern} {n d : Located} {found : List Located}
    (h : ((Tree.access failing).candidates limit levels p n).outcome = .ok found)
    (hd : d ∈ n.below) (hfits : p.criteria.fits d.tree.attributes.visible = true)
    (hq : q ∈ p.children) :
    ∃ fewer ≤ levels, ∃ inner,
      ((Tree.access failing).candidates limit fewer q d).outcome = .ok inner := by
  induction levels generalizing n found with
  | zero => cases h
  | succ levels ih =>
      rw [candidates_succ] at h
      obtain ⟨children, hchildren, h⟩ := Report.outcome_bind_eq_ok h
      obtain ⟨_, -, h⟩ := Report.outcome_bind_eq_ok h
      rw [Tree.children_eq_of_ok hchildren] at h
      rw [Located.below_eq_flatMap] at hd
      obtain ⟨c, hc, hd⟩ := List.mem_flatMap.mp hd
      obtain ⟨r, hr⟩ := Report.outcome_of_collect h hc
      obtain ⟨a, ha, hr⟩ := Report.outcome_bind_eq_ok hr
      obtain ⟨fits, hmatch, hr⟩ := Report.outcome_bind_eq_ok hr
      obtain ⟨own, hown, hr⟩ := Report.outcome_bind_eq_ok hr
      obtain ⟨deeper, hdeeper, -⟩ := Report.outcome_bind_eq_ok hr
      rw [Located.walk_eq_cons] at hd
      rcases List.mem_cons.mp hd with rfl | hd
      · rw [Tree.attributes_eq_of_ok ha] at hmatch
        rw [← fits_of_matches? (matches?_of_matchesNode hmatch), hfits] at hown
        obtain ⟨q', rest, hcs⟩ := List.exists_cons_of_ne_nil (List.ne_nil_of_mem hq)
        rw [ownCandidates_composite _ _ _ _ _ hcs] at hown
        obtain ⟨r, hr⟩ := Report.outcome_of_collect hown hq
        obtain ⟨inner, hinner, -⟩ := Report.outcome_bind_eq_ok hr
        exact ⟨levels, Nat.le_succ levels, inner, hinner⟩
      · obtain ⟨fewer, hfewer, inner, hinner⟩ := ih hdeeper hd
        exact ⟨fewer, Nat.le_succ_of_le hfewer, inner, hinner⟩

end TreeAccess

/-- How a search for a composite pattern is put together: at every match each inner pattern is
    searched for in the match's subtree, and the candidates are the nodes that the inner patterns
    resolve to there, in the order of the matches and of the patterns. -/
structure Composed (failing : List Nat → Option Injected) (limit : DepthLimit) (c : Criteria)
    (inner : List Pattern) (start : Located) (found : List Located) : Prop where
  searched : ∀ d ∈ start.below, c.fits d.tree.attributes.visible = true → ∀ q ∈ inner,
    ∃ among, ((Tree.access failing).search limit q d).outcome = .ok among
  contributed : found = start.below.flatMap fun d =>
    if c.fits d.tree.attributes.visible then
      inner.filterMap fun q => resolved ((Tree.access failing).resolvePattern limit q d).outcome
    else []

namespace Sample

/-- The last button, searched for on its own. -/
def lastButton : Pattern := .node ⟨"Button", none, none, none, .contains, some (-1)⟩ []

end Sample

namespace TreeAccess

variable {failing : List Nat → Option Injected} {limit : DepthLimit}

/-- Where the search for a pattern succeeds, the pattern resolves to what its index means among
    the contributions. -/
theorem resolved_of_search {q : Pattern} {d : Located} {among : List Located}
    (h : ((Tree.access failing).search limit q d).outcome = .ok among) :
    resolved ((Tree.access failing).resolvePattern limit q d).outcome =
      pick (d.below.flatMap q.contribution) q.criteria.index := by
  rw [resolvePattern, Report.outcome_bind_of_ok h, Report.outcome_ofExcept, resolved_selectCandidate,
    eq_contributions_of_candidates h]

theorem composed_of_search {c : Criteria} {inner : List Pattern} (hinner : inner ≠ [])
    {start : Located} {found : List Located}
    (h : ((Tree.access failing).search limit (.node c inner) start).outcome = .ok found) :
    Composed failing limit c inner start found := by
  have hsearched : ∀ d ∈ start.below, c.fits d.tree.attributes.visible = true → ∀ q ∈ inner,
      ∃ among, ((Tree.access failing).search limit q d).outcome = .ok among := by
    intro d hd hfits q hq
    obtain ⟨fewer, hfewer, among, hamong⟩ := exists_inner_candidates h hd hfits hq
    exact ⟨among, outcome_candidates_of_le hfewer hamong⟩
  refine ⟨hsearched, ?_⟩
  rw [eq_contributions_of_candidates h]
  refine List.flatMap_congr ?_
  intro d hd
  cases hfits : c.fits d.tree.attributes.visible with
  | false => exact Pattern.contribution_of_not_fits hfits
  | true =>
      obtain ⟨q', rest, rfl⟩ := List.exists_cons_of_ne_nil hinner
      rw [Pattern.contribution_of_fits (p := .node c (q' :: rest)) hfits, if_pos rfl]
      show Pattern.selections (q' :: rest) d = _
      rw [Pattern.selections_eq_flatMap, List.filterMap_eq_flatMap_toList]
      refine List.flatMap_congr ?_
      intro q hq
      obtain ⟨among, hamong⟩ := hsearched d hd hfits q hq
      rw [resolved_of_search hamong]

/-- **ONE SELECTION, TWO POLICIES**: over any backend, where the search for a pattern succeeds the
    pattern resolves by its index, or reports the index with the number of candidates. In trees in
    memory, whatever reads fail, a composite pattern finds at each match exactly the nodes that
    its inner patterns resolve to there: one that resolves to nothing, or reports its index, adds
    nothing. -/
theorem selects_and_composes :
    (∀ {ν : Type} (access : TreeAccess ν) (limit : DepthLimit) (p : Pattern) (start : ν)
      (found : List ν), (access.search limit p start).outcome = .ok found →
        Selects found p.criteria.index (access.resolvePattern limit p start).outcome) ∧
    ∀ (failing : List Nat → Option Injected) (limit : DepthLimit) (c : Criteria)
      (inner : List Pattern) (start : Located) (found : List Located), inner ≠ [] →
        ((Tree.access failing).search limit (.node c inner) start).outcome = .ok found →
          Composed failing limit c inner start found := by
  constructor
  · intro ν access limit p start found h
    rw [resolvePattern, Report.outcome_bind_of_ok h, Report.outcome_ofExcept]
    exact selects_selectCandidate found p.criteria.index
  · intro failing limit c inner start found hinner h
    exact composed_of_search hinner h

/-- The last of three buttons is selected; inside each window the first and the last are found. -/
theorem buttons_selected_and_composed :
    (∃ found, ((Tree.access fun _ => none).search Sample.limit Sample.lastButton
          (Located.root Sample.windows)).outcome = .ok found ∧
        Selects found (some (-1)) ((Tree.access fun _ => none).resolvePattern Sample.limit
          Sample.lastButton (Located.root Sample.windows)).outcome) ∧
      ∃ found, ((Tree.access fun _ => none).search Sample.limit Sample.windowPattern
          (Located.root Sample.windows)).outcome = .ok found ∧
        Composed (fun _ => none) Sample.limit Sample.windowPattern.criteria
          Sample.windowPattern.children (Located.root Sample.windows) found := by
  constructor
  · obtain ⟨found, hfound, -⟩ : ∃ found, ((Tree.access fun _ => none).search Sample.limit
        Sample.lastButton (Located.root Sample.windows)).outcome = .ok found ∧ found.length = 3 :=
      exists_eq_ok_of_toOption (by decide +kernel)
    exact ⟨found, hfound, selects_and_composes.1 _ _ Sample.lastButton _ found hfound⟩
  · obtain ⟨found, hfound, -⟩ : ∃ found, ((Tree.access fun _ => none).search Sample.limit
        Sample.windowPattern (Located.root Sample.windows)).outcome = .ok found ∧ found.length = 4 :=
      exists_eq_ok_of_toOption (by decide +kernel)
    exact ⟨found, hfound, selects_and_composes.2 _ _ _ _ _ found (by decide) hfound⟩

end TreeAccess

end ElementLocator
