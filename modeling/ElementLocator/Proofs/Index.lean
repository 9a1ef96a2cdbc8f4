import ElementLocator.Search

/-! # Indices into candidates

    An index counts candidates from the front, or from the back if it is negative. `pick` says
    what that means without any arithmetic on the length; `selectCandidate_eq_pick` says that a
    selection gives just that, or reports the index with the number of candidates. -/

namespace ElementLocator

/-- The value that an index means: without one the first, from zero on counted from the front,
    and from -1 on down counted from the back. -/
def pick {α : Type} (values : List α) : Option Int → Option α
  | none => values.head?
  | some (.ofNat i) => values[i]?
  | some (.negSucc i) => values.reverse[i]?

theorem mem_of_pick {α : Type} {values : List α} {index : Option Int} {a : α}
    (h : pick values index = some a) : a ∈ values := by
  rcases index with - | ⟨i | i⟩
  · exact List.mem_of_mem_head? h
  · exact List.mem_of_getElem? h
  · exact List.mem_reverse.mp (List.mem_of_getElem? h)

theorem selectCandidate_of_place {α : Type} {values : List α} {i : Int} {k : Nat}
    (hk : k < values.length) (hi : (if 0 ≤ i then i else values.length + i) = (k : Int)) :
    selectCandidate values (some i) = .ok values[k]? := by
  simp only [selectCandidate]
  rw [hi, if_pos ⟨Int.natCast_nonneg k, by omega⟩, Int.toNat_natCast]

theorem selectCandidate_of_no_place {α : Type} {values : List α} {i : Int}
    (hi : ∀ k < values.length, (if 0 ≤ i then i else values.length + i) ≠ (k : Int)) :
    selectCandidate values (some i) = .error ⟨.indexOutOfRange i values.length, []⟩ := by
  simp only [selectCandidate]
  refine if_neg ?_
  intro hplace
  exact hi (if 0 ≤ i then i else values.length + i).toNat (by omega) (by omega)

/-- **AN INDEX SELECTS WHAT IT MEANS**, and an index that means nothing is reported with the
    number of candidates there are. -/
theorem selectCandidate_eq_pick {α : Type} (values : List α) (i : Int) :
    selectCandidate values (some i) =
      match pick values (some i) with
      | some found => .ok (some found)
      | none => .error ⟨.indexOutOfRange i values.length, []⟩ := by
  cases i with
  | ofNat k =>
      have hplace : (if 0 ≤ Int.ofNat k then Int.ofNat k else values.length + Int.ofNat k) = (k : Int) :=
        if_pos (Int.natCast_nonneg k)
      by_cases hk : k < values.length
      · rw [selectCandidate_of_place hk hplace, pick, List.getElem?_eq_getElem hk]
      · rw [selectCandidate_of_no_place, pick, List.getElem?_eq_none (by omega)]
        intro j hj
        rw [hplace]
        omega
  | negSucc k =>
      by_cases hk : k < values.length
      · have hback : values.length - 1 - k < values.length := by omega
        rw [selectCandidate_of_place hback, pick, List.getElem?_reverse hk,
          List.getElem?_eq_getElem hback]
        rw [if_neg (by omega)]
        omega
      · rw [selectCandidate_of_no_place, pick, List.getElem?_eq_none]
        · rw [List.length_reverse]
          omega
        · intro j hj
          rw [if_neg (by omega)]
          omega

namespace TreeAccess

variable {ν : Type} {p : Pattern}

theorem shown_of_short (h : p.hasLongIndex = false) : shown p = (Report.ok p.describe : Task ν String) := by
  simp only [shown, Pattern.described]
  rw [h]
  rfl

theorem shown_of_long (h : p.hasLongIndex = true) :
    shown p = (Report.fail (.interrupted .numberTooLong) : Task ν String) := by
  simp only [shown, Pattern.described]
  rw [h]
  rfl

/-- Inside a match a selection counts only if it succeeds: what counts is what the index means. -/
theorem outcome_selectInner {q : Pattern} (h : q.hasLongIndex = false) (found : List ν) :
    (selectInner q found).outcome = .ok (pick found q.criteria.index).toList := by
  simp only [selectInner]
  cases q.criteria.index with
  | none => rfl
  | some i =>
      rw [selectCandidate_eq_pick, shown_of_short h]
      cases pick found (some i) <;> rfl

end TreeAccess

end ElementLocator
