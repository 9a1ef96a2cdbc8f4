/-! # Tables of code point ranges

    A character class of Unicode is written as sorted, disjoint, inclusive ranges of code
    points, and membership is decided by halving. -/

namespace ElementLocator.Text

/-- Sorted, disjoint, inclusive ranges of code points. -/
structure RangeTable where
  /-- First and last code point of each range. -/
  ranges : Array (Nat × Nat)

namespace RangeTable

/-- Looks for the range that holds `n` among the ranges `lo ≤ i < hi`; every step halves the
    distance, so `fuel` steps suffice for a distance below `2 ^ fuel`. -/
def search (t : RangeTable) (n : Nat) : (fuel lo hi : Nat) → Option (Nat × Nat)
  | 0, _, _ => none
  | fuel + 1, lo, hi =>
    if lo < hi then
      let mid := (lo + hi) / 2
      match t.ranges[mid]? with
      | none => none
      | some r =>
        if n < r.1 then search t n fuel lo mid
        else if r.2 < n then search t n fuel (mid + 1) hi
        else some r
    else none

/-- The range that holds `n`, if there is one. -/
def rangeOf? (t : RangeTable) (n : Nat) : Option (Nat × Nat) :=
  search t n (t.ranges.size + 1) 0 t.ranges.size

/-- Whether some range holds `n`. -/
def contains (t : RangeTable) (n : Nat) : Bool := (t.rangeOf? n).isSome

end RangeTable

end ElementLocator.Text
