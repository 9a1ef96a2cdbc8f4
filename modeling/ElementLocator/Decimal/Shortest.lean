import ElementLocator.Decimal.Binary64

/-! # Shortest decimal text

    The fewest decimal digits that read back as the same binary number. For each count of
    digits the two neighbours of the value on that decimal grid are tried in exact arithmetic;
    the first grid with a neighbour inside the interval of numbers that round to the value
    wins, and of two such neighbours the nearer. -/

namespace ElementLocator.Decimal

open ElementLocator (Binary64)

/-- The least `k` with `num / den < 10 ^ k`, for a positive fraction. -/
def magnitude (num den : Nat) : Int :=
  let guess : Int := ((Nat.log2 num : Int) - (Nat.log2 den : Int)) * 30103 / 100000
  let below (k : Int) : Bool :=
    if 0 ≤ k then num < den * Nat.pow 10 k.toNat else num * Nat.pow 10 (-k).toNat < den
  if below (guess - 1) then guess - 1
  else if below guess then guess
  else if below (guess + 1) then guess + 1
  else guess + 2

/-- The digits of `num / den` on the grid of step `10 ^ k` that read back as `x`, if any. -/
def onGrid (x : Binary64) (negative : Bool) (num den : Nat) (k : Int) : Option Nat :=
  let (n, d) := if 0 ≤ k then (num, den * Nat.pow 10 k.toNat) else (num * Nat.pow 10 (-k).toNat, den)
  let q := n / d
  let r := n % d
  let readsBack (m : Nat) : Bool := Binary64.ofDecimal negative m k == x
  let (near, far) := if 2 * r < d || (2 * r == d && q % 2 == 0) then (q, q + 1) else (q + 1, q)
  if readsBack near then some near else if readsBack far then some far else none

/-- Tries grids with more and more digits. -/
def searchGrid (x : Binary64) (negative : Bool) (num den : Nat) (top : Int) : (count digits : Nat) → Nat × Int
  | 0, digits => ((num * Nat.pow 10 (digits - top).toNat) / den, top - digits)
  | count + 1, digits =>
    match onGrid x negative num den (top - digits) with
    | some m => (m, top - digits)
    | none => searchGrid x negative num den top count (digits + 1)

/-- Removes trailing zeros from digits, counting them into the exponent. -/
def trimZeros : (fuel : Nat) → Nat → Int → Nat × Int
  | 0, m, k => (m, k)
  | fuel + 1, m, k => if m ≠ 0 ∧ m % 10 = 0 then trimZeros fuel (m / 10) (k + 1) else (m, k)

/-- The shortest digits of a positive finite number and the power of ten of the last. -/
def shortest (x : Binary64) : Nat × Int :=
  match x.ratio? with
  | none => (0, 0)
  | some (s, num, den) =>
    if num = 0 then (0, 0)
    else
      let (m, k) := searchGrid x s num den (magnitude num den) 17 1
      trimZeros 20 m k

/-- How numbers with a fraction are written: positionally, always with a point, when the first
    digit stands between the fourth place after the point and the sixteenth before it, and else
    with one digit before the point and an exponent of at least two digits. -/
def floatText (x : Binary64) : String :=
  match x with
  | .nan => "nan"
  | .infinity s => if s then "-inf" else "inf"
  | .finite s _ _ =>
    let sign := if s then "-" else ""
    let (m, k) := shortest x
    if m = 0 then sign ++ "0.0"
    else
      let digits := toString m
      let point : Int := digits.length + k
      if -4 < point ∧ point ≤ 16 then
        if point ≤ 0 then sign ++ "0." ++ String.ofList (List.replicate (-point).toNat '0') ++ digits
        else if digits.length ≤ point.toNat then
          sign ++ digits ++ String.ofList (List.replicate (point.toNat - digits.length) '0') ++ ".0"
        else
          sign ++ String.ofList (digits.toList.take point.toNat) ++ "." ++ String.ofList (digits.toList.drop point.toNat)
      else
        let e := point - 1
        let first := String.ofList (digits.toList.take 1)
        let rest := String.ofList (digits.toList.drop 1)
        let mant := if rest.isEmpty then first else first ++ "." ++ rest
        let size := toString e.natAbs
        let size := if size.length < 2 then "0" ++ size else size
        sign ++ mant ++ "e" ++ (if e < 0 then "-" else "+") ++ size

end ElementLocator.Decimal
