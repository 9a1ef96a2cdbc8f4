/-! # Binary floating-point numbers

    Numbers of the 64-bit binary format as exact values: a sign, a whole mantissa and a power
    of two. A quotient is rounded to the nearest such number, and a tie goes to the even
    mantissa; all arithmetic on the way is exact. -/

namespace ElementLocator

/-- A number of the 64-bit binary format. -/
inductive Binary64
  | nan
  | infinity (negative : Bool)
  /-- The value `± mantissa · 2 ^ exponent`, with `mantissa < 2 ^ 53`; either `2 ^ 52 ≤ mantissa`
      or `exponent = -1074`. -/
  | finite (negative : Bool) (mantissa : Nat) (exponent : Int)
  deriving DecidableEq, Repr

namespace Binary64

/-- The quotient of two numbers rounded to the nearest whole number, ties to even. -/
def roundDiv (num den : Nat) : Nat :=
  let q := num / den
  let r := num % den
  if 2 * r < den then q
  else if den < 2 * r then q + 1
  else if q % 2 == 0 then q else q + 1

/-- The number nearest to `num / den`, for `den ≠ 0`. -/
def ofRatio (negative : Bool) (num den : Nat) : Binary64 :=
  if num = 0 then .finite negative 0 (-1074)
  else
    let guess : Int := (Nat.log2 num : Int) - (Nat.log2 den : Int) - 52
    -- the quotient lies within a factor two of 2 ^ (guess + 52)
    let scaled (e : Int) : Nat × Nat :=
      if 0 ≤ e then (num, den * Nat.pow 2 e.toNat) else (num * Nat.pow 2 (-e).toNat, den)
    let low := scaled guess
    let e₀ := if low.1 / low.2 < Nat.pow 2 52 then guess - 1 else guess
    let e := max e₀ (-1074)
    let (n, d) := scaled e
    let m := roundDiv n d
    let (m, e) := if m = Nat.pow 2 53 then (Nat.pow 2 52, e + 1) else (m, e)
    if e > 971 then .infinity negative else .finite negative m e

/-- The number nearest to `± digits · 10 ^ exponent`. Exponents far outside the format's range
    are settled by the number of digits alone. -/
def ofDecimal (negative : Bool) (digits : Nat) (exponent : Int) : Binary64 :=
  if digits = 0 then .finite negative 0 (-1074)
  else
    let magnitude : Int := exponent + (Nat.log2 digits : Int) * 3 / 10
    if magnitude > 400 then .infinity negative
    else if magnitude < -400 then .finite negative 0 (-1074)
    else if 0 ≤ exponent then ofRatio negative (digits * Nat.pow 10 exponent.toNat) 1
    else ofRatio negative digits (Nat.pow 10 (-exponent).toNat)

/-- The value as a fraction, for a finite number: sign, numerator and denominator. -/
def ratio? : Binary64 → Option (Bool × Nat × Nat)
  | .finite s m e => if 0 ≤ e then some (s, m * Nat.pow 2 e.toNat, 1) else some (s, m, Nat.pow 2 (-e).toNat)
  | _ => none

/-- The whole number that a finite number is, if it is one. -/
def toInt? (x : Binary64) : Option Int := do
  let (s, n, d) ← x.ratio?
  if n % d = 0 then
    let k : Int := (n / d : Nat)
    some (if s then -k else k)
  else none

/-- Whether a number is finite. -/
def isFinite : Binary64 → Bool
  | .finite .. => true
  | _ => false

/-- The number nearest to a whole number. -/
def ofInt (n : Int) : Binary64 := ofRatio (n < 0) n.natAbs 1

/-- The opposite number. -/
def neg : Binary64 → Binary64
  | .nan => .nan
  | .infinity s => .infinity (!s)
  | .finite s m e => .finite (!s) m e

/-- The sign of a number. -/
def isNegative : Binary64 → Bool
  | .nan => false
  | .infinity s | .finite s _ _ => s

/-- Whether a number is a zero of either sign. -/
def isZero : Binary64 → Bool
  | .finite _ m _ => m == 0
  | _ => false

/-- The rounded product of two numbers. -/
def mul (x y : Binary64) : Binary64 :=
  let negative := x.isNegative != y.isNegative
  match x.ratio?, y.ratio? with
  | some (_, a, b), some (_, c, d) => ofRatio negative (a * c) (b * d)
  | _, _ => if x == .nan || y == .nan || x.isZero || y.isZero then .nan else .infinity negative

/-- The rounded sum of two numbers; a sum of nothing is negative only if both parts are. -/
def add (x y : Binary64) : Binary64 :=
  match x.ratio?, y.ratio? with
  | some (s, a, b), some (t, c, d) =>
    let signed (negative : Bool) (n : Nat) : Int := if negative then -n else n
    let sum := signed s (a * d) + signed t (c * b)
    if sum = 0 then ofRatio (s && t) 0 1 else ofRatio (sum < 0) sum.natAbs (b * d)
  | some _, none => y
  | none, some _ => x
  | none, none => if x == y then x else .nan

end Binary64

end ElementLocator
