import ElementLocator.Decimal.Shortest

/-! # Decimal texts with a given number of digits

    A fraction in positional notation, in scientific notation or in whichever of the two is
    shorter, rounded to a given number of digits; a tie goes to the even digit. -/

namespace ElementLocator.Decimal

/-- Zeros. -/
def zeros (n : Nat) : List Char := List.replicate n '0'

/-- Digits with a point before the last `places` of them. A point without places after it stands
    only if it is wanted. -/
def withPoint (places : Nat) (pointed : Bool) (digits : List Char) : List Char :=
  let digits := zeros (places + 1 - digits.length) ++ digits
  let whole := digits.length - places
  digits.take whole ++ (if places = 0 && !pointed then [] else '.' :: digits.drop whole)

/-- A fraction with a given number of places. -/
def positional (num den places : Nat) (pointed : Bool) : List Char :=
  withPoint places pointed (toString (Binary64.roundDiv (num * Nat.pow 10 places) den)).toList

/-- The digits of a fraction, `further` of them after the first, and the power of ten of the
    first. -/
def leading (num den further : Nat) : List Char × Int :=
  if num = 0 then (zeros (further + 1), 0)
  else
    let top := magnitude num den - 1
    let shift : Int := further - top
    let n :=
      if 0 ≤ shift then Binary64.roundDiv (num * Nat.pow 10 shift.toNat) den
      else Binary64.roundDiv num (den * Nat.pow 10 (-shift).toNat)
    let digits := (toString n).toList
    if digits.length = further + 2 then (digits.take (further + 1), top + 1) else (digits, top)

/-- A power of ten after its mark: a sign and at least two digits. -/
def exponentText (e : Int) : List Char :=
  let size := (toString e.natAbs).toList
  'e' :: (if e < 0 then '-' else '+') :: (zeros (2 - size.length) ++ size)

/-- A fraction with one digit before the point and a given number after it. -/
def scientific (num den further : Nat) (pointed : Bool) : List Char :=
  let (digits, e) := leading num den further
  withPoint further pointed digits ++ exponentText e

/-- Digits without zeros at the end. -/
def withoutEndZeros (digits : List Char) : List Char := (digits.reverse.dropWhile (· == '0')).reverse

/-- A fraction with a given number of digits: in positional notation from the fourth place after
    the point up to that number of digits before it, else in scientific notation. Zeros at the
    end are left out unless a point is wanted. -/
def general (num den count : Nat) (pointed : Bool) : List Char :=
  let count := max count 1
  let (digits, e) := leading num den (count - 1)
  let kept := if pointed then digits else withoutEndZeros digits
  if -4 ≤ e ∧ e < count then
    if 0 ≤ e then
      let whole := (e + 1).toNat
      let places := kept.length - whole
      withPoint places pointed (kept ++ zeros (whole - kept.length))
    else withPoint ((-e).toNat + (kept.length - 1)) pointed (if kept.isEmpty then ['0'] else kept)
  else withPoint (kept.length - 1) pointed (if kept.isEmpty then ['0'] else kept) ++ exponentText e

end ElementLocator.Decimal
