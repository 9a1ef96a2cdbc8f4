import ElementLocator.Decimal.Binary64
import ElementLocator.Text.Numeral

/-! # Reading numbers with fractions

    The reader of decimal numbers with an optional point and exponent, and of the words for
    infinity and for what is no number. -/

namespace ElementLocator.Decimal

/-- Digits at the front of a text. -/
def splitDigits (cs : List Char) : List Char × List Char :=
  (cs.takeWhile Char.isDigit, cs.dropWhile Char.isDigit)

/-- The value of decimal digits. -/
def digitsNat (cs : List Char) : Nat := cs.foldl (fun n c => n * 10 + (c.toNat - 48)) 0

/-- An exponent that takes the rest of a text; none if the text ends here. -/
def exponent? (cs : List Char) : Option Int :=
  match cs with
  | [] => some 0
  | e :: rest =>
    if e == 'e' || e == 'E' then
      let (negative, ds) := match rest with
        | '-' :: r => (true, r)
        | '+' :: r => (false, r)
        | r => (false, r)
      if ds.isEmpty || !ds.all Char.isDigit then none
      else
        let n : Int := digitsNat ds
        some (if negative then -n else n)
    else none

/-- A decimal number without its sign. -/
def unsigned? (negative : Bool) (cs : List Char) : Option Binary64 :=
  let word := String.ofList (cs.map Char.toLower)
  if word == "inf" || word == "infinity" then some (.infinity negative)
  else if word == "nan" then some .nan
  else
    let (whole, rest) := splitDigits cs
    let (fraction, rest) := match rest with
      | '.' :: r => splitDigits r
      | r => ([], r)
    if whole.isEmpty && fraction.isEmpty then none
    else
      (exponent? rest).map fun e =>
        Binary64.ofDecimal negative (digitsNat (whole ++ fraction)) (e - (fraction.length : Int))

/-- A decimal number, in digits of any script and with blanks around it. -/
def read? (cs : List Char) : Option Binary64 :=
  match Text.Numeral.plain cs with
  | '-' :: r => unsigned? true r
  | '+' :: r => unsigned? false r
  | r => unsigned? false r

end ElementLocator.Decimal
