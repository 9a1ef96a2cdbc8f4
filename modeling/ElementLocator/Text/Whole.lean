import ElementLocator.Text.Literal
import ElementLocator.Text.Numeral

/-! # Whole numbers in text

    Reading of whole numbers as people write them: blanks around, a sign, digits of any
    script, and single underscores between digits. -/

namespace ElementLocator.Text.Whole

/-- Why a text is not read as a whole number. -/
inductive Fault
  /-- The text is no numeral of the base. -/
  | malformed (base : Nat) (text : String)
  /-- The numeral has more decimal digits than are converted. -/
  | tooLong (digits : Nat)
  deriving DecidableEq, Repr

/-- The greatest number of decimal digits that is converted. -/
def maxDigits : Nat := 4300

/-- The greatest length of a literal in a message. -/
def maxShown : Nat := 200

/-- The wording of a fault. -/
def Fault.message : Fault → String
  | .malformed base text =>
    s!"invalid literal for int() with base {base}: {(Literal.ofString text).take maxShown}"
  | .tooLong digits =>
    s!"Exceeds the limit ({maxDigits} digits) for integer string conversion: value has {digits} digits; use sys.set_int_max_str_digits() to increase the limit"

/-- The value of a digit in bases up to sixteen. -/
def digit? (base : Nat) (c : Char) : Option Nat :=
  let v :=
    if c.isDigit then some (c.toNat - 48)
    else if 'a' ≤ c ∧ c ≤ 'f' then some (c.toNat - 87)
    else if 'A' ≤ c ∧ c ≤ 'F' then some (c.toNat - 55)
    else none
  v.filter (· < base)

/-- Takes digits with single underscores between them off the front. `after` says whether a digit
    stands before. -/
def takeDigits? (base : Nat) : (after : Bool) → List Char → Option (List Nat × List Char)
  | after, [] => if after then some ([], []) else none
  | after, c :: rest =>
    if c == '_' then (if after then takeDigits? base false rest else none)
    else
      match digit? base c with
      | some d => (takeDigits? base true rest).map fun (ds, r) => (d :: ds, r)
      | none => if after then some ([], c :: rest) else none

/-- The value of digits. -/
def value (base : Nat) (ds : List Nat) : Nat := ds.foldl (fun n d => n * base + d) 0

/-- Splits a sign off the front: whether it is a minus. -/
def takeSign : List Char → Bool × List Char
  | '-' :: r => (true, r)
  | '+' :: r => (false, r)
  | r => (false, r)

/-- The text after the mark of its base, a zero and a letter, if it has one. -/
def skipMark (base : Nat) : List Char → List Char
  | '0' :: c :: rest =>
    if (base == 2 && (c == 'b' || c == 'B')) || (base == 8 && (c == 'o' || c == 'O')) ||
        (base == 16 && (c == 'x' || c == 'X')) then rest
    else '0' :: c :: rest
  | cs => cs

/-- Reads a whole number. The limit on digits concerns bases that are no power of two, and comes
    before what may follow the digits. -/
def read (base : Nat) (s : String) : Except Fault Int :=
  let (negative, cs) := takeSign (Numeral.plain s.toList)
  match takeDigits? base false (skipMark base cs) with
  | none => .error (.malformed base s)
  | some (ds, rest) =>
    if base == 10 && maxDigits < ds.length then .error (.tooLong ds.length)
    else if rest.isEmpty then
      let n : Int := value base ds
      .ok (if negative then -n else n)
    else .error (.malformed base s)

end ElementLocator.Text.Whole
