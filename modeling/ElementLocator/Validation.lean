import ElementLocator.Text.Utf8
import ElementLocator.Value.Literal

/-! # Validation of records

    Checking of document values against records with declared fields. A check answers the
    record or the list of all its field errors, each with the place it concerns: errors of
    declared fields in declaration order, then those of keys that are no field. -/

namespace ElementLocator

/-- An error of one field: the steps that lead to it, and what is wrong. -/
structure FieldError where
  place : List String
  message : String
  deriving DecidableEq, Repr

namespace FieldError

/-- The place in one text, its steps joined by points. -/
def location (e : FieldError) : String := String.intercalate "." e.place

/-- The error seen from one step further out. -/
def below (step : String) (e : FieldError) : FieldError := { e with place := step :: e.place }

end FieldError

/-- A checked value, or every error found. -/
abbrev Checked (α : Type) := Except (List FieldError) α

namespace Checked

/-- The errors of a check. -/
def errors {α : Type} : Checked α → List FieldError
  | .ok _ => []
  | .error es => es

/-- The value of a check, or another one where there is none. -/
def getD {α : Type} (c : Checked α) (other : α) : α :=
  match c with
  | .ok a => a
  | .error _ => other

/-- A check that fails with one error of the value itself. -/
def refuse {α : Type} (message : String) : Checked α := .error [⟨[], message⟩]

/-- The check as part of a larger value, reached by a step. -/
def below {α : Type} (step : String) (c : Checked α) : Checked α :=
  c.mapError fun es => es.map (·.below step)

/-- A list whose first item and whose rest are checked apart: the errors of both count. -/
def cons {α : Type} (first : Checked α) (rest : Checked (List α)) : Checked (List α) :=
  match first, rest with
  | .ok a, .ok as => .ok (a :: as)
  | first, rest => .error (first.errors ++ rest.errors)

/-- The value `a` unless there are errors. -/
def orErrors {α : Type} (a : α) : List FieldError → Checked α
  | [] => .ok a
  | es => .error es

end Checked

namespace Validation

variable {σ : Type} [Inscription σ]

/-- The message for a container that is already being checked further out. -/
def cyclic : String := "Recursion error - cyclic reference detected"

/-- The message for a text that is asked for as characters and is none. -/
def unreadable : String := "Input should be a valid string, unable to parse raw data as a unicode string"

/-- The message for a record inside of too many others. -/
def tooDeep : String := "Recursion error - maximum validation depth exceeded"

/-- The number of records that may stand one inside the other. -/
def deepest : Nat := 255

/-- Whether a key is a name. -/
def isNamed (name : String) : Value σ → Bool
  | .text s => Inscription.spells s name
  | _ => false

/-- The first of several spellings that an entry uses, with its value. -/
def field? (entries : List (Value σ × Value σ)) : List String → Option (String × Value σ)
  | [] => none
  | name :: others =>
    match entries.find? fun e => isNamed name e.1 with
    | some e => some (name, e.2)
    | none => field? entries others

/-- How a key that is no text shows in a place. -/
def keyStep : Value σ → String
  | .text s => (Inscription.characters? s).getD (Inscription.literal s)
  | .bool b => if b then "1" else "0"
  | k => if k.isTooLong then "<unprintable int object>" else k.literal

/-- The errors of keys that belong to no declared field: `used` holds the spellings used. -/
def extraErrors (used : List String) (entries : List (Value σ × Value σ)) : List FieldError :=
  entries.filterMap fun e =>
    match e.1 with
    | .text s =>
      match Inscription.characters? s with
      | some s => if used.contains s then none else some ⟨[s], "Extra inputs are not permitted"⟩
      | none => some ⟨[], unreadable⟩
    | k => some ⟨[keyStep k], "Keys should be strings"⟩

/-- Whether a key is a text, but no sequence of characters. -/
def isUnreadable : Value σ → Bool
  | .text s => (Inscription.characters? s).isNone
  | _ => false

/-- All errors of a record: those of its fields, then those of its keys. A key that is no sequence
    of characters is the only error. -/
def recordErrors (fieldErrors : List FieldError) (used : List String) (entries : List (Value σ × Value σ)) :
    List FieldError :=
  if entries.any fun e => isUnreadable e.1 then [⟨[], unreadable⟩]
  else fieldErrors ++ extraErrors used entries

/-- A text; bytes count as the text they encode. -/
def text : Value σ → Checked σ
  | .text s => .ok s
  | .bytes bs =>
    match Text.Utf8.decode bs with
    | .ok cs => .ok (Inscription.ofString (String.ofList cs))
    | .error _ => .refuse unreadable
  | _ => .refuse "Input should be a valid string"

/-- A text with at least one character. -/
def nonemptyText (v : Value σ) : Checked String :=
  match text v with
  | .ok s =>
    match Inscription.characters? s with
    | some s => if s.isEmpty then .refuse "String should have at least 1 character" else .ok s
    | none => .refuse unreadable
  | .error es => .error es

/-- Nothing, or what `check` makes of the value. -/
def optional {σ α : Type} (check : Value σ → Checked α) : Value σ → Checked (Option α)
  | .null => .ok none
  | v => (check v).map some

/-- The white space around numerals in texts. -/
def isNumeralBlank (c : Char) : Bool :=
  let n := c.toNat
  (9 ≤ n && n ≤ 13) || n == 32 || n == 0x85 || n == 0xA0 || n == 0x1680 ||
    (0x2000 ≤ n && n ≤ 0x200A) || n == 0x2028 || n == 0x2029 || n == 0x202F || n == 0x205F ||
    n == 0x3000

/-- What reading a numeral comes to. -/
inductive NumeralReading
  | value (n : Int)
  | malformed
  /-- There are more digits than are read. -/
  | tooLong

/-- The greatest number of digits of a numeral. -/
def mostDigits : Nat := 4300

/-- Reads a numeral in its plain form: perhaps a minus sign, then digits without a needless zero
    in front. -/
def plainNumeral (cs : List Char) : NumeralReading :=
  let body := if cs.head? == some '-' then cs.tail else cs
  let digits := body.takeWhile Char.isDigit
  let value : Int := (digits.foldl (fun n c => n * 10 + (c.toNat - 48)) 0 : Nat)
  match digits with
  | [] => .malformed
  | first :: more =>
    if first == '0' then (if body == ['0'] then .value 0 else .malformed)
    else if mostDigits ≤ more.length then .tooLong
    else if body.length = digits.length then .value (if cs.head? == some '-' then -value else value)
    else .malformed

/-- A numeral after its leading zeros and the underscores between them. One character is kept
    where nothing else follows; a point keeps the one before it. -/
def withoutLeadingZeros? : List Char → Option (List Char)
  | '0' :: rest => go '0' rest
  | c :: rest => if (c.isDigit || c == '-') then some (c :: rest) else none
  | [] => none
where
  /-- The rest, given the zero or underscore before it. -/
  go (previous : Char) : List Char → Option (List Char)
    | [] => some [previous]
    | c :: rest =>
      if c == '0' || c == '_' then go c rest
      else if c.isDigit || c == '-' then some (c :: rest)
      else if c == '.' then some (previous :: c :: rest)
      else none

/-- A numeral without a fraction of zeros. -/
def withoutZeroFraction (cs : List Char) : List Char :=
  match cs.dropWhile (· != '.') with
  | _ :: z :: zs => if (z :: zs).all (· == '0') then cs.takeWhile (· != '.') else cs
  | _ => cs

/-- A numeral without the underscores between its characters, if all stand alone and inside. -/
def withoutUnderscores (cs : List Char) : List Char :=
  let doubled := (cs.zip cs.tail).any fun (a, b) => a == '_' && b == '_'
  if cs.head? == some '_' || cs.getLast? == some '_' || doubled then cs else cs.filter (· != '_')

/-- The plain form of a numeral with white space around it, a plus sign, leading zeros, a fraction
    of zeros or underscores, if it may be one. -/
def cleanedNumeral? (cs : List Char) : Option (List Char) :=
  let cs := ((cs.dropWhile isNumeralBlank).reverse.dropWhile isNumeralBlank).reverse
  let unsigned := match cs with
    | '+' :: '-' :: _ => none
    | '+' :: rest => some rest
    | cs => some cs
  ((unsigned.bind withoutLeadingZeros?).map withoutZeroFraction).map withoutUnderscores

/-- A whole number written in a text: in plain form, or in a form that can be cleaned. -/
def numeral (s : String) : Checked Int :=
  let reading := match plainNumeral s.toList with
    | .malformed => ((cleanedNumeral? s.toList).map plainNumeral).getD .malformed
    | r => r
  match reading with
  | .value n => .ok n
  | .malformed => .refuse "Input should be a valid integer, unable to parse string as an integer"
  | .tooLong => .refuse "Unable to parse input string as an integer, exceeded maximum size"

/-- A whole number: a number without fraction, a truth value as 0 or 1, or a numeral. -/
def whole : Value σ → Checked Int
  | .int n => .ok n
  | .bool b => .ok (if b then 1 else 0)
  | .float x =>
    if !x.isFinite then .refuse "Input should be a finite number"
    else match x.toInt? with
      | none => .refuse "Input should be a valid integer, got a number with a fractional part"
      | some n =>
        if n.natAbs < Nat.pow 2 63 then .ok n
        else .refuse "Unable to parse input string as an integer, exceeded maximum size"
  | .text s =>
    match Inscription.characters? s with
    | some s => numeral s
    | none => .refuse unreadable
  | .bytes bs =>
    match Text.Utf8.decode bs with
    | .ok cs => numeral (String.ofList cs)
    | .error _ => .refuse "Input should be a valid integer, unable to parse string as an integer"
  | _ => .refuse "Input should be a valid integer"

end Validation

end ElementLocator
