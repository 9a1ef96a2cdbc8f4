import ElementLocator.Json
import ElementLocator.Text.Whole

/-! # Reading plain data

    The reader of JSON texts, one function for each rule of the grammar. Beside the standard
    it accepts the number words `NaN`, `Infinity` and `-Infinity`; a repeated key keeps its
    first place and its last value. A whole number with more digits than are converted is not
    read. Lists and objects may be nested to any depth: the limit on how deep the calls of a
    program may go is left out. -/

namespace ElementLocator.Json

/-- Blank characters between tokens. -/
def isBlank (c : Char) : Bool := c == ' ' || c == '\t' || c == '\n' || c == '\r'

/-- The text after leading blanks. -/
def skipBlanks (cs : List Char) : List Char := cs.dropWhile isBlank

/-- The value of a run of decimal digits. -/
def digitsValue (cs : List Char) : Nat := cs.foldl (fun n c => n * 10 + (c.toNat - 48)) 0

/-- Splits a run of decimal digits off the front. -/
def takeDigits (cs : List Char) : List Char × List Char :=
  (cs.takeWhile Char.isDigit, cs.dropWhile Char.isDigit)

/-- Reads an exponent part, if one starts here. -/
def readExponent (cs : List Char) : Option Int × List Char :=
  match cs with
  | e :: rest =>
    if e == 'e' || e == 'E' then
      let (negative, rest') := match rest with
        | '-' :: r => (true, r)
        | '+' :: r => (false, r)
        | r => (false, r)
      let (ds, after) := takeDigits rest'
      if ds.isEmpty then (none, cs)
      else
        let n : Int := digitsValue ds
        (some (if negative then -n else n), after)
    else (none, cs)
  | [] => (none, cs)

/-- Reads a fraction part, if one starts here: its digits. -/
def readFraction (cs : List Char) : Option (List Char) × List Char :=
  match cs with
  | '.' :: rest =>
    let (ds, after) := takeDigits rest
    if ds.isEmpty then (none, cs) else (some ds, after)
  | _ => (none, cs)

/-- Reads a number without its sign: no leading zero before another digit. -/
def readNumber (negative : Bool) (cs : List Char) : Option (Json × List Char) :=
  let (whole, rest) := match cs with
    | '0' :: r => (['0'], r)
    | _ => takeDigits cs
  if whole.isEmpty then none
  else
    let (fraction, rest) := readFraction rest
    let (exponent, rest) := readExponent rest
    match fraction, exponent with
    | none, none =>
      if Text.Whole.maxDigits < whole.length then none
      else
        let n : Int := digitsValue whole
        some (.int (if negative then -n else n), rest)
    | _, _ =>
      let fraction := fraction.getD []
      let e := exponent.getD 0 - (fraction.length : Int)
      some (.float (Binary64.ofDecimal negative (digitsValue (whole ++ fraction)) e), rest)

/-- Removes a word from the front. -/
def dropWord? (word cs : List Char) : Option (List Char) :=
  if word.isPrefixOf cs then some (cs.drop word.length) else none

/-- Reads a word of the grammar. -/
def readWord (cs : List Char) : Option (Json × List Char) :=
  let words : List (String × Json) :=
    [("null", .null), ("true", .bool true), ("false", .bool false), ("NaN", .float .nan),
      ("Infinity", .float (.infinity false)), ("-Infinity", .float (.infinity true))]
  words.findSome? fun (w, j) => (dropWord? w.toList cs).map fun r => (j, r)

/-- Puts a member into an object's members: a known key keeps its place. -/
def putMember (members : List (String × Json)) (key : String) (j : Json) : List (String × Json) :=
  if members.any (·.1 == key) then members.map fun m => if m.1 == key then (key, j) else m
  else members ++ [(key, j)]

mutual

/-- Reads one value after blanks. -/
def readValue : (fuel : Nat) → List Char → Option (Json × List Char)
  | 0, _ => none
  | fuel + 1, cs =>
    match skipBlanks cs with
    | '"' :: rest => (Text.Quoted.readBody rest).map fun (s, r) => (.str (String.ofList s), r)
    | '[' :: rest =>
      match skipBlanks rest with
      | ']' :: r => some (.list [], r)
      | r => readItems fuel r []
    | '\x7b' :: rest =>
      match skipBlanks rest with
      | '\x7d' :: r => some (.object [], r)
      | r => readMembers fuel r []
    | cs =>
      match readWord cs with
      | some r => some r
      | none =>
        match cs with
        | '-' :: rest => readNumber true rest
        | _ => readNumber false cs

/-- Reads the items of a list up to its closing bracket; `done` holds those read, last first. -/
def readItems : (fuel : Nat) → List Char → List Json → Option (Json × List Char)
  | 0, _, _ => none
  | fuel + 1, cs, done =>
    match readValue fuel cs with
    | none => none
    | some (j, rest) =>
      match skipBlanks rest with
      | ',' :: r => readItems fuel r (j :: done)
      | ']' :: r => some (.list (j :: done).reverse, r)
      | _ => none

/-- Reads the members of an object up to its closing brace; `done` holds those read, last first. -/
def readMembers : (fuel : Nat) → List Char → List (String × Json) → Option (Json × List Char)
  | 0, _, _ => none
  | fuel + 1, cs, done =>
    match skipBlanks cs with
    | '"' :: rest =>
      match Text.Quoted.readBody rest with
      | none => none
      | some (key, rest) =>
        match skipBlanks rest with
        | ':' :: rest =>
          match readValue fuel rest with
          | none => none
          | some (j, rest) =>
            let done := (String.ofList key, j) :: done
            match skipBlanks rest with
            | ',' :: r => readMembers fuel r done
            | '\x7d' :: r =>
              some (.object (done.reverse.foldl (fun ms m => putMember ms m.1 m.2) []), r)
            | _ => none
        | _ => none
    | _ => none

end

/-- Reads a whole text as one value. -/
def parse? (s : String) : Option Json :=
  let cs := s.toList
  match readValue (cs.length + 1) cs with
  | some (j, rest) => if (skipBlanks rest).isEmpty then some j else none
  | none => none

end ElementLocator.Json
