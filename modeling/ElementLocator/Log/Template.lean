import ElementLocator.Decimal.Fixed
import ElementLocator.Json.Plain

/-! # Templates

    A template is a text with directives, each of which starts with a percent sign and stands for
    a value: one that is named in brackets after the sign, or the one value that the template is
    filled with. A directive may ask for a width, for a number of digits and for one of several
    notations, which its letter tells. A text as the value has to be used. -/

namespace ElementLocator.Template

/-- Why a template cannot be filled. -/
inductive Fault
  /-- The template ends inside of a directive. -/
  | cutShort
  /-- The template ends inside of a name. -/
  | nameCutShort
  /-- A text has no values by name. -/
  | namesInText
  /-- A list has no values by name. -/
  | namesInList
  /-- There is no value of this name. -/
  | unknownName (name : String)
  /-- There are more directives than values. -/
  | tooFew
  /-- The value is not used. -/
  | unused
  /-- No directive has this letter; it stands at a place of the template. -/
  | unknownLetter (letter : Char) (place : Nat)
  /-- A width or a number of digits is not written as a whole number. -/
  | sizeNotWhole
  /-- A width has too many digits. -/
  | widthTooLarge
  /-- A number of digits is itself too large. -/
  | precisionTooLarge
  /-- The directive needs a number. -/
  | notNumber (letter : Char) (kind : String)
  /-- The directive needs a whole number. -/
  | notWhole (letter : Char) (kind : String)
  /-- The directive needs a number with a fraction. -/
  | notFraction (kind : String)
  /-- The directive needs a character. -/
  | notCharacter
  /-- No character has this number. -/
  | noSuchCharacter
  /-- Infinity is no whole number. -/
  | infinite
  /-- Not-a-number is no whole number. -/
  | notANumber
  /-- A whole number is beyond all numbers with a fraction. -/
  | tooLarge
  deriving DecidableEq, Repr

/-- The wording of a fault. -/
def Fault.message : Fault → String
  | cutShort => "incomplete format"
  | nameCutShort => "incomplete format key"
  | namesInText => "format requires a mapping"
  | namesInList => "list indices must be integers or slices, not str"
  | unknownName name => Text.Literal.ofString name
  | tooFew => "not enough arguments for format string"
  | unused => "not all arguments converted during string formatting"
  | unknownLetter c place =>
    let shown := if 31 ≤ c.toNat && c.toNat < 127 then c else '?'
    let digits := Nat.toDigits 16 c.toNat
    s!"unsupported format character '{shown}' (0x{String.ofList digits}) at index {place}"
  | sizeNotWhole => "* wants int"
  | widthTooLarge => "width too big"
  | precisionTooLarge => "precision too big"
  | notNumber c kind => s!"%{c} format: a real number is required, not {kind}"
  | notWhole c kind => s!"%{c} format: an integer is required, not {kind}"
  | notFraction kind => s!"must be real number, not {kind}"
  | notCharacter => "%c requires int or char"
  | noSuchCharacter => "%c arg not in range(0x110000)"
  | infinite => "cannot convert float infinity to integer"
  | notANumber => "cannot convert float NaN to integer"
  | tooLarge => "int too large to convert to float"

/-- What a directive asks for, apart from its letter. -/
structure Layout where
  leftAligned : Bool := false
  zeroFilled : Bool := false
  signed : Bool := false
  spaced : Bool := false
  alternate : Bool := false
  width : Nat := 0
  precision : Option Nat := none

/-- What a template is filled with, and which value a directive takes next: none if it has been
    taken before. -/
structure Filling where
  whole : Json
  next : Option Json

-- ── parts of a directive ──────────────────────────────────────────────────

/-- Takes the text up to the bracket that closes a name; brackets inside come in pairs. -/
def takeName? : (opened : Nat) → List Char → Option (List Char × List Char)
  | _, [] => none
  | opened, c :: rest =>
    if c == ')' && opened == 0 then some ([], rest)
    else
      let opened := if c == '(' then opened + 1 else if c == ')' then opened - 1 else opened
      (takeName? opened rest).map fun (name, r) => (c :: name, r)

/-- The value of a name. -/
def named (whole : Json) (name : String) : Except Fault Json :=
  match whole with
  | .object members =>
    match members.find? (·.1 == name) with
    | some m => .ok m.2
    | none => .error (.unknownName name)
  | .list _ => .error .namesInList
  | _ => .error .namesInText

/-- Takes flags off the front. -/
def takeFlags (l : Layout) : List Char → Layout × List Char
  | [] => (l, [])
  | c :: rest =>
    match c with
    | '-' => takeFlags { l with leftAligned := true } rest
    | '+' => takeFlags { l with signed := true } rest
    | ' ' => takeFlags { l with spaced := true } rest
    | '#' => takeFlags { l with alternate := true } rest
    | '0' => takeFlags { l with zeroFilled := true } rest
    | _ => (l, c :: rest)

/-- Takes the value that a directive takes next. -/
def Filling.take (f : Filling) : Except Fault (Json × Filling) :=
  match f.next with
  | some v => .ok (v, { f with next := none })
  | none => .error .tooFew

/-- Takes a size off the front: digits, or a star for the next value. -/
def takeSize (limit : Nat) (large : Fault) (f : Filling) (cs : List Char) :
    Except Fault (Option Int × Filling × List Char) :=
  match cs with
  | '*' :: rest => do
    let (v, f) ← f.take
    match v.int? with
    | some n => return (some n, f, rest)
    | none => .error .sizeNotWhole
  | _ =>
    let digits := cs.takeWhile Char.isDigit
    let n := digits.foldl (fun n c => n * 10 + (c.toNat - 48)) 0
    if limit < n then .error large
    else .ok (if digits.isEmpty then none else some n, f, cs.drop digits.length)

-- ── notations ─────────────────────────────────────────────────────────────

/-- The text of a value between blanks or zeros, as wide as asked for. A number keeps its sign and
    the mark of its base in front of the zeros. -/
def Layout.fill (l : Layout) (numeric marked : Bool) (cs : List Char) : List Char :=
  let (sign, cs) := match numeric, cs with
    | true, '-' :: r => (['-'], r)
    | true, r => (if l.signed then ['+'] else if l.spaced then [' '] else [], r)
    | false, r => ([], r)
  let (mark, cs) := if marked && l.alternate then (cs.take 2, cs.drop 2) else ([], cs)
  let missing := l.width - (sign.length + mark.length + cs.length)
  let gap (c : Char) : List Char := List.replicate missing c
  if l.leftAligned then sign ++ mark ++ cs ++ gap ' '
  else if numeric && l.zeroFilled then sign ++ mark ++ gap '0' ++ cs
  else gap ' ' ++ sign ++ mark ++ cs

/-- The text of a text: at most as many characters as asked for. -/
def Layout.ofText (l : Layout) (s : String) : List Char :=
  l.fill false false (match l.precision with
    | some n => s.toList.take n
    | none => s.toList)

/-- A literal in ASCII: other characters are written as escapes. -/
def asciiText (s : String) : String :=
  String.ofList (s.toList.flatMap fun c =>
    let n := c.toNat
    if n < 0x80 then [c]
    else if n < 0x100 then '\\' :: 'x' :: Text.Literal.hexDigits 2 n
    else if n < 0x10000 then '\\' :: 'u' :: Text.Literal.hexDigits 4 n
    else '\\' :: 'U' :: Text.Literal.hexDigits 8 n)

/-- The whole number of a value, without its fraction. -/
def wholeOf (letter : Char) (v : Json) : Except Fault Int :=
  match v with
  | .float .nan => .error .notANumber
  | .float (.infinity _) => .error .infinite
  | .float x =>
    match x.ratio? with
    | some (s, n, d) =>
      let k : Int := (n / d : Nat)
      .ok (if s then -k else k)
    | none => .error .infinite
  | v =>
    match v.int? with
    | some n => .ok n
    | none => .error (.notNumber letter v.kind)

/-- The text of a whole number in a base, after the mark of the base. -/
def Layout.ofWhole (l : Layout) (base : Nat) (mark : List Char) (n : Int) : List Char :=
  let digits := Nat.toDigits base n.natAbs
  let digits := Decimal.zeros (l.precision.getD 0 - digits.length) ++ digits
  let body := (if l.alternate then mark else []) ++ digits
  (if n < 0 then ['-'] else []) ++ body

/-- The number with a fraction that a value is. -/
def fractionOf (v : Json) : Except Fault Binary64 :=
  match v with
  | .float x => .ok x
  | v =>
    match v.int? with
    | some n =>
      let x := Binary64.ofInt n
      if x.isFinite then .ok x else .error .tooLarge
    | none => .error (.notFraction v.kind)

/-- The text of a number with a fraction. -/
def Layout.ofFraction (l : Layout) (letter : Char) (x : Binary64) : List Char :=
  let count := l.precision.getD 6
  let size := match x.ratio? with
    | some (_, num, den) =>
      match letter with
      | 'f' | 'F' => Decimal.positional num den count l.alternate
      | 'e' | 'E' => Decimal.scientific num den count l.alternate
      | _ => Decimal.general num den count l.alternate
    | none => if x == .nan then "nan".toList else "inf".toList
  let size := if letter.isUpper then size.map Char.toUpper else size
  (if x.isNegative then ['-'] else []) ++ size

/-- The character of a value. -/
def characterOf (v : Json) : Except Fault Char :=
  match v with
  | .str s =>
    match s.toList with
    | [c] => .ok c
    | _ => .error .notCharacter
  | v =>
    match v.int? with
    | some n => if 0 ≤ n ∧ n < 0x110000 then .ok (Char.ofNat n.toNat) else .error .noSuchCharacter
    | none => .error .notCharacter

/-- What a directive stands for. -/
def Layout.write (l : Layout) (letter : Char) (place : Nat) (v : Json) : Except Fault (List Char) :=
  match letter with
  | 's' => .ok (l.ofText v.text)
  | 'r' => .ok (l.ofText v.literal)
  | 'a' => .ok (l.ofText (asciiText v.literal))
  | 'd' | 'i' | 'u' =>
    (wholeOf letter v).map fun n => l.fill true false ({ l with alternate := false }.ofWhole 10 [] n)
  | 'o' | 'x' | 'X' =>
    match v.int? with
    | none => .error (.notWhole letter v.kind)
    | some n =>
      let cs := l.ofWhole (if letter == 'o' then 8 else 16) ['0', if letter == 'o' then 'o' else 'x'] n
      .ok (l.fill true true (if letter == 'X' then cs.map Char.toUpper else cs))
  | 'e' | 'E' | 'f' | 'F' | 'g' | 'G' =>
    (fractionOf v).map fun x => l.fill true false (l.ofFraction letter x)
  | 'c' => (characterOf v).map fun c => l.fill false false [c]
  | _ => .error (.unknownLetter letter place)

-- ── whole templates ───────────────────────────────────────────────────────

/-- The greatest width that is read. -/
def greatestWidth : Nat := Nat.pow 2 63 - 1

/-- The greatest number of digits that is read. -/
def greatestPrecision : Nat := Nat.pow 2 31 - 1

/-- Takes a directive off the front, after its percent sign: what it stands for, and the rest.
    `size` is the length of the whole template. -/
def directive (size : Nat) (f : Filling) (cs : List Char) : Except Fault (List Char × Filling × List Char) := do
  let (f, cs) ← match cs with
    | '(' :: rest =>
      match f.whole with
      | .str _ => .error .namesInText
      | whole =>
        match takeName? 0 rest with
        | none => .error .nameCutShort
        | some (name, rest) => (named whole (String.ofList name)).map fun v => ({ f with next := some v }, rest)
    | _ => .ok (f, cs)
  let (l, cs) := takeFlags {} cs
  let (width, f, cs) ← takeSize greatestWidth .widthTooLarge f cs
  let w := width.getD 0
  let l := { l with width := w.natAbs, leftAligned := l.leftAligned || w < 0 }
  let (precision, f, cs) ← match cs with
    | '.' :: rest => (takeSize greatestPrecision .precisionTooLarge f rest).map fun (n, f, r) => (some (n.getD 0), f, r)
    | _ => .ok (none, f, cs)
  let l := { l with precision := precision.map Int.toNat }
  let cs := match cs with
    | c :: rest => if c == 'h' || c == 'l' || c == 'L' then rest else cs
    | [] => []
  match cs with
  | [] => .error .cutShort
  | '%' :: rest => return (['%'], f, rest)
  | letter :: rest =>
    let (v, f) ← f.take
    let text ← l.write letter (size - cs.length) v
    return (text, f, rest)

/-- Fills a template that goes on with `cs`. Every step takes at least one character. -/
def fillFrom (size : Nat) : (fuel : Nat) → Filling → List Char → Except Fault (List Char × Filling)
  | 0, f, _ => .ok ([], f)
  | _ + 1, f, [] => .ok ([], f)
  | fuel + 1, f, '%' :: rest => do
    let (text, f, rest) ← directive size f rest
    let (others, f) ← fillFrom size fuel f rest
    return (text ++ others, f)
  | fuel + 1, f, c :: rest => (fillFrom size fuel f rest).map fun (others, f) => (c :: others, f)

/-- Fills a template with a value. -/
def fill (template : String) (v : Json) : Except Fault String := do
  let cs := template.toList
  let (text, f) ← fillFrom cs.length (cs.length + 1) ⟨v, some v⟩ cs
  match f.whole, f.next with
  | .str _, some _ => .error .unused
  | _, _ => return String.ofList text

end ElementLocator.Template
