import ElementLocator.Text.Literal
import ElementLocator.Text.Utf8
import ElementLocator.Text.Whole

/-! # Faults of YAML texts

    Where a YAML text goes wrong, and how that is told: a problem with its place, and often
    what was being read and where that began. Some scalars are well written and still stand
    for no value; such a fault is told by its bare reason. And a text that is read bit by bit may
    turn out to be none further on.

    A text is a sequence of characters. Escapes can also name one of the two halves by which some
    encodings write a character; what becomes of a text with halves is left open here, and
    `ScalarFault.halfCharacter` marks it. -/

namespace ElementLocator.Yaml

/-- A place in a text: characters before it, and its line and column from zero. -/
structure Mark where
  index : Nat
  line : Nat
  column : Nat
  deriving DecidableEq, Repr

/-- The place as messages show it, counted from one. -/
def Mark.text (source : String) (m : Mark) : String :=
  "  in \"" ++ source ++ "\", line " ++ toString (m.line + 1) ++ ", column " ++ toString (m.column + 1)

/-- A fault with its place, and what was being read where. -/
structure Problem where
  context : Option String
  contextMark : Option Mark
  problem : String
  mark : Mark
  deriving DecidableEq, Repr

/-- The message of a problem; the place of the context is left out if it is the problem's. -/
def Problem.text (source : String) (p : Problem) : String :=
  let contextPlace := match p.contextMark with
    | none => []
    | some m =>
      if m.line = p.mark.line ∧ m.column = p.mark.column then [] else [m.text source]
  String.intercalate "\n" (p.context.toList ++ contextPlace ++ [p.problem, p.mark.text source])

/-- Why a well-written scalar stands for no value. -/
inductive ScalarFault
  /-- The digits form no whole number. -/
  | whole (f : Text.Whole.Fault)
  /-- There is no character to tell the number's form by. -/
  | empty
  /-- The text is no number with a fraction. -/
  | fraction (text : String)
  /-- The text is none of the truth words. -/
  | truth (text : String)
  /-- The text has not the form of a date. -/
  | dateForm
  /-- The date or time of day does not exist. -/
  | impossible (reason : String)
  /-- Another kind of node stands where a date was to be read. -/
  | dateShape
  /-- An escape names no character. -/
  | codePoint
  /-- The number in an escape has more than 31 bits. -/
  | codeTooLarge
  /-- An escape names half of a character: no text here holds one, so that texts which are written
      with such halves are not followed any further. -/
  | halfCharacter
  /-- The worth of a place of sixty is beyond all numbers with a fraction. -/
  | placeTooLarge
  deriving DecidableEq, Repr

/-- The reason as messages give it. -/
def ScalarFault.text : ScalarFault → String
  | whole f => f.message
  | empty => "string index out of range"
  | fraction t => "could not convert string to float: " ++ Text.Literal.ofString t
  | truth t => Text.Literal.ofString t
  | dateForm => "'NoneType' object has no attribute 'groupdict'"
  | impossible r => r
  | dateShape => "expected string or bytes-like object, got 'list'"
  | codePoint => "chr() arg not in range(0x110000)"
  | codeTooLarge => "Python int too large to convert to C int"
  | halfCharacter => "half of a character"
  | placeTooLarge => "int too large to convert to float"

/-- What keeps a reader from the characters that come next. -/
inductive Obstacle
  /-- A character that no text may hold. -/
  | unprintable (position : Nat) (c : Char)
  /-- Bytes that are no text. -/
  | undecodable (f : Text.Utf8.Fault)
  deriving DecidableEq, Repr

/-- Why a YAML text has no value. -/
inductive Fault
  /-- Characters that were needed cannot be had. -/
  | unreadable (o : Obstacle)
  /-- The text breaks a rule of the format. -/
  | problem (p : Problem)
  /-- A scalar stands for no value. -/
  | scalar (f : ScalarFault)
  deriving DecidableEq, Repr

/-- The message of a fault. -/
def Fault.text (source : String) : Fault → String
  | unreadable (.undecodable f) => f.message
  | unreadable (.unprintable position c) =>
    let digits := Text.Literal.hexDigits 4 c.toNat
    "unacceptable character #x" ++ String.ofList digits ++
      ": special characters are not allowed\n  in \"" ++ source ++ "\", position " ++ toString position
  | problem p => p.text source
  | scalar f => f.text

end ElementLocator.Yaml
