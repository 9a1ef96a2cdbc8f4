import ElementLocator.Regex
import ElementLocator.Validation

/-! # Interruptions

    Numbers out of all bounds in a document are no field errors: they interrupt the reading of
    a record altogether. So does a match that cannot be reported. -/

namespace ElementLocator

/-- What interrupts reading although it is no field error. -/
inductive Interruption
  /-- A regular expression has numbers out of all bounds, or cannot be searched for. -/
  | regex (f : Regex.Fault)
  /-- A number that a message should show has too many digits. -/
  | numberTooLong
  /-- A regular expression holds half of a character. What becomes of it is not followed. -/
  | halfCharacter
  deriving DecidableEq, Repr

/-- The message of an interruption. -/
def Interruption.message : Interruption → String
  | .regex f => f.message ""
  | .numberTooLong => Value.numberTooLong
  | .halfCharacter => "half of a character in a regular expression"

/-- A check that may be interrupted. -/
abbrev Reading (α : Type) := Except Interruption (Checked α)

end ElementLocator
