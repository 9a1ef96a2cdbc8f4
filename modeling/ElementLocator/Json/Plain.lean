import ElementLocator.Value.Literal

/-! # Plain data in texts

    How plain data shows inside of texts, what of it counts as nothing, and what items it has. -/

namespace ElementLocator.Json

/-- The literal of a value. -/
def literal (j : Json) : String := (Value.ofJson j).literal

/-- The text of a value: a text itself, and the literal of anything else. -/
def text : Json → String
  | .str s => s
  | j => j.literal

/-- Whether a value counts as nothing. -/
def isNothing : Json → Bool
  | .null => true
  | .bool b => !b
  | .int n => n == 0
  | .float x => x.isZero
  | .str s => s.isEmpty
  | .list items => items.isEmpty
  | .object members => members.isEmpty

/-- The items of a value, if it has any kind of items: those of a list, the characters of a text,
    the keys of an object. -/
def items? : Json → Option (List Json)
  | .list items => some items
  | .str s => some (s.toList.map fun c => .str (String.singleton c))
  | .object members => some (members.map fun m => .str m.1)
  | _ => none

/-- The whole number that a value is, truth values counting as 0 and 1. -/
def int? : Json → Option Int
  | .int n => some n
  | .bool b => some (if b then 1 else 0)
  | _ => none

end ElementLocator.Json
