import ElementLocator.Json

/-! # Values given in order or by name

    An operation names the values that it takes. A caller gives some in order and others by name;
    some operations take further values by name as well. What does not fit is told in the
    order in which it is found: names first, then the count, then what is missing. -/

namespace ElementLocator

/-- The values that an operation takes. -/
structure Signature where
  /-- How messages name the operation. -/
  operation : String
  /-- The name of what the operation is asked of, which counts as its first value. -/
  receiver : List String := ["self"]
  required : List String
  optional : List String := []
  /-- Whether further values may be given by name. -/
  further : Bool := true

namespace Signature

/-- What is wrong with the values given. -/
inductive Fault
  /-- A value is given twice. -/
  | repeated (name : String)
  /-- There is no value of this name. -/
  | unexpected (name : String)
  /-- More values are given in order than there are. -/
  | tooMany (given : Nat)
  /-- Values are not given. -/
  | missing (names : List String)
  deriving DecidableEq, Repr

/-- The names that values in order are given to. -/
def names (s : Signature) : List String := s.receiver ++ s.required ++ s.optional

/-- The literals of names in a row. -/
def namesText : List String → String
  | [] => ""
  | [a] => s!"'{a}'"
  | [a, b] => s!"'{a}' and '{b}'"
  | names =>
    let last := names.getLastD ""
    String.intercalate ", " (names.dropLast.map fun n => s!"'{n}'") ++ s!", and '{last}'"

/-- The wording of a fault. -/
def message (s : Signature) : Fault → String
  | .repeated name => s!"{s.operation}() got multiple values for argument '{name}'"
  | .unexpected name => s!"{s.operation}() got an unexpected keyword argument '{name}'"
  | .tooMany given =>
    let least := (s.receiver ++ s.required).length
    let most := s.names.length
    let count := if least < most then s!"from {least} to {most}" else toString most
    let plural := if least < most || most != 1 then "s" else ""
    let were := if given = 1 then "was" else "were"
    s!"{s.operation}() takes {count} positional argument{plural} but {given} {were} given"
  | .missing names =>
    let plural := if names.length = 1 then "" else "s"
    s!"{s.operation}() missing {names.length} required positional argument{plural}: {namesText names}"

/-- Values by name, and further ones. -/
structure Bound where
  values : List (String × Json)
  further : List (String × Json)

/-- The value of a name; null if it is not given. -/
def Bound.get (b : Bound) (name : String) : Json :=
  ((b.values.find? (·.1 == name)).map (·.2)).getD .null

/-- Whether a value is given for a name. -/
def Bound.has (b : Bound) (name : String) : Bool := b.values.any (·.1 == name)

/-- Adds values by name to those given in order. -/
def addNamed (s : Signature) (b : Bound) : List (String × Json) → Except Fault Bound
  | [] => .ok b
  | (name, v) :: rest =>
    if s.names.contains name then
      if b.has name || s.receiver.contains name then .error (.repeated name)
      else s.addNamed { b with values := b.values ++ [(name, v)] } rest
    else if s.further then s.addNamed { b with further := b.further ++ [(name, v)] } rest
    else .error (.unexpected name)

/-- Gives each value its name. -/
def bind (s : Signature) (inOrder : List Json) (named : List (String × Json)) : Except Fault Bound := do
  let own := s.required ++ s.optional
  let b ← s.addNamed ⟨own.zip inOrder, []⟩ named
  if own.length < inOrder.length then .error (.tooMany (s.receiver.length + inOrder.length))
  else
    let missing := s.required.filter fun name => !b.has name
    if missing.isEmpty then return b else .error (.missing missing)

end Signature

end ElementLocator
