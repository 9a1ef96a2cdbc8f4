import ElementLocator.Access
import ElementLocator.Interruption

/-! # Matching attributes

    Whether one attribute satisfies one constraint, and whether a node satisfies a pattern's
    own criteria. A missing or empty attribute satisfies no constraint, and a regular
    expression may match anywhere in the value. -/

namespace ElementLocator

/-- Whether `part` occurs in `whole`. -/
def occursIn (part : List Char) : List Char → Bool
  | [] => part.isEmpty
  | c :: rest => part.isPrefixOf (c :: rest) || occursIn part rest

/-- Compares a value that is present with the expected text. -/
def MatchType.compare (t : MatchType) (value expected : String) : Except Regex.Fault Bool :=
  match t with
  | .exact => .ok (value == expected)
  | .contains => .ok (occursIn expected.toList value.toList)
  | .startsWith => .ok (expected.toList.isPrefixOf value.toList)
  | .endsWith => .ok (expected.toList.isSuffixOf value.toList)
  | .regex => Regex.search expected value

/-- Whether an attribute satisfies a constraint. -/
def matchesText (value : Option String) (expected : String) (t : MatchType) : Except Regex.Fault Bool :=
  match value with
  | none => .ok false
  | some v => if v.isEmpty then .ok false else t.compare v expected

/-- Whether every constraint is satisfied; the first that is not decides. -/
def matchesAll (a : NodeAttributes) (t : MatchType) : List (TextField × String) → Except Regex.Fault Bool
  | [] => .ok true
  | (field, expected) :: rest =>
    match matchesText (a.text field) expected t with
    | .ok true => matchesAll a t rest
    | r => r

/-- Whether a node satisfies a pattern's own criteria: its role is the pattern's, and every
    constraint that is present is satisfied. -/
def Criteria.matches? (c : Criteria) (a : NodeAttributes) : Except Regex.Fault Bool :=
  if a.role = some c.role then matchesAll a c.matchType c.constraints else .ok false

/-- Whether a node satisfies a pattern that was read: its regular expressions compile, so that
    only a match that cannot be reported interrupts. -/
def Pattern.matchesNode (p : Pattern) (a : NodeAttributes) : Except Interruption Bool :=
  (p.criteria.matches? a).mapError .regex

end ElementLocator
