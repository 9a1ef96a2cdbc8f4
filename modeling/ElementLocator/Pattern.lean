import ElementLocator.Interruption

/-! # Locator patterns

    A pattern describes one logical element: its role, constraints on up to three texts with
    the comparison they are made by, which of several candidates is meant, and patterns of
    elements inside it. A pattern without inner patterns selects the element itself; with
    inner patterns it selects what these select inside the element. -/

namespace ElementLocator

/-- How a text constraint is compared with an attribute. -/
inductive MatchType
  | exact
  | contains
  | startsWith
  | endsWith
  | regex
  deriving DecidableEq, Repr

namespace MatchType

/-- The spelling used in configurations. -/
def spelling : MatchType → String
  | .exact => "exact"
  | .contains => "contains"
  | .startsWith => "startsWith"
  | .endsWith => "endsWith"
  | .regex => "regex"

/-- The comparison that a spelling names. -/
def ofSpelling? (s : String) : Option MatchType :=
  [exact, contains, startsWith, endsWith, regex].find? (·.spelling == s)

end MatchType

/-- What a pattern says about an element itself. The role is a sequence of characters; the other
    texts are in `σ`. -/
structure Criteria (σ : Type := String) where
  role : String
  identifier : Option σ
  className : Option σ
  label : Option σ
  matchType : MatchType
  /-- The candidate meant; negative counts from the last. -/
  index : Option Int
  deriving DecidableEq, Repr

/-- A locator pattern. An empty list of children stands for a pattern without inner patterns. -/
inductive Pattern (σ : Type := String)
  | node (criteria : Criteria σ) (children : List (Pattern σ))

/-- The texts of an element that a pattern can constrain. -/
inductive TextField
  | identifier
  | className
  | label
  deriving DecidableEq, Repr

/-- The name of a text field in messages. -/
def TextField.name : TextField → String
  | .identifier => "identifier"
  | .className => "class_name"
  | .label => "label"

/-- The text constraints that are present, in the order they are compared. -/
def Criteria.constraints (c : Criteria) : List (TextField × String) :=
  (c.identifier.toList.map (TextField.identifier, ·)) ++
    (c.className.toList.map (TextField.className, ·)) ++
    (c.label.toList.map (TextField.label, ·))

namespace Pattern

/-- What the pattern says about the element itself. -/
def criteria : Pattern → Criteria
  | node c _ => c

/-- The patterns inside the pattern. -/
def children : Pattern → List Pattern
  | node _ cs => cs

/-- Whether the pattern selects through inner patterns. -/
def isComposite (p : Pattern) : Bool := !p.children.isEmpty

/-- One line that shows what a pattern asks for. -/
def describe (p : Pattern) : String :=
  let c := p.criteria
  let part (name : String) (v : Option String) : String :=
    match v with
    | some s => s!", {name}: {s}"
    | none => ""
  s!"Role: {c.role}" ++ part "Identifier" c.identifier ++ part "Class" c.className ++
    part "Label" c.label ++ part "Index" (c.index.map toString) ++
    s!", MatchType: {c.matchType.spelling}" ++
    (if p.children.isEmpty then "" else s!", Children: {p.children.length}")

/-- Whether the index of the pattern has more digits than are shown. -/
def hasLongIndex (p : Pattern) : Bool := p.criteria.index.any fun n => (.int n : Value).isTooLong

/-- The line that shows what a pattern asks for, unless its index has too many digits. -/
def described (p : Pattern) : Except Interruption String :=
  if p.hasLongIndex then .error .numberTooLong else .ok p.describe

mutual

/-- The pattern as an indented list, one entry for the pattern and each pattern inside it; each
    level takes two blanks. -/
def format (indent : Nat) : Pattern → Except Interruption String
  | node c cs => do
    let line ← (node c cs).described
    let below ← formatAll (indent + 1) cs
    return String.intercalate "\n" ((String.ofList (List.replicate (2 * indent) ' ') ++ "- " ++ line) :: below)

/-- The lists of several patterns. -/
def formatAll (indent : Nat) : List Pattern → Except Interruption (List String)
  | [] => .ok []
  | p :: rest => do
    let first ← p.format indent
    let others ← formatAll indent rest
    return first :: others

end

end Pattern

end ElementLocator
