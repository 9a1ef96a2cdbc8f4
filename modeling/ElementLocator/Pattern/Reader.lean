import ElementLocator.Interruption
import ElementLocator.Pattern

/-! # Reading patterns

    A pattern is read from a mapping with the keys `role`, `identifier`, `className`, `label`,
    `matchType`, `index` and `children`. Two of them have a second spelling. A pattern whose
    comparison is by regular expression must hold only texts that compile; that is checked
    once every field of the pattern is in order.

    Text that no rule of regular expressions refuses but whose numbers are out of all bounds
    does not count as an error of the pattern: it interrupts reading altogether.

    Texts in memory may hold halves of characters. The keys, the role and the comparison must not;
    the texts that attributes are compared with may. -/

namespace ElementLocator

namespace Criteria

variable {σ : Type} [Inscription σ]

/-- The message for a match type that is none of the five. -/
def badMatchType : String :=
  "Input should be 'exact', 'contains', 'startsWith', 'endsWith' or 'regex'"

/-- A match type by its spelling. -/
def readMatchType (v : Value σ) : Checked MatchType :=
  match Validation.text v with
  | .ok s =>
    match Inscription.characters? s with
    | some s =>
      match MatchType.ofSpelling? s with
      | some t => .ok t
      | none => .refuse badMatchType
    | none => .refuse Validation.unreadable
  | .error _ => .refuse badMatchType

/-- The value of a field under one of its spellings, checked, or `absent` if it is not there;
    with the spelling used. -/
def readField {α : Type} (entries : List (Value σ × Value σ)) (names : List String)
    (absent : Checked α) (check : Value σ → Checked α) : Option String × Checked α :=
  match Validation.field? entries names with
  | some (name, v) => (some name, (check v).below name)
  | none => (none, absent)

/-- The first constraint that does not compile, if the comparison is by regular expression. -/
def regexFault? (c : Criteria) : Option (TextField × String × Regex.Fault) :=
  if c.matchType = .regex then
    c.constraints.findSome? fun (field, source) =>
      match Regex.compile source with
      | .ok _ => none
      | .error f => some (field, source, f)
  else none

/-- The criteria, if their regular expressions compile. -/
def checkRegex (c : Criteria) : Reading Unit :=
  match c.regexFault? with
  | none => .ok (.ok ())
  | some (field, source, f) =>
    match f with
    | .malformed .. =>
      .ok (.refuse s!"Value error, invalid regex for {field.name}: {f.message source}")
    | .countTooLong _ | .incompatibleFlags => .ok (.refuse s!"Value error, {f.message source}")
    | .repetitionTooLarge | .codeTooLarge | .lookBehindTooWide | .wrongSpan => .error (.regex f)

/-- A text that need not be there, in characters; none if it holds halves of characters. -/
def charactersOf? : Option σ → Option (Option String)
  | none => some none
  | some s => (Inscription.characters? s).map some

/-- The criteria in characters, if every text is a sequence of characters. -/
def characters? (c : Criteria σ) : Option Criteria := do
  let identifier ← charactersOf? c.identifier
  let className ← charactersOf? c.className
  let label ← charactersOf? c.label
  return ⟨c.role, identifier, className, label, c.matchType, c.index⟩

/-- The criteria of any texts, if their regular expressions compile. -/
def checkTexts (c : Criteria σ) : Reading Unit :=
  match c.matchType, c.characters? with
  | _, some c => c.checkRegex
  | .regex, none => .error .halfCharacter
  | _, none => .ok (.ok ())

end Criteria

namespace Pattern

variable {σ : Type} [Inscription σ]

/-- The message for a value that is no mapping where a pattern should stand. -/
def notMapping : String := "Input should be a valid dictionary or instance of LocatorPattern"

/-- Puts a pattern together from its entries and its children as read: all field errors, or the
    pattern if its regular expressions compile. -/
def assemble (entries : List (Value σ × Value σ)) (children : Option (Checked (List (Pattern σ)))) :
    Reading (Pattern σ) :=
  let (roleKey, role) := Criteria.readField entries ["role"]
    (.error [⟨["role"], "Field required"⟩]) Validation.nonemptyText
  let (identifierKey, identifier) := Criteria.readField entries ["identifier"] (.ok none)
    (Validation.optional Validation.text)
  let (classKey, className) := Criteria.readField entries ["className", "class_name"] (.ok none)
    (Validation.optional Validation.text)
  let (labelKey, label) := Criteria.readField entries ["label"] (.ok none)
    (Validation.optional Validation.text)
  let (matchKey, matchType) := Criteria.readField entries ["matchType", "match_type"]
    (.ok .contains) Criteria.readMatchType
  let (indexKey, index) := Criteria.readField entries ["index"] (.ok none)
    (Validation.optional Validation.whole)
  let inner := (children.getD (.ok [])).below "children"
  let used := [roleKey, identifierKey, classKey, labelKey, matchKey, indexKey].filterMap id ++
    (if children.isSome then ["children"] else [])
  let errors := Validation.recordErrors (role.errors ++ identifier.errors ++ className.errors ++ label.errors ++
    matchType.errors ++ index.errors ++ inner.errors) used entries
  match errors with
  | [] =>
    let c : Criteria σ :=
      { role := role.getD "", identifier := identifier.getD none, className := className.getD none,
        label := label.getD none, matchType := matchType.getD .contains, index := index.getD none }
    (c.checkTexts).map fun checked => checked.map fun _ => node c (inner.getD [])
  | es => .ok (.error es)

mutual

/-- Reads a pattern. `seen` holds the containers that are being read as patterns further out, and
    `levels` is the number of patterns that may stand one inside the other. -/
def read (seen : List Nat) (levels : Nat) : Value σ → Reading (Pattern σ)
  | .marked id v =>
    if seen.contains id then .ok (.refuse Validation.cyclic) else read (id :: seen) levels v
  | .mapping entries =>
    if levels = 0 then .ok (.refuse Validation.tooDeep)
    else
      match readChildren seen (levels - 1) entries with
      | .error i => .error i
      | .ok children => assemble entries children
  | _ => .ok (.refuse (if levels = 0 then Validation.tooDeep else notMapping))

/-- Reads the children among the entries of a pattern, if they are given. -/
def readChildren (seen : List Nat) (levels : Nat) :
    List (Value σ × Value σ) → Except Interruption (Option (Checked (List (Pattern σ))))
  | [] => .ok none
  | (k, v) :: rest =>
    if Validation.isNamed "children" k then (readChildList seen levels v).map some
    else readChildren seen levels rest

/-- Reads the value of the children field: nothing, or at least one pattern. -/
def readChildList (seen : List Nat) (levels : Nat) : Value σ → Reading (List (Pattern σ))
  | .null => .ok (.ok [])
  | .list items => (readItems seen levels 0 items).map nonempty
  | .tuple items => (readItems seen levels 0 items).map nonempty
  | .set items => (readItems seen levels 0 items).map nonempty
  | .marked _ v => readChildList seen levels v
  | _ => .ok (.refuse "Input should be a valid tuple")
where
  /-- Refuses an empty list of children. -/
  nonempty {σ : Type} : Checked (List (Pattern σ)) → Checked (List (Pattern σ))
    | .ok [] => .refuse "Value error, children must be omitted or contain at least one pattern"
    | c => c

/-- Reads patterns from position `i` on. -/
def readItems (seen : List Nat) (levels i : Nat) : List (Value σ) → Reading (List (Pattern σ))
  | [] => .ok (.ok [])
  | v :: rest =>
    match read seen levels v with
    | .error e => .error e
    | .ok first =>
      match readItems seen levels (i + 1) rest with
      | .error e => .error e
      | .ok others => .ok ((first.below (toString i)).cons others)

end

/-- The pattern that a document value describes, or all its field errors. -/
def ofValue (v : Value σ) : Reading (Pattern σ) := read [] Validation.deepest v

end Pattern

end ElementLocator
