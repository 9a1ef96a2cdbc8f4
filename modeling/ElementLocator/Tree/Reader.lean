import ElementLocator.Tree
import ElementLocator.Validation

/-! # Reading trees

    A tree is read from nested mappings with the keys `role`, `identifier`, `className` (or
    `class_name`), `label` and `children`, none of which must be there. -/

namespace ElementLocator.Tree

/-- The message for a value that is no mapping where a node should stand. -/
def notMapping : String := "Input should be a valid dictionary or instance of TreeNode"

/-- A text field that may be missing or null, with the spelling used. -/
def readText (entries : List (Value × Value)) (names : List String) : Option String × Checked (Option String) :=
  match Validation.field? entries names with
  | some (name, v) => (some name, (Validation.optional Validation.text v).below name)
  | none => (none, .ok none)

/-- Puts a node together from its entries and its children as read. -/
def assemble (entries : List (Value × Value)) (children : Option (Checked (List Tree))) : Checked Tree :=
  let (roleKey, role) := readText entries ["role"]
  let (identifierKey, identifier) := readText entries ["identifier"]
  let (classKey, className) := readText entries ["className", "class_name"]
  let (labelKey, label) := readText entries ["label"]
  let inner := (children.getD (.ok [])).below "children"
  let used := [roleKey, identifierKey, classKey, labelKey].filterMap id ++
    (if children.isSome then ["children"] else [])
  let errors := role.errors ++ identifier.errors ++ className.errors ++ label.errors ++
    inner.errors ++ Validation.extraErrors used entries
  Checked.orErrors
    (node ⟨role.getD none, identifier.getD none, className.getD none, label.getD none⟩ (inner.getD []))
    errors

mutual

/-- Reads a node. `seen` holds the containers that are being read as nodes further out, and
    `levels` is the number of nodes that may stand one inside the other. -/
def read (seen : List Nat) (levels : Nat) : Value → Checked Tree
  | .marked id v => if seen.contains id then .refuse Validation.cyclic else read (id :: seen) levels v
  | .mapping entries =>
    if levels = 0 then .refuse Validation.tooDeep
    else assemble entries (readChildren seen (levels - 1) entries)
  | _ => .refuse (if levels = 0 then Validation.tooDeep else notMapping)

/-- Reads the children among the entries of a node, if they are given. -/
def readChildren (seen : List Nat) (levels : Nat) : List (Value × Value) → Option (Checked (List Tree))
  | [] => none
  | (k, v) :: rest =>
    match k with
    | .text "children" => some (readChildList seen levels v)
    | _ => readChildren seen levels rest

/-- Reads a list of nodes. -/
def readChildList (seen : List Nat) (levels : Nat) : Value → Checked (List Tree)
  | .list items => readItems seen levels 0 items
  | .tuple items => readItems seen levels 0 items
  | .set items => readItems seen levels 0 items
  | .marked _ v => readChildList seen levels v
  | _ => .refuse "Input should be a valid list"

/-- Reads nodes from position `i` on. -/
def readItems (seen : List Nat) (levels i : Nat) : List Value → Checked (List Tree)
  | [] => .ok []
  | v :: rest => ((read seen levels v).below (toString i)).cons (readItems seen levels (i + 1) rest)

end

/-- The tree that a document value describes, or all its field errors. -/
def ofValue (v : Value) : Checked Tree := read [] Validation.deepest v

end ElementLocator.Tree
