import ElementLocator.Access
import ElementLocator.Text.Quoted

/-! # Outlines of trees

    A tree written as indented lines with the keys that patterns use, so that a part of the
    outline can be pasted into a configuration. A node shows the attributes it has, each as a
    quoted text; its children follow in order, each as an entry of a list two levels deeper. A
    node with nothing to show is an empty mapping.

    The whole outline is defined by recursion on the tree. An outline in progress
    (`Outline.Cursor`) gives the same lines one by one: each node is read when its first line
    is asked for. -/

namespace ElementLocator.Outline

variable {σ ν : Type} [Inscription σ]

/-- The line of one attribute, if the node has it. -/
def fieldLine (key : String) (v : Option σ) : List σ :=
  match present v with
  | some s => [Inscription.append (Inscription.ofString (key ++ ": ")) (Inscription.quote s)]
  | none => []

/-- The lines of a node without indentation; never none. -/
def ownLines (a : NodeAttributes σ) (hasChildren : Bool) : List σ :=
  let lines := fieldLine "role" a.role ++ fieldLine "identifier" a.identifier ++
    fieldLine "className" a.className ++ fieldLine "label" a.label ++
    (if hasChildren then [Inscription.ofString "children:"] else [])
  if lines.isEmpty then [Inscription.ofString "\x7b\x7d"] else lines

/-- A number of blanks. -/
def blanks (n : Nat) : String := String.ofList (List.replicate n ' ')

/-- What stands before the first line of a node at a depth. -/
def lead (depth : Nat) : String := if depth = 0 then "" else blanks (4 * depth - 2) ++ "- "

/-- What stands before the other lines of a node at a depth. -/
def pad (depth : Nat) : String := blanks (4 * depth)

/-- The lines of a node put in their places at a depth. -/
def placed (depth : Nat) : List σ → List σ
  | [] => []
  | first :: rest =>
    Inscription.append (Inscription.ofString (lead depth)) first ::
      rest.map (Inscription.append (Inscription.ofString (pad depth)))

theorem placed_cons (depth : Nat) (first : String) (rest : List String) :
    placed depth (first :: rest) = (lead depth ++ first) :: rest.map (pad depth ++ ·) := rfl

/-- Reads a node: its placed lines and its children. -/
def readNode (access : TreeAccess ν σ) (depth : Nat) (node : ν) : TaskOf σ ν (List σ × List ν) := do
  let attributes ← access.attributes node
  let children ← access.children node
  return (placed depth (ownLines attributes (!children.isEmpty)), children)

/-- Reports that a tree is too deep. -/
def tooDeep {σ ν α : Type} (limit : Nat) : TaskOf σ ν α := do
  Task.log .error "tree_too_deep" [("max_depth", .int limit)]
  Task.refuse (.tooDeep limit)

/-- Writes the outline of a node at a depth; `levels` is the number of levels that may still be
    entered. -/
def write (access : TreeAccess ν σ) (limit : Nat) : (levels depth : Nat) → ν → TaskOf σ ν Unit
  | 0, _, _ => tooDeep limit
  | levels + 1, depth, node => do
    let (lines, children) ← readNode access depth node
    Report.each (fun s => Report.note (.line s)) lines
    Report.each (write access limit levels (depth + 1)) children

/-- Writes the outline of a tree, if there is a depth limit for it. -/
def ofRoot (access : TreeAccess ν σ) (limit : Except Failure DepthLimit) (node : ν) : TaskOf σ ν Unit := do
  let limit ← Report.ofExcept limit
  write access limit.levels (limit.levels + 1) 0 node

/-- The text of lines, each ended by a line break; without lines it is one line break. -/
def textOf (lines : List String) : String := String.intercalate "\n" lines ++ "\n"

/-- The outline of a tree as one text. -/
def text (access : TreeAccess ν) (limit : Except Failure DepthLimit) (node : ν) : Task ν String :=
  let r := ofRoot access limit node
  ⟨withoutLines r.notes, r.outcome.map fun _ => textOf (finishedLines r.notes)⟩

/-- An outline in progress. -/
inductive Cursor (ν : Type)
  /-- Nothing was asked for yet. -/
  | fresh (asked : Option Int) (root : ν)
  /-- Lines read and not yet given, then nodes to visit with their depths. -/
  | running (limit : Nat) (lines : List String) (agenda : List (Nat × ν))
  /-- Every line was given, or a failure ended the outline. -/
  | finished

/-- What one step of an outline in progress answers. -/
inductive Step
  | line (text : String)
  | exhausted

/-- Gives the next line from lines already read, or reads the next node. -/
def Cursor.step (access : TreeAccess ν) (limit : Nat) (lines : List String)
    (agenda : List (Nat × ν)) : Task ν (Step × Cursor ν) :=
  match lines, agenda with
  | s :: rest, agenda => Report.ok (.line s, .running limit rest agenda)
  | [], [] => Report.ok (.exhausted, .finished)
  | [], (depth, node) :: later =>
    if limit < depth then tooDeep limit
    else do
      let (lines, children) ← readNode access depth node
      match lines with
      | [] => return (.exhausted, .finished)
      | s :: rest =>
        return (.line s, .running limit rest (children.map (depth + 1, ·) ++ later))

/-- The next line of an outline in progress, and the outline after it. A failure ends the
    outline. The depth limit is settled when the first line is asked for; `standard` is the one
    for outlines that asked for none. -/
def Cursor.next (access : TreeAccess ν) (standard : Except Failure DepthLimit) :
    Cursor ν → Task ν Step × Cursor ν
  | .finished => (Report.ok .exhausted, .finished)
  | .fresh asked root =>
    match DepthLimit.choose asked standard with
    | .error f => (Report.fail f, .finished)
    | .ok limit => conclude (step access limit.levels [] [(0, root)])
  | .running limit lines agenda => conclude (step access limit lines agenda)
where
  /-- Splits a step's answer from the outline after it. -/
  conclude (r : Task ν (Step × Cursor ν)) : Task ν Step × Cursor ν :=
    match r.outcome with
    | .ok (s, c) => (⟨r.notes, .ok s⟩, c)
    | .error f => (⟨r.notes, .error f⟩, .finished)

end ElementLocator.Outline
