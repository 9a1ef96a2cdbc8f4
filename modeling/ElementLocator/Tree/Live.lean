import ElementLocator.Tree

/-! # Trees that change

    A tree whose nodes can be changed while others read it. Every node has a number of its
    own, which it keeps wherever it moves; a number is never given twice. Failures belong to
    nodes by their numbers, so that they follow a node when its surroundings change, and equal
    nodes stay apart. -/

namespace ElementLocator

/-- A node of a tree that changes: its attributes and the numbers of its children. -/
structure LiveNode where
  attributes : NodeAttributes
  children : List Nat
  deriving Repr

/-- The nodes of a tree that changes, by number, with the failures that reads of some of them
    end in, latest first. All numbers are below `unused`. -/
structure LiveTree where
  nodes : List (Nat × LiveNode)
  unused : Nat
  failures : List (Nat × Injected)

/-- What a caller gives for a node: one by its number, or a value of another kind. -/
inductive Handle
  | node (number : Nat)
  | foreign (kind : String)
  deriving DecidableEq, Repr

namespace LiveTree

/-- No nodes. -/
def empty : LiveTree := ⟨[], 0, []⟩

/-- The node of a number. -/
def node? (t : LiveTree) (number : Nat) : Option LiveNode :=
  (t.nodes.find? (·.1 == number)).map (·.2)

/-- The attributes of a node as they were set. -/
def attributesOf (t : LiveTree) (number : Nat) : NodeAttributes :=
  ((t.node? number).map (·.attributes)).getD .empty

/-- The numbers of a node's children. -/
def childrenOf (t : LiveTree) (number : Nat) : List Nat :=
  ((t.node? number).map (·.children)).getD []

/-- Changes a node. -/
def update (t : LiveTree) (number : Nat) (f : LiveNode → LiveNode) : LiveTree :=
  { t with nodes := t.nodes.map fun e => if e.1 == number then (e.1, f e.2) else e }

/-- Adds a node with a number of its own. -/
def add (t : LiveTree) (n : LiveNode) : Nat × LiveTree :=
  (t.unused, { t with nodes := (t.unused, n) :: t.nodes, unused := t.unused + 1 })

mutual

/-- Adds the nodes of a tree; answers the number of its root. -/
def plant (t : LiveTree) : Tree → Nat × LiveTree
  | .node attributes children =>
    let (numbers, t) := plantAll t children
    t.add ⟨attributes, numbers⟩

/-- Adds the nodes of several trees. -/
def plantAll (t : LiveTree) : List Tree → List Nat × LiveTree
  | [] => ([], t)
  | c :: rest =>
    let (number, t) := plant t c
    let (numbers, t) := plantAll t rest
    (number :: numbers, t)

end

/-- A tree alone, with the number of its root. -/
def ofTree (t : Tree) : Nat × LiveTree := empty.plant t

-- ── changes ───────────────────────────────────────────────────────────────

/-- Sets an attribute of a node by its name. Names that start with an underscore are free to be
    used for marks of one's own, which nothing here reads. -/
def setAttribute (t : LiveTree) (number : Nat) (name : String) (v : Option String) :
    Except Failure LiveTree :=
  let set (f : NodeAttributes → NodeAttributes) : Except Failure LiveTree :=
    .ok (t.update number fun n => { n with attributes := f n.attributes })
  match name with
  | "role" => set fun a => { a with role := v }
  | "identifier" => set fun a => { a with identifier := v }
  | "class_name" => set fun a => { a with className := v }
  | "label" => set fun a => { a with label := v }
  | _ => if name.startsWith "_" then .ok t else .error (.unknownAttribute name)

/-- Takes all children away from a node. -/
def removeChildren (t : LiveTree) (number : Nat) : LiveTree :=
  t.update number fun n => { n with children := [] }

/-- Adds a tree as the last child of a node. -/
def append (t : LiveTree) (number : Nat) (child : Tree) : LiveTree :=
  let (added, t) := t.plant child
  t.update number fun n => { n with children := n.children ++ [added] }

/-- Takes a child away from a node. -/
def removeChild (t : LiveTree) (number position : Nat) : LiveTree :=
  t.update number fun n => { n with children := n.children.eraseIdx position }

/-- Makes every read of a node fail. -/
def failOn (t : LiveTree) (number : Nat) (i : Injected) : LiveTree :=
  { t with failures := (number, i) :: t.failures }

/-- Lets all nodes be read again. -/
def clearFailures (t : LiveTree) : LiveTree := { t with failures := [] }

-- ── reads ─────────────────────────────────────────────────────────────────

/-- What reads of a node end in, if they fail. -/
def failure? (t : LiveTree) (number : Nat) : Option Injected :=
  (t.failures.find? (·.1 == number)).map (·.2)

/-- The number of a node that can be read. -/
def readable (t : LiveTree) : Handle → Except Failure Nat
  | .foreign kind => .error (.foreignHandle kind)
  | .node number =>
    match t.failure? number with
    | some i => .error i.failure
    | none => .ok number

/-- The backend over the tree as it is now. -/
def access (t : LiveTree) : TreeAccess Handle where
  backend := Tree.backendName
  attributes := fun h => Report.ofExcept ((t.readable h).map fun n => (t.attributesOf n).visible)
  children := fun h => Report.ofExcept ((t.readable h).map fun n => (t.childrenOf n).map Handle.node)

-- ── places ────────────────────────────────────────────────────────────────

/-- The node at a place below another. -/
def at? (t : LiveTree) (number : Nat) : List Nat → Option Nat
  | [] => some number
  | i :: rest =>
    match (t.childrenOf number)[i]? with
    | none => none
    | some child => t.at? child rest

mutual

/-- The nodes below and with a node in document order, each with its place. -/
def placesFrom (t : LiveTree) : (levels : Nat) → (path : List Nat) → Nat → List (Nat × List Nat)
  | 0, _, _ => []
  | levels + 1, path, number =>
    (number, path) :: t.childPlaces levels path 0 (t.childrenOf number)

/-- The places of children from position `i` on. -/
def childPlaces (t : LiveTree) :
    (levels : Nat) → (path : List Nat) → (i : Nat) → List Nat → List (Nat × List Nat)
  | 0, _, _, _ => []
  | _ + 1, _, _, [] => []
  | levels + 1, path, i, c :: rest =>
    t.placesFrom levels (path ++ [i]) c ++ t.childPlaces levels path (i + 1) rest

end

/-- All nodes reached from a root, each with its place. -/
def places (t : LiveTree) (root : Nat) : List (Nat × List Nat) :=
  t.placesFrom (2 * t.unused + 2) [] root

end LiveTree

end ElementLocator
