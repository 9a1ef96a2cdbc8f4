import ElementLocator.Access

/-! # Trees in memory

    A tree of interface elements as plain data, and a backend that serves it. A node's handle
    is its place in the tree together with the subtree there, so that equal subtrees in
    different places stay apart. Reads of chosen nodes can be made to fail. -/

namespace ElementLocator

/-- A node with its attributes and its children in order. An attribute may be an empty text. -/
inductive Tree (σ : Type := String)
  | node (attributes : NodeAttributes σ) (children : List (Tree σ))

/-- The attributes as a backend reports them: an empty text counts as none. -/
def NodeAttributes.visible {σ : Type} [Inscription σ] (a : NodeAttributes σ) : NodeAttributes σ where
  role := present a.role
  identifier := present a.identifier
  className := present a.className
  label := present a.label

/-- A node that has no attributes. -/
def NodeAttributes.empty : NodeAttributes := ⟨none, none, none, none⟩

instance {σ : Type} : Inhabited (Tree σ) := ⟨.node ⟨none, none, none, none⟩ []⟩

namespace Tree

/-- The attributes of the root. -/
def attributes {σ : Type} : Tree σ → NodeAttributes σ
  | node a _ => a

/-- The subtrees below the root. -/
def children {σ : Type} : Tree σ → List (Tree σ)
  | node _ cs => cs

mutual

/-- All nodes in document order, the root first. -/
def walk : Tree → List Tree
  | node a cs => node a cs :: walkAll cs

/-- The nodes of several trees. -/
def walkAll : List Tree → List Tree
  | [] => []
  | t :: rest => walk t ++ walkAll rest

end

mutual

/-- The greatest number of steps from the root down to a node. -/
def height : Tree → Nat
  | node _ cs => heightAll cs

/-- One more than the greatest height of several trees; zero for none. -/
def heightAll : List Tree → Nat
  | [] => 0
  | t :: rest => max (height t + 1) (heightAll rest)

end

mutual

/-- Whether two trees hold the same attributes in the same places. -/
def same : Tree → Tree → Bool
  | node a cs, node b ds => a == b && sameAll cs ds

/-- Whether two lists of trees hold the same trees in order. -/
def sameAll : List Tree → List Tree → Bool
  | [], [] => true
  | t :: ts, u :: us => same t u && sameAll ts us
  | _, _ => false

end

/-- The subtree at a place, if there is one. -/
def at? : Tree → List Nat → Option Tree
  | t, [] => some t
  | t, i :: rest =>
    match t.children[i]? with
    | none => none
    | some c => c.at? rest

end Tree

/-- A node of a tree in memory: the steps that lead to it from the root, and what stands there. -/
structure Located (σ : Type := String) where
  path : List Nat
  tree : Tree σ

namespace Located

variable {σ : Type}

/-- The root of a tree. -/
def root (t : Tree σ) : Located σ := ⟨[], t⟩

/-- The children of a node from position `i` on. -/
def childrenFrom (path : List Nat) (i : Nat) : List (Tree σ) → List (Located σ)
  | [] => []
  | t :: rest => ⟨path ++ [i], t⟩ :: childrenFrom path (i + 1) rest

/-- The children of a node. -/
def children (n : Located σ) : List (Located σ) := childrenFrom n.path 0 n.tree.children

end Located

/-- What the read of a node ends in: a status and the code it came with. -/
abbrev Injected := AccessStatus × Json

/-- The failure that an injected status leads to. -/
def Injected.failure (i : Injected) : Failure :=
  match LocatorError.ofStatus? i.1 i.2 [] with
  | some e => .error e
  | none => .successStatus

namespace Tree

/-- The name of the backend over trees in memory. -/
def backendName : String := "memory"

/-- The backend over trees in memory, where reads of the nodes at chosen places fail. -/
def access {σ : Type} [Inscription σ] (failing : List Nat → Option Injected) : TreeAccess (Located σ) σ where
  backend := backendName
  attributes := fun n =>
    match failing n.path with
    | some i => Report.fail i.failure
    | none => Report.ok n.tree.attributes.visible
  children := fun n =>
    match failing n.path with
    | some i => Report.fail i.failure
    | none => Report.ok n.children

mutual

/-- All places of a tree in document order, for the subtree at a place. -/
def places (path : List Nat) : Tree → List (List Nat)
  | node _ cs => path :: placesAll path 0 cs

/-- The places of children from position `i` on. -/
def placesAll (path : List Nat) (i : Nat) : List Tree → List (List Nat)
  | [] => []
  | t :: rest => places (path ++ [i]) t ++ placesAll path (i + 1) rest

end

end Tree

end ElementLocator
