import ElementLocator.Yaml.Fault

/-! # YAML nodes

    The tree of nodes that a YAML text describes. Containers are numbered, so that an alias
    can stand for one that is written elsewhere, or for one around the alias itself. -/

namespace ElementLocator.Yaml

/-- A node of a YAML text with its tag and the place where it starts. -/
inductive Node
  | scalar (tag text : String) (start : Mark)
  | sequence (number : Nat) (tag : String) (items : List Node) (start : Mark)
  | mapping (number : Nat) (tag : String) (entries : List (Node × Node)) (start : Mark)
  /-- An alias of a container. -/
  | reference (number : Nat)

/-- The size of a node without what stands inside its parts. -/
def Node.size : Node → Nat
  | sequence _ _ items _ => items.length + 2
  | mapping _ _ entries _ => entries.length + 2
  | _ => 1

/-- The size of all containers and a little more. -/
def totalSize (containers : List (Nat × Node)) : Nat :=
  containers.foldl (fun n c => n + c.2.size) 2

/-- A whole text: its root, if there is a document, every container by number, and their size,
    which bounds walks through them. -/
structure Composition where
  root : Option Node
  containers : List (Nat × Node)
  size : Nat
  size_eq : size = totalSize containers

/-- The composition of a root and containers. -/
def Composition.of (root : Option Node) (containers : List (Nat × Node)) : Composition :=
  ⟨root, containers, totalSize containers, rfl⟩

/-- The container that a node is or refers to. -/
def Composition.resolve (c : Composition) : Node → Node
  | .reference n =>
    match c.containers.find? (·.1 == n) with
    | some (_, node) => node
    | none => .reference n
  | node => node

/-- The place where a node starts. -/
def Node.start : Node → Mark
  | scalar _ _ m | sequence _ _ _ m | mapping _ _ _ m => m
  | reference _ => ⟨0, 0, 0⟩

/-- The tag of a node. -/
def Node.tag : Node → String
  | scalar t _ _ | sequence _ t _ _ | mapping _ t _ _ => t
  | reference _ => ""

/-- How messages name the kind of a node. -/
def Node.kind : Node → String
  | scalar .. => "scalar"
  | sequence .. => "sequence"
  | mapping .. => "mapping"
  | reference _ => "alias"

end ElementLocator.Yaml
