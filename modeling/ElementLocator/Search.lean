import ElementLocator.Pattern.Matching

/-! # Searching trees

    The candidates of a pattern below a node, in document order: for each child of a node the
    child itself comes first, then everything inside it. A match does not end the walk, so that
    an index may choose among all of them. A match of a pattern with inner patterns contributes
    what each inner pattern selects inside the match.

    The walk goes at most a given number of levels down, which bounds it on trees of any shape.
    At each node that it looks below, an event shows the pattern: a pattern that cannot be shown,
    because its index has too many digits, ends the search there. -/

namespace ElementLocator

variable {ν : Type}

/-- The candidate that an index selects: without one the first, if there is any; from the end
    if it is negative. -/
def selectCandidate {α : Type} (candidates : List α) (index : Option Int) : Except LocatorError (Option α) :=
  match index with
  | none => .ok candidates.head?
  | some i =>
    let place := if 0 ≤ i then i else candidates.length + i
    if 0 ≤ place ∧ place < candidates.length then .ok candidates[place.toNat]?
    else .error ⟨.indexOutOfRange i candidates.length, []⟩

namespace TreeAccess

/-- The line that shows a pattern in an event. -/
def shown (p : Pattern) : Task ν String := Report.ofExcept (p.described.mapError Failure.interrupted)

/-- What an inner pattern selects among its candidates inside a match; an index past them
    selects nothing. -/
def selectInner (p : Pattern) (candidates : List ν) : Task ν (List ν) :=
  match selectCandidate candidates p.criteria.index with
  | .ok found => Report.ok found.toList
  | .error _ => do
    let line ← shown p
    Task.log .debug "nested_index_out_of_range"
      [("pattern", .str line), ("candidate_count", .int candidates.length)]
    return []

/-- The event of a search below a node: the pattern, the depth of the node and the number of its
    children. -/
def announce (limit levels : Nat) (p : Pattern) (children : List ν) : Task ν Unit := do
  let line ← shown p
  Task.log .debug "element_search"
    [("pattern", .str line), ("depth", .int (limit - levels : Nat)),
      ("child_count", .int children.length)]

/-- The candidates of a pattern below a node. `levels` is the number of levels that may still
    be entered; the node itself stands `limit + 1 - levels` levels below the start. -/
def candidates (access : TreeAccess ν) (limit : Nat) : (levels : Nat) → Pattern → ν → Task ν (List ν)
  | 0, _, _ => do
    Task.log .error "tree_too_deep" [("max_depth", .int limit)]
    Task.refuse (.tooDeep limit)
  | levels + 1, p, node => do
    let children ← access.children node
    announce limit levels p children
    Report.collect (fun child => do
      let attributes ← access.attributes child
      let fits ← Report.ofExcept ((p.matchesNode attributes).mapError Failure.interrupted)
      let own ←
        if fits then
          match p.children with
          | [] => Report.ok [child]
          | inner => Report.collect (fun q => do
              let found ← candidates access limit levels q child
              selectInner q found) inner
        else Report.ok []
      let deeper ← candidates access limit levels p child
      return own ++ deeper) children

/-- All candidates of a pattern below a node, before its index is applied. -/
def search (access : TreeAccess ν) (limit : DepthLimit) (p : Pattern) (node : ν) : Task ν (List ν) :=
  candidates access limit.levels (limit.levels + 1) p node

/-- The node that a pattern selects below a node. -/
def resolvePattern (access : TreeAccess ν) (limit : DepthLimit) (p : Pattern) (node : ν) :
    Task ν (Option ν) := do
  let found ← search access limit p node
  Report.ofExcept ((selectCandidate found p.criteria.index).mapError Failure.error)

end TreeAccess

end ElementLocator
