import ElementLocator.Outline
import ElementLocator.Proofs.Contributions

/-! # Why walks fail

    A search and an outline walk the same tree in different ways: the one reads the children of
    a node and then the attributes of each, and starts again inside every match; the other
    reads both of a node at once. Still both end at the same node, the first in document order
    that offends (`Located.offends`): one whose read fails, or one below the depth limit.

    * `fault?_search` — the fault of a search is that of the first node that offends, whatever
      the pattern, unless the pattern interrupts the search before;
    * `fault?_text` — the fault of an outline is that of the same node, but a node below the
      limit is not read any more. -/

namespace ElementLocator

namespace Located

variable (failing : List Nat → Option Injected) (limit : Nat) (start d : Located)

/-- Whether a node ends a walk from a start: it stands just below the limit, or its read fails
    and it stands no deeper than that. -/
def offends : Bool :=
  start.depthBelow d == limit + 1 || (start.depthBelow d ≤ limit + 1 && (failing d.path).isSome)

/-- The failure of a search that ends at a node. -/
def searchFailure : Failure :=
  match failing d.path with
  | some i => i.failure
  | none => .error ⟨.tooDeep limit, []⟩

/-- The failure of an outline that ends at a node: below the limit nothing is read. -/
def outlineFailure : Failure :=
  if start.depthBelow d = limit + 1 then .error ⟨.tooDeep limit, []⟩
  else searchFailure failing limit d

variable {failing limit start}

/-- A walk that ends with the first node that offends, or goes on through all of them. -/
theorem find?_walk (P : Located → Bool) (n : Located) (hn : P n = false) :
    n.walk.find? P = n.children.findSome? fun c => c.walk.find? P := by
  rw [walk_eq_cons, List.find?_cons_of_neg (by rw [hn]; exact Bool.false_ne_true),
    below_eq_flatMap, List.find?_flatMap]

theorem find?_walk_self {P : Located → Bool} {n : Located} (hn : P n = true) :
    n.walk.find? P = some n := by
  rw [walk_eq_cons, List.find?_cons_of_pos hn]

theorem depthBelow_eq {n : Located} {k : Nat} (h : n.path.length = start.path.length + k) :
    start.depthBelow n = k := by
  simp only [depthBelow]
  omega

theorem depth_of_mem_children {n c : Located} {k : Nat} (hc : c ∈ n.children)
    (hn : n.path.length = start.path.length + k) : c.path.length = start.path.length + (k + 1) := by
  rw [path_length_of_mem_children hc]
  omega

theorem offends_of_depth_eq {n : Located} (h : n.path.length = start.path.length + (limit + 1)) :
    offends failing limit start n = true := by
  simp only [offends]
  rw [depthBelow_eq h, beq_self_eq_true, Bool.true_or]

theorem offends_of_failing {n : Located} {k : Nat} {i : Injected}
    (h : n.path.length = start.path.length + k) (hk : k ≤ limit + 1)
    (hf : failing n.path = some i) : offends failing limit start n = true := by
  simp only [offends]
  rw [depthBelow_eq h, hf, decide_eq_true hk]
  exact Bool.or_true _

theorem not_offends {n : Located} {k : Nat} (h : n.path.length = start.path.length + k)
    (hk : k ≤ limit) (hf : failing n.path = none) : offends failing limit start n = false := by
  simp only [offends]
  rw [depthBelow_eq h, hf, beq_eq_false_iff_ne.mpr (by omega)]
  exact Bool.and_false _

end Located

/-- Some node below a node shows these attributes. -/
def Located.Shows (n : Located) (a : NodeAttributes) : Prop := ∃ d ∈ n.below, d.tree.attributes.visible = a

theorem Located.Shows.of_child {n c : Located} (hc : c ∈ n.children) {a : NodeAttributes}
    (h : c.Shows a) : n.Shows a := by
  obtain ⟨d, hd, ha⟩ := h
  exact ⟨d, mem_below_of_mem_children hc (mem_walk_of_mem_below hd), ha⟩

theorem Located.shows_of_mem_children {n c : Located} (hc : c ∈ n.children) :
    n.Shows c.tree.attributes.visible :=
  ⟨c, mem_below_of_mem_children hc (mem_walk_self c), rfl⟩

namespace TreeAccess

variable {failing : List Nat → Option Injected} {limit : Nat} {start : Located}

/-- The fault that a walk with no regard to the pattern ends in. -/
def walkFault (failing : List Nat → Option Injected) (limit : Nat) (start n : Located) : Option Failure :=
  (n.walk.find? (Located.offends failing limit start)).map (Located.searchFailure failing limit)

theorem walkFault_eq_findSome? {n : Located} (hn : Located.offends failing limit start n = false) :
    walkFault failing limit start n = n.children.findSome? (walkFault failing limit start) := by
  simp only [walkFault]
  rw [Located.find?_walk _ n hn, List.map_findSome?]
  rfl

theorem walkFault_of_offends {n : Located} (hn : Located.offends failing limit start n = true) :
    walkFault failing limit start n = some (Located.searchFailure failing limit n) := by
  simp only [walkFault]
  rw [Located.find?_walk_self hn]
  rfl

/-- **THE STEP OF A SEARCH**: if searches one level further down fail as walks do, so does what
    a search does at a child. -/
theorem fault?_searchChild {levels k : Nat} {p : Pattern} {n c : Located} (hp : p.Compiled)
    (hc : c ∈ n.children)
    (hk : c.path.length = start.path.length + k) (hlimit : k ≤ limit + 1)
    (ih : failing c.path = none → ∀ q : Pattern, q.Compiled →
      ((Tree.access failing).candidates limit levels q c).fault? = walkFault failing limit start c ∨
        ∃ e, ((Tree.access failing).candidates limit levels q c).fault? = some e ∧ q.Interrupts c.Shows e) :
    (searchChild (Tree.access failing) limit levels p c).fault? = walkFault failing limit start c ∨
      ∃ e, (searchChild (Tree.access failing) limit levels p c).fault? = some e ∧ p.Interrupts n.Shows e := by
  cases hf : failing c.path with
  | some i =>
      refine Or.inl ?_
      simp only [searchChild]
      rw [walkFault_of_offends (Located.offends_of_failing hk hlimit hf), Located.searchFailure, hf]
      exact Report.fault?_bind_of_fault (by rw [Tree.fault?_attributes, hf]; rfl) _
  | none =>
      obtain ⟨a, ha⟩ : ∃ a, ((Tree.access failing).attributes c).outcome = .ok a :=
        Report.fault?_eq_none_iff.mp (by rw [Tree.fault?_attributes, hf]; rfl)
      have hvisible : a = c.tree.attributes.visible := Tree.attributes_eq_of_ok ha
      subst hvisible
      refine fault?_searchChild_or ha
        (fun e he => Pattern.interrupts_of_matchesNode hp (Located.shows_of_mem_children hc) he) ?_
      intro q hq
      rcases ih hf q (hp.of_mem hq) with h | ⟨e, h, he⟩
      · exact Or.inl h
      · exact Or.inr ⟨e, h, he.lift hq fun _ => Located.Shows.of_child hc⟩

/-- **THE RUN OF A SEARCH** fails as the walk of the tree does, whatever the pattern. The levels
    that may still be entered and the depth of the node always make up the limit and one; a node
    at the very bottom is searched only after its attributes could be read. -/
theorem fault?_candidates {levels k : Nat} {p : Pattern} {n : Located} (hp : p.Compiled)
    (hk : n.path.length = start.path.length + k) (hlevels : k + levels = limit + 1)
    (hread : levels = 0 → failing n.path = none) :
    ((Tree.access failing).candidates limit levels p n).fault? = walkFault failing limit start n ∨
      ∃ e, ((Tree.access failing).candidates limit levels p n).fault? = some e ∧ p.Interrupts n.Shows e := by
  induction levels generalizing k p n with
  | zero =>
      refine Or.inl ?_
      rw [fault?_candidates_zero, walkFault_of_offends (Located.offends_of_depth_eq (by omega)),
        Located.searchFailure, hread rfl]
  | succ levels ih =>
      cases hf : failing n.path with
      | some i =>
          refine Or.inl ?_
          rw [walkFault_of_offends (Located.offends_of_failing hk (by omega) hf),
            Located.searchFailure, hf, candidates_succ]
          exact Report.fault?_bind_of_fault (by rw [Tree.fault?_children, hf]; rfl) _
      | none =>
          obtain ⟨cs, hcs⟩ : ∃ cs, ((Tree.access failing).children n).outcome = .ok cs :=
            Report.fault?_eq_none_iff.mp (by rw [Tree.fault?_children, hf]; rfl)
          rw [walkFault_eq_findSome? (Located.not_offends hk (by omega) hf)]
          have hchildren : cs = n.children := Tree.children_eq_of_ok hcs
          subst hchildren
          refine fault?_candidates_or hcs (.tooLong (Pattern.mem_parts_self p)) ?_
          intro c hc
          have hck := Located.depth_of_mem_children hc hk
          refine fault?_searchChild hp hc hck (by omega) ?_
          intro hread q hq
          exact ih hq hck (by omega) fun _ => hread

/-- The fault of a search from its start. -/
theorem fault?_search {p : Pattern} (hp : p.Compiled) (failing : List Nat → Option Injected)
    (limit : DepthLimit) (n : Located) :
    ((Tree.access failing).search limit p n).fault? = walkFault failing limit.levels n n ∨
      ∃ e, ((Tree.access failing).search limit p n).fault? = some e ∧ p.Interrupts n.Shows e :=
  fault?_candidates hp (k := 0) rfl (by omega) (fun h => by omega)

end TreeAccess

-- ── outlines ──────────────────────────────────────────────────────────────

namespace Outline

theorem fault?_each_line {ν : Type} (lines : List String) :
    (Report.each (fun s => (Report.note (.line s) : Task ν Unit)) lines).fault? = none := by
  rw [Report.fault?_each]
  exact List.findSome?_eq_none_iff.mpr fun _ _ => rfl

theorem outcome_readNode {ν : Type} {access : TreeAccess ν} {depth : Nat} {node : ν}
    {a : NodeAttributes} {cs : List ν} (ha : (access.attributes node).outcome = .ok a)
    (hcs : (access.children node).outcome = .ok cs) :
    (readNode access depth node).outcome =
      .ok (placed depth (ownLines a (!cs.isEmpty)), cs) := by
  simp only [readNode]
  rw [Report.outcome_bind_of_ok ha, Report.outcome_bind_of_ok hcs]
  rfl

theorem fault?_text {ν : Type} (access : TreeAccess ν) (limit : DepthLimit) (node : ν) :
    (text access (.ok limit) node).fault? =
      (write access limit.levels (limit.levels + 1) 0 node).fault? := by
  have hroot : (ofRoot access (.ok limit) node).outcome =
      (write access limit.levels (limit.levels + 1) 0 node).outcome := by
    simp only [ofRoot]
    rw [Report.outcome_bind_of_ok (Report.outcome_ofExcept _)]
  simp only [text, Report.fault?]
  rw [hroot]
  cases (write access limit.levels (limit.levels + 1) 0 node).outcome <;> rfl

variable {failing : List Nat → Option Injected} {limit : Nat} {start : Located}

theorem outcome_readNode_of_located {n : Located} (depth : Nat) (hf : failing n.path = none) :
    (readNode (Tree.access failing) depth n).outcome =
      .ok (placed depth (ownLines n.tree.attributes.visible (!n.children.isEmpty)), n.children) := by
  obtain ⟨a, ha⟩ : ∃ a, ((Tree.access failing).attributes n).outcome = .ok a :=
    Report.fault?_eq_none_iff.mp (by rw [Tree.fault?_attributes, hf]; rfl)
  obtain ⟨cs, hcs⟩ : ∃ cs, ((Tree.access failing).children n).outcome = .ok cs :=
    Report.fault?_eq_none_iff.mp (by rw [Tree.fault?_children, hf]; rfl)
  rw [outcome_readNode ha hcs, Tree.attributes_eq_of_ok ha, Tree.children_eq_of_ok hcs]

/-- The fault that an outline ends in below a node. -/
def walkFault (failing : List Nat → Option Injected) (limit : Nat) (start n : Located) : Option Failure :=
  (n.walk.find? (Located.offends failing limit start)).map (Located.outlineFailure failing limit start)

/-- **THE RUN OF AN OUTLINE** fails at the first node that offends, like a search. -/
theorem fault?_write {levels k depth : Nat} {n : Located}
    (hk : n.path.length = start.path.length + k) (hlevels : k + levels = limit + 1) :
    (write (Tree.access failing) limit levels depth n).fault? = walkFault failing limit start n := by
  induction levels generalizing k depth n with
  | zero =>
      simp only [walkFault]
      rw [Located.find?_walk_self (Located.offends_of_depth_eq (by omega)), Option.map_some,
        Located.outlineFailure, if_pos (Located.depthBelow_eq (by omega))]
      rfl
  | succ levels ih =>
      cases hf : failing n.path with
      | some i =>
          have hdepth : start.depthBelow n ≠ limit + 1 := by
            rw [Located.depthBelow_eq hk]
            omega
          simp only [walkFault]
          rw [Located.find?_walk_self (Located.offends_of_failing hk (by omega) hf), Option.map_some,
            Located.outlineFailure, if_neg hdepth, Located.searchFailure, hf]
          refine Report.fault?_bind_of_fault (Report.fault?_bind_of_fault ?_ _) _
          rw [Tree.fault?_attributes, hf]
          rfl
      | none =>
          have hread := outcome_readNode_of_located depth hf
          obtain ⟨_, hlines⟩ := Report.fault?_eq_none_iff.mp (fault?_each_line (ν := Located)
            (placed depth (ownLines n.tree.attributes.visible (!n.children.isEmpty))))
          simp only [write]
          rw [Report.fault?_bind_of_ok hread, Report.fault?_bind_of_ok hlines, Report.fault?_each]
          simp only [walkFault]
          rw [Located.find?_walk _ n (Located.not_offends hk (by omega) hf), List.map_findSome?]
          refine findSome?_congr ?_
          intro c hc
          exact ih (Located.depth_of_mem_children hc hk) (by omega)

end Outline

end ElementLocator
