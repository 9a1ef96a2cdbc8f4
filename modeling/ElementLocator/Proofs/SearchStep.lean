import ElementLocator.Proofs.Acceptance
import ElementLocator.Proofs.Index
import ElementLocator.Proofs.Outcome

/-! # One step of a search

    A search looks at the children of a node one by one, and at each child does two things:
    what the child itself contributes (`ownCandidates`), and the same search below it. This is
    the shape in which the laws of searches are proved, by induction on the levels that may
    still be entered.

    * `candidates_succ` — a search announces itself and takes its steps at the children;
    * `Pattern.Interrupts` — the two ways in which a pattern can end its search, although every
      node can be read;
    * `fault?_searchChild_or`, `fault?_candidates_or` — a step fails as the reads and the searches
      below do, or in an interruption, whatever backend is read. -/

namespace ElementLocator

variable {ν : Type}

/-- How a pattern interrupts a search that meets nodes with certain attributes: the index of some
    pattern inside it is too long to be shown, or the match of one with some of these nodes has no
    answer. -/
inductive Pattern.Interrupts (p : Pattern) (met : NodeAttributes → Prop) : Failure → Prop
  | tooLong {q : Pattern} (hq : q ∈ p.parts) (h : q.hasLongIndex = true) :
      Interrupts p met (.interrupted .numberTooLong)
  | noAnswer {q : Pattern} {a : NodeAttributes} (hq : q ∈ p.parts) (ha : met a)
      (h : q.criteria.matches? a = .error .wrongSpan) :
      Interrupts p met (.interrupted (.regex .wrongSpan))

namespace Pattern

/-- A pattern inside another one, or the same one, interrupts no search that the other does not. -/
theorem Interrupts.lift {p q : Pattern} {near far : NodeAttributes → Prop} {e : Failure}
    (hq : q = p ∨ q ∈ p.children) (hmet : ∀ a, near a → far a) (h : q.Interrupts near e) :
    p.Interrupts far e := by
  have hparts : ∀ r ∈ q.parts, r ∈ p.parts := by
    intro r hr
    rcases hq with rfl | hq
    · exact hr
    · exact mem_parts_of_mem_children hq hr
  cases h with
  | tooLong hr h => exact .tooLong (hparts _ hr) h
  | noAnswer hr ha h => exact .noAnswer (hparts _ hr) (hmet _ ha) h

/-- An interruption is none of the library's own errors. -/
theorem Interrupts.ne_error {p : Pattern} {met : NodeAttributes → Prop} {e : Failure}
    (h : p.Interrupts met e) (g : LocatorError) : e ≠ .error g := by
  cases h <;> exact nofun

/-- The match of a pattern that compiles fails in no other way. -/
theorem interrupts_of_matchesNode {p : Pattern} (hp : p.Compiled) {met : NodeAttributes → Prop}
    {a : NodeAttributes} (ha : met a) {e : Failure}
    (h : (p.matchesNode a).mapError Failure.interrupted = .error e) : p.Interrupts met e := by
  rw [matchesNode] at h
  cases hm : p.criteria.matches? a with
  | ok b =>
      rw [hm] at h
      cases h
  | error f =>
      rw [hm] at h
      cases h
      have hspan := Criteria.eq_wrongSpan_of_matches? (hp p (mem_parts_self p)) hm
      rw [hspan] at hm ⊢
      exact .noAnswer (mem_parts_self p) ha hm

theorem Compiled.of_mem {p q : Pattern} (hp : p.Compiled) (hq : q = p ∨ q ∈ p.children) : q.Compiled := by
  rcases hq with rfl | hq
  · exact hp
  · exact fun r hr => hp r (mem_parts_of_mem_children hq hr)

end Pattern

namespace TreeAccess

/-- What a child contributes itself: the child, if the pattern has no inner patterns, or else
    what each inner pattern selects inside the child. -/
def ownCandidates (access : TreeAccess ν) (limit levels : Nat) (p : Pattern) (child : ν) :
    Bool → Task ν (List ν)
  | true =>
    match p.children with
    | [] => Report.ok [child]
    | inner => Report.collect (fun q => do
        let found ← candidates access limit levels q child
        selectInner q found) inner
  | false => Report.ok []

/-- What a search does at one child of a node. -/
def searchChild (access : TreeAccess ν) (limit levels : Nat) (p : Pattern) (child : ν) :
    Task ν (List ν) := do
  let attributes ← access.attributes child
  let fits ← Report.ofExcept ((p.matchesNode attributes).mapError Failure.interrupted)
  let own ← ownCandidates access limit levels p child fits
  let deeper ← candidates access limit levels p child
  return own ++ deeper

variable (access : TreeAccess ν) (limit levels : Nat) (p : Pattern) (node : ν)

theorem candidates_succ :
    candidates access limit (levels + 1) p node = (access.children node >>= fun children =>
      announce limit levels p children >>= fun _ =>
      Report.collect (searchChild access limit levels p) children) := by
  rw [candidates]
  congr 1
  funext children
  congr 1
  funext _
  congr 1
  funext child
  congr 1
  funext attributes
  congr 1
  funext fits
  cases fits with
  | false => rfl
  | true =>
      simp only [ownCandidates]
      cases p.children <;> rfl

-- ── announcements ─────────────────────────────────────────────────────────

section Announcements

variable {access limit levels p node} {children : List ν}

theorem outcome_announce (h : p.hasLongIndex = false) : (announce limit levels p children).outcome = .ok () := by
  simp only [announce]
  rw [shown_of_short h]
  rfl

theorem outcome_announce_of_long (h : p.hasLongIndex = true) :
    (announce limit levels p children).outcome = .error (.interrupted .numberTooLong) := by
  simp only [announce]
  rw [shown_of_long h]
  rfl

theorem short_of_announce {u : Unit} (h : (announce limit levels p children).outcome = .ok u) :
    p.hasLongIndex = false := by
  cases hp : p.hasLongIndex with
  | false => rfl
  | true => exact nomatch (outcome_announce_of_long hp).symm.trans h

/-- The pattern of a search that succeeds can be shown. -/
theorem short_of_candidates {found : List ν}
    (h : (candidates access limit levels p node).outcome = .ok found) : p.hasLongIndex = false := by
  cases levels with
  | zero => exact nomatch h
  | succ levels =>
      rw [candidates_succ] at h
      obtain ⟨children, -, h⟩ := Report.outcome_bind_eq_ok h
      obtain ⟨_, hannounced, -⟩ := Report.outcome_bind_eq_ok h
      exact short_of_announce hannounced

/-- A search for a pattern that cannot be shown ends at its start. -/
theorem outcome_candidates_of_long (hp : p.hasLongIndex = true)
    (h : (access.children node).outcome = .ok children) :
    (candidates access limit (levels + 1) p node).outcome = .error (.interrupted .numberTooLong) := by
  rw [candidates_succ, Report.outcome_bind_of_ok h]
  exact Report.outcome_bind_of_error (outcome_announce_of_long hp) _

end Announcements

/-- A selection inside a match does not fail, since the search before it has shown the pattern. -/
theorem fault?_bind_selectInner (q : Pattern) :
    (candidates access limit levels q node >>= selectInner q).fault? =
      (candidates access limit levels q node).fault? := by
  rw [Report.fault?_bind (g := none), Option.or_none]
  exact fun found h => Report.fault?_of_ok (outcome_selectInner (short_of_candidates h) found)

theorem ownCandidates_composite {q : Pattern} {rest : List Pattern} (child : ν)
    (h : p.children = q :: rest) :
    ownCandidates access limit levels p child true =
      Report.collect (fun q => candidates access limit levels q child >>= selectInner q)
        p.children := by
  simp only [ownCandidates]
  rw [h]

theorem fault?_candidates_zero :
    (candidates access limit 0 p node).fault? = some (.error ⟨.tooDeep limit, []⟩) := rfl

/-- Where the children can be read and the pattern can be shown, a search ends in the first fault
    met at one of them. -/
theorem fault?_candidates_succ {children : List ν} (hp : p.hasLongIndex = false)
    (h : (access.children node).outcome = .ok children) :
    (candidates access limit (levels + 1) p node).fault? =
      children.findSome? fun child => (searchChild access limit levels p child).fault? := by
  rw [candidates_succ, Report.fault?_bind_of_ok h, Report.fault?_bind_of_ok (outcome_announce hp),
    Report.fault?_collect]

-- ── faults at a child ─────────────────────────────────────────────────────

section Faults

variable {access limit levels p} {child : ν} {g : Option Failure} {I : Failure → Prop}

/-- Inside a child only the searches of inner patterns can fail. If each of them ends as expected
    or in an interruption, so does what the child contributes, unless it does not fail at all. -/
theorem fault?_ownCandidates_or (fits : Bool)
    (hinner : ∀ q ∈ p.children, (candidates access limit levels q child).fault? = g ∨
      ∃ e, (candidates access limit levels q child).fault? = some e ∧ I e) :
    ((ownCandidates access limit levels p child fits).fault? = none ∨
      (ownCandidates access limit levels p child fits).fault? = g) ∨
      ∃ e, (ownCandidates access limit levels p child fits).fault? = some e ∧ I e := by
  cases fits with
  | false => exact Or.inl (Or.inl rfl)
  | true =>
      cases hcs : p.children with
      | nil =>
          refine Or.inl (Or.inl ?_)
          simp only [ownCandidates]
          rw [hcs]
          rfl
      | cons q rest =>
          rw [ownCandidates_composite _ _ _ _ _ hcs, Report.fault?_collect]
          have hselected : ∀ q ∈ p.children,
              (candidates access limit levels q child >>= selectInner q).fault? = g ∨
                ∃ e, (candidates access limit levels q child >>= selectInner q).fault? = some e ∧ I e := by
            intro q hq
            rw [fault?_bind_selectInner]
            exact hinner q hq
          rcases findSome?_congr_or (g := fun _ => g) hselected with h | h
          · rw [h]
            exact Or.inl (findSome?_const_eq_or g p.children)
          · exact Or.inr h

/-- What a search does at a child that can be read: if the searches below the child, for the
    pattern and for each of its inner patterns, all end as expected or in an interruption, so does
    what the search does at the child. -/
theorem fault?_searchChild_or {a : NodeAttributes} (ha : (access.attributes child).outcome = .ok a)
    (hmatch : ∀ e, (p.matchesNode a).mapError Failure.interrupted = .error e → I e)
    (hbelow : ∀ q, q = p ∨ q ∈ p.children → (candidates access limit levels q child).fault? = g ∨
      ∃ e, (candidates access limit levels q child).fault? = some e ∧ I e) :
    (searchChild access limit levels p child).fault? = g ∨
      ∃ e, (searchChild access limit levels p child).fault? = some e ∧ I e := by
  simp only [searchChild]
  rw [Report.fault?_bind_of_ok ha]
  cases hfits : (p.matchesNode a).mapError Failure.interrupted with
  | error e =>
      refine Or.inr ⟨e, ?_, hmatch e hfits⟩
      exact Report.fault?_bind_of_fault (Report.fault?_eq_some_iff.mpr rfl) _
  | ok fits =>
      rw [Report.fault?_bind_of_ok (Report.outcome_ofExcept _)]
      rw [Report.fault?_bind (g := (candidates access limit levels p child).fault?)]
      · exact or_eq_or (fault?_ownCandidates_or fits fun q hq => hbelow q (Or.inr hq))
          (hbelow p (Or.inl rfl))
      · intro own _
        rw [Report.fault?_bind (g := none) fun _ _ => rfl, Option.or_none]

/-- **THE STEP OF A SEARCH** at a node whose children can be read: if what the search does at each
    of them ends as expected or in an interruption, so does the search. -/
theorem fault?_candidates_or {node : ν} {children : List ν} {fault : ν → Option Failure}
    (h : (access.children node).outcome = .ok children)
    (hlong : p.hasLongIndex = true → I (.interrupted .numberTooLong))
    (hstep : ∀ c ∈ children, (searchChild access limit levels p c).fault? = fault c ∨
      ∃ e, (searchChild access limit levels p c).fault? = some e ∧ I e) :
    (candidates access limit (levels + 1) p node).fault? = children.findSome? fault ∨
      ∃ e, (candidates access limit (levels + 1) p node).fault? = some e ∧ I e := by
  cases hp : p.hasLongIndex with
  | true =>
      refine Or.inr ⟨_, ?_, hlong hp⟩
      exact Report.fault?_eq_some_iff.mpr (outcome_candidates_of_long hp h)
  | false =>
      rw [fault?_candidates_succ access limit levels p node hp h]
      exact findSome?_congr_or hstep

end Faults

end TreeAccess

end ElementLocator
