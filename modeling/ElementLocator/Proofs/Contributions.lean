import ElementLocator.Proofs.Acceptance
import ElementLocator.Proofs.DocumentOrder
import ElementLocator.Proofs.SearchStep

/-! # What a search finds

    The search is one recursion over the tree and the pattern at once: it walks on inside a
    match, and inside each match it starts the searches of the inner patterns anew. What comes
    out is said here without any walk. Every node below the start makes a contribution of its
    own (`Pattern.contribution`), which looks at nothing but the node and what stands below it,
    and a search finds the contributions in document order (`eq_contributions_of_search`).

    * `Criteria.fits` — a node fits a pattern's own criteria: equal roles, and every constraint
      that is present holds;
    * `Pattern.contribution` — a node that does not fit gives nothing; one that fits gives
      itself, or what each inner pattern picks below it. -/

namespace ElementLocator

/-- Whether an attribute satisfies a constraint; a match without an answer does not count. -/
def satisfies (value : Option String) (expected : String) (t : MatchType) : Bool :=
  match matchesText value expected t with
  | .ok b => b
  | .error _ => false

/-- Whether a node fits a pattern's own criteria: the roles are equal, and every constraint that
    is present holds. -/
def Criteria.fits (c : Criteria) (a : NodeAttributes) : Bool :=
  a.role == some c.role && c.constraints.all fun k => satisfies (a.text k.1) k.2 c.matchType

namespace Pattern

mutual

/-- What a node below the start of a search contributes to its candidates. -/
def contribution : Pattern → Located → List Located
  | .node c cs, d =>
    if c.fits d.tree.attributes.visible then
      match cs with
      | [] => [d]
      | inner => selections inner d
    else []

/-- What inner patterns select below a node, each among the contributions to a search of its own;
    one that selects nothing is passed over. -/
def selections : List Pattern → Located → List Located
  | [], _ => []
  | q :: rest, d =>
    (pick (d.below.flatMap fun e => contribution q e) q.criteria.index).toList ++ selections rest d

end

end Pattern

-- ── matches ───────────────────────────────────────────────────────────────

/-- Constraints are all satisfied if the match says so. -/
theorem all_satisfies_of_matchesAll {a : NodeAttributes} {t : MatchType} {b : Bool}
    {ks : List (TextField × String)} (h : matchesAll a t ks = .ok b) :
    (ks.all fun k => satisfies (a.text k.1) k.2 t) = b := by
  induction ks with
  | nil => exact Except.ok.inj h
  | cons k rest ih =>
      obtain ⟨field, expected⟩ := k
      rw [matchesAll] at h
      rw [List.all_cons]
      simp only [satisfies]
      cases hm : matchesText (a.text field) expected t with
      | error f =>
          rw [hm] at h
          cases h
      | ok first =>
          rw [hm] at h
          cases first with
          | true =>
              rw [← ih h]
              rfl
          | false =>
              cases h
              rfl

/-- A match that is answered says whether the node fits. -/
theorem fits_of_matches? {c : Criteria} {a : NodeAttributes} {b : Bool} (h : c.matches? a = .ok b) :
    c.fits a = b := by
  rw [Criteria.matches?] at h
  simp only [Criteria.fits]
  split at h
  · rename_i hr
    rw [all_satisfies_of_matchesAll h, hr, beq_self_eq_true, Bool.true_and]
  · rename_i hr
    rw [beq_eq_false_iff_ne.mpr hr, Bool.false_and]
    exact Except.ok.inj h

namespace Pattern

theorem selections_eq_flatMap (d : Located) : ∀ qs : List Pattern,
    selections qs d =
      qs.flatMap fun q => (pick (d.below.flatMap q.contribution) q.criteria.index).toList
  | [] => rfl
  | q :: rest => by
      rw [selections, selections_eq_flatMap d rest, List.flatMap_cons]

theorem contribution_of_not_fits {p : Pattern} {d : Located}
    (h : p.criteria.fits d.tree.attributes.visible = false) : p.contribution d = [] := by
  cases p with
  | node c cs =>
      have hc : ¬ c.fits d.tree.attributes.visible = true := by
        rw [show c.fits d.tree.attributes.visible = false from h]
        exact Bool.false_ne_true
      cases cs with
      | nil => exact if_neg hc
      | cons q rest => exact if_neg hc

theorem contribution_of_fits {p : Pattern} {d : Located}
    (h : p.criteria.fits d.tree.attributes.visible = true) :
    p.contribution d = match p.children with
      | [] => [d]
      | inner => selections inner d := by
  cases p with
  | node c cs =>
      cases cs with
      | nil => exact if_pos h
      | cons q rest => exact if_pos h

mutual

/-- What a node contributes stands in its subtree. -/
theorem mem_walk_of_mem_contribution {d e : Located} :
    ∀ {p : Pattern}, e ∈ p.contribution d → e ∈ d.walk
  | .node c [], h => by
      rw [contribution] at h
      split at h
      · rw [List.mem_singleton.mp h]
        exact d.mem_walk_self
      · cases h
  | .node c (q :: rest), h => by
      rw [contribution] at h
      split at h
      · exact Located.mem_walk_of_mem_below (mem_below_of_mem_selections h)
      · cases h
      · intro hnil
        cases hnil

theorem mem_below_of_mem_selections {d e : Located} :
    ∀ {qs : List Pattern}, e ∈ selections qs d → e ∈ d.below
  | q :: rest, h => by
      rw [selections, List.mem_append] at h
      rcases h with h | h
      · obtain ⟨f, hf, he⟩ := List.mem_flatMap.mp (mem_of_pick (Option.mem_toList.mp h))
        exact Located.mem_below_of_mem_walk hf (mem_walk_of_mem_contribution he)
      · exact mem_below_of_mem_selections h

end

end Pattern

-- ── searches ──────────────────────────────────────────────────────────────

namespace TreeAccess

theorem matches?_of_matchesNode {p : Pattern} {a : NodeAttributes} {b : Bool}
    (h : (p.matchesNode a).mapError Failure.interrupted = .ok b) : p.criteria.matches? a = .ok b := by
  rw [Pattern.matchesNode] at h
  cases hm : p.criteria.matches? a with
  | ok b' =>
      rw [hm] at h
      rw [Except.ok.inj h]
  | error f =>
      rw [hm] at h
      cases h

variable {failing : List Nat → Option Injected} {limit levels : Nat}

/-- What a child gives itself, if the searches of inner patterns inside it find the contributions
    there. -/
theorem eq_contribution_of_ownCandidates {p : Pattern} {c : Located} {own : List Located}
    (ih : ∀ {q : Pattern} {found : List Located},
      ((Tree.access failing).candidates limit levels q c).outcome = .ok found →
      found = c.below.flatMap q.contribution)
    (h : (ownCandidates (Tree.access failing) limit levels p c
      (p.criteria.fits c.tree.attributes.visible)).outcome = .ok own) :
    own = p.contribution c := by
  cases hf : p.criteria.fits c.tree.attributes.visible with
  | false =>
      rw [hf] at h
      rw [Pattern.contribution_of_not_fits hf]
      exact (Except.ok.inj h).symm
  | true =>
      rw [hf] at h
      rw [Pattern.contribution_of_fits hf]
      cases hc : p.children with
      | nil =>
          simp only [ownCandidates] at h
          rw [hc] at h
          exact (Except.ok.inj h).symm
      | cons q rest =>
          rw [ownCandidates_composite _ _ _ _ _ hc, hc] at h
          dsimp only
          rw [Pattern.selections_eq_flatMap]
          refine Report.outcome_collect_eq_ok h ?_
          intro q _ r hr
          obtain ⟨found, hfound, hr⟩ := Report.outcome_bind_eq_ok hr
          rw [outcome_selectInner (short_of_candidates hfound)] at hr
          rw [← ih hfound]
          exact (Except.ok.inj hr).symm

/-- **A SEARCH THAT SUCCEEDS FINDS THE CONTRIBUTIONS** of all nodes below its start, in document
    order. The induction is on the levels that may still be entered: inner searches start one
    level further down, like the outer one. -/
theorem eq_contributions_of_candidates {p : Pattern} {n : Located} {found : List Located}
    (h : ((Tree.access failing).candidates limit levels p n).outcome = .ok found) :
    found = n.below.flatMap p.contribution := by
  induction levels generalizing p n found with
  | zero => exact nomatch h
  | succ levels ih =>
      rw [candidates_succ] at h
      obtain ⟨children, hchildren, h⟩ := Report.outcome_bind_eq_ok h
      obtain ⟨_, -, h⟩ := Report.outcome_bind_eq_ok h
      rw [Tree.children_eq_of_ok hchildren] at h
      rw [Located.below_eq_flatMap, List.flatMap_assoc]
      refine Report.outcome_collect_eq_ok h ?_
      intro c _ r hr
      obtain ⟨a, ha, hr⟩ := Report.outcome_bind_eq_ok hr
      obtain ⟨fits, hfits, hr⟩ := Report.outcome_bind_eq_ok hr
      obtain ⟨own, hown, hr⟩ := Report.outcome_bind_eq_ok hr
      obtain ⟨deeper, hdeeper, hr⟩ := Report.outcome_bind_eq_ok hr
      rw [Tree.attributes_eq_of_ok ha] at hfits
      rw [← fits_of_matches? (matches?_of_matchesNode hfits)] at hown
      rw [Located.walk_eq_cons, List.flatMap_cons, ← eq_contribution_of_ownCandidates ih hown,
        ← ih hdeeper]
      exact (Except.ok.inj hr).symm

end TreeAccess

end ElementLocator
