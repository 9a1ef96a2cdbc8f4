import ElementLocator.Proofs.CheckAnswers
import Mathlib.Data.List.Forall2

/-! # Backends that agree

    Two backends may have handles of different kinds and still answer alike: a relation between
    their handles under which the attributes are the same and the children are related in order
    (`TreeAccess.Simulates`). Searches, resolutions and checks cannot tell such backends apart:
    they answer related nodes, or fail with the same failure.

    * `Alike` — two outcomes: related answers or the same failure;
    * `alike_candidates` — searches from related handles end alike, by induction on the levels
      that may still be entered;
    * `alike_resolvePattern`, `outcome_checkElements_eq` — so do resolutions and checks, and a
      check has the same results. -/

namespace ElementLocator

/-- Two outcomes that are related answers or the same failure. -/
def Alike {ε α β : Type} (R : α → β → Prop) : Except ε α → Except ε β → Prop
  | .ok a, .ok b => R a b
  | .error e, .error f => e = f
  | _, _ => False

namespace Alike

variable {ε α β : Type} {R : α → β → Prop}

/-- Outcomes that are alike are both answers or both failures. -/
theorem cases {x : Except ε α} {y : Except ε β} (h : Alike R x y) :
    (∃ a b, x = .ok a ∧ y = .ok b ∧ R a b) ∨ ∃ e, x = .error e ∧ y = .error e := by
  cases x with
  | ok a =>
      cases y with
      | ok b => exact Or.inl ⟨a, b, rfl, rfl, h⟩
      | error f => exact h.elim
  | error e =>
      cases y with
      | ok b => exact h.elim
      | error f =>
          have hf : e = f := h
          exact Or.inr ⟨e, rfl, by rw [hf]⟩

theorem refl (x : Except ε α) : Alike Eq x x := by
  cases x with
  | ok a => exact rfl
  | error e => exact rfl

theorem mono {Q : α → β → Prop} (hRQ : ∀ a b, R a b → Q a b) {x : Except ε α} {y : Except ε β}
    (h : Alike R x y) : Alike Q x y := by
  rcases h.cases with ⟨a, b, rfl, rfl, hab⟩ | ⟨e, rfl, rfl⟩
  · exact hRQ a b hab
  · exact rfl

theorem mapError {φ : Type} (f : ε → φ) {x : Except ε α} {y : Except ε β} (h : Alike R x y) :
    Alike R (x.mapError f) (y.mapError f) := by
  rcases h.cases with ⟨a, b, rfl, rfl, hab⟩ | ⟨e, rfl, rfl⟩
  · exact hab
  · exact rfl

variable {τ σ γ δ : Type} {Q : γ → δ → Prop}

/-- **ONE TASK AFTER THE OTHER**, on both sides. -/
theorem bind {x : Report τ ε α} {y : Report σ ε β} {f : α → Report τ ε γ} {g : β → Report σ ε δ}
    (h : Alike R x.outcome y.outcome) (hfg : ∀ a b, R a b → Alike Q (f a).outcome (g b).outcome) :
    Alike Q (x >>= f).outcome (y >>= g).outcome := by
  rw [Report.outcome_bind, Report.outcome_bind]
  rcases h.cases with ⟨a, b, ha, hb, hab⟩ | ⟨e, hx, hy⟩
  · rw [ha, hb]
    exact hfg a b hab
  · rw [hx, hy]
    exact rfl

/-- A task for every item, on both sides. -/
theorem collect {S : α → β → Prop} {as : List α} {bs : List β} {f : α → Report τ ε (List γ)}
    {g : β → Report σ ε (List δ)} (h : List.Forall₂ S as bs)
    (hfg : ∀ a b, S a b → Alike (List.Forall₂ Q) (f a).outcome (g b).outcome) :
    Alike (List.Forall₂ Q) (Report.collect f as).outcome (Report.collect g bs).outcome := by
  induction h with
  | nil => exact List.Forall₂.nil
  | @cons a b as bs hab _ ih =>
      rw [Report.collect_cons, Report.collect_cons]
      refine (hfg a b hab).bind fun first first' hfirst => ih.bind fun others others' hothers => ?_
      exact List.rel_append hfirst hothers

end Alike

/-- **BACKENDS THAT AGREE**: related handles have the same attributes, and related children in
    order; or their reads fail alike. -/
structure TreeAccess.Simulates {ν μ : Type} (A : TreeAccess ν) (B : TreeAccess μ)
    (S : ν → μ → Prop) : Prop where
  attributes {a : ν} {b : μ} : S a b → Alike Eq (A.attributes a).outcome (B.attributes b).outcome
  children {a : ν} {b : μ} : S a b → Alike (List.Forall₂ S) (A.children a).outcome (B.children b).outcome

namespace TreeAccess

variable {ν μ : Type} {A : TreeAccess ν} {B : TreeAccess μ} {S : ν → μ → Prop}

-- ── selections ────────────────────────────────────────────────────────────

theorem rel_getElem? {as : List ν} {bs : List μ} (h : List.Forall₂ S as bs) (i : Nat) :
    Option.Rel S as[i]? bs[i]? := by
  induction h generalizing i with
  | nil => exact .none
  | cons hab _ ih =>
      cases i with
      | zero => exact .some hab
      | succ i => exact ih i

theorem rel_pick {as : List ν} {bs : List μ} (h : List.Forall₂ S as bs) (index : Option Int) :
    Option.Rel S (pick as index) (pick bs index) := by
  cases index with
  | none =>
      cases h with
      | nil => exact .none
      | cons hab _ => exact .some hab
  | some i =>
      cases i with
      | ofNat i => exact rel_getElem? h i
      | negSucc i => exact rel_getElem? (List.rel_reverse h) i

/-- The same index selects related candidates, or is out of range on both sides. -/
theorem alike_selectCandidate {as : List ν} {bs : List μ} (h : List.Forall₂ S as bs)
    (index : Option Int) : Alike (Option.Rel S) (selectCandidate as index) (selectCandidate bs index) := by
  have hpick := rel_pick h index
  cases index with
  | none => exact hpick
  | some i =>
      rw [selectCandidate_eq_pick, selectCandidate_eq_pick, h.length_eq]
      cases ha : pick as (some i) with
      | none =>
          rw [ha] at hpick
          cases hb : pick bs (some i) with
          | none => exact rfl
          | some b =>
              rw [hb] at hpick
              exact nomatch hpick
      | some a =>
          rw [ha] at hpick
          cases hb : pick bs (some i) with
          | none =>
              rw [hb] at hpick
              exact nomatch hpick
          | some b =>
              rw [hb] at hpick
              exact hpick

theorem alike_shown (q : Pattern) :
    Alike Eq (shown q : Task ν String).outcome (shown q : Task μ String).outcome :=
  Alike.refl (q.described.mapError Failure.interrupted)

theorem alike_selectInner (q : Pattern) {as : List ν} {bs : List μ} (h : List.Forall₂ S as bs) :
    Alike (List.Forall₂ S) (selectInner q as).outcome (selectInner q bs).outcome := by
  simp only [selectInner]
  rcases (alike_selectCandidate h q.criteria.index).cases with ⟨x, y, hx, hy, hxy⟩ | ⟨e, hx, hy⟩
  · rw [hx, hy]
    cases hxy with
    | none => exact List.Forall₂.nil
    | some hab => exact List.Forall₂.cons hab List.Forall₂.nil
  · rw [hx, hy]
    refine (alike_shown q).bind fun _ _ _ => ?_
    exact List.Forall₂.nil

-- ── searches ──────────────────────────────────────────────────────────────

section Search

variable (h : Simulates A B S) {limit levels : Nat} {p : Pattern} {a : ν} {b : μ}
  (ih : ∀ {q : Pattern} {a : ν} {b : μ}, S a b →
    Alike (List.Forall₂ S) (candidates A limit levels q a).outcome (candidates B limit levels q b).outcome)

include ih

theorem alike_ownCandidates (hab : S a b) (fits : Bool) :
    Alike (List.Forall₂ S) (ownCandidates A limit levels p a fits).outcome
      (ownCandidates B limit levels p b fits).outcome := by
  cases fits with
  | false => exact List.Forall₂.nil
  | true =>
      cases hinner : p.children with
      | nil =>
          simp only [ownCandidates]
          rw [hinner]
          exact List.Forall₂.cons hab List.Forall₂.nil
      | cons q rest =>
          rw [ownCandidates_composite A limit levels p a hinner,
            ownCandidates_composite B limit levels p b hinner]
          refine Alike.collect (List.forall₂_same.mpr fun _ _ => rfl) fun r r' hr => ?_
          subst hr
          exact (ih hab).bind fun _ _ => alike_selectInner r

include h

/-- **THE STEP OF A SEARCH** at related children, if searches below them end alike. -/
theorem alike_searchChild (hab : S a b) :
    Alike (List.Forall₂ S) (searchChild A limit levels p a).outcome
      (searchChild B limit levels p b).outcome := by
  refine (h.attributes hab).bind ?_
  intro r r' hr
  subst hr
  refine Alike.bind (R := Eq) (Alike.refl _) ?_
  intro fits fits' hfits
  subst hfits
  refine (alike_ownCandidates ih hab fits).bind ?_
  intro own own' hown
  refine (ih hab).bind ?_
  intro deeper deeper' hdeeper
  exact List.rel_append hown hdeeper

end Search

/-- **SEARCHES THROUGH BACKENDS THAT AGREE** end alike from related handles. The induction is on
    the levels that may still be entered, which both searches count alike. -/
theorem alike_candidates (h : Simulates A B S) (limit : Nat) {levels : Nat} {p : Pattern} {a : ν} {b : μ}
    (hab : S a b) :
    Alike (List.Forall₂ S) (candidates A limit levels p a).outcome (candidates B limit levels p b).outcome := by
  induction levels generalizing p a b with
  | zero => exact rfl
  | succ levels ih =>
      rw [candidates_succ, candidates_succ]
      refine (h.children hab).bind ?_
      intro as bs hchildren
      have hannounced : Alike Eq (announce limit levels p as).outcome (announce limit levels p bs).outcome :=
        (alike_shown p).bind fun _ _ _ => rfl
      refine hannounced.bind ?_
      intro _ _ _
      exact Alike.collect hchildren fun a b hab => alike_searchChild h ih hab

theorem alike_search (h : Simulates A B S) (limit : DepthLimit) (p : Pattern) {a : ν} {b : μ} (hab : S a b) :
    Alike (List.Forall₂ S) (A.search limit p a).outcome (B.search limit p b).outcome :=
  alike_candidates h limit.levels hab

/-- **RESOLUTIONS THROUGH BACKENDS THAT AGREE** end alike from related handles. -/
theorem alike_resolvePattern (h : Simulates A B S) (limit : DepthLimit) (p : Pattern) {a : ν} {b : μ}
    (hab : S a b) :
    Alike (Option.Rel S) (A.resolvePattern limit p a).outcome (B.resolvePattern limit p b).outcome :=
  (alike_search h limit p hab).bind fun _ _ hfound =>
    (alike_selectCandidate hfound p.criteria.index).mapError Failure.error

-- ── checks ────────────────────────────────────────────────────────────────

theorem outcome_requirePattern (config : Config) (app element : String) :
    (config.requirePattern app element : Task ν Pattern).outcome =
      (config.requirePattern app element : Task μ Pattern).outcome := by
  simp only [Config.requirePattern]
  cases config.app? app with
  | none => rfl
  | some c =>
      dsimp only
      cases c.pattern? element <;> rfl

theorem alike_resolve (h : Simulates A B S) (limit : DepthLimit) (config : Config)
    (app element : String) {a : ν} {b : μ} (hab : S a b) :
    Alike (Option.Rel S) (A.resolve limit config app element a).outcome
      (B.resolve limit config app element b).outcome := by
  simp only [resolve]
  rw [outcome_reported, outcome_reported]
  refine Alike.bind (R := Eq) ?_ fun p p' hp => ?_
  · rw [outcome_requirePattern (μ := μ)]
    exact Alike.refl _
  · subst hp
    exact alike_resolvePattern h limit p hab

theorem verdict_eq {path : String} {x : Except Failure (Option ν)} {y : Except Failure (Option μ)}
    (h : Alike (Option.Rel S) x y) : verdict path x = verdict path y := by
  rcases h.cases with ⟨found, found', rfl, rfl, hfound⟩ | ⟨f, rfl, rfl⟩
  · cases hfound with
    | none => rfl
    | some _ => rfl
  · cases f <;> rfl

theorem outcome_checkEach_eq (h : Simulates A B S) (limit : DepthLimit) (config : Config)
    (app : String) {a : ν} {b : μ} (hab : S a b) (names : List String) :
    (A.checkEach limit config app a names).outcome = (B.checkEach limit config app b names).outcome := by
  induction names with
  | nil => rfl
  | cons element rest ih =>
      simp only [checkEach]
      rw [Report.outcome_bind, Report.outcome_bind, outcome_checkElement, outcome_checkElement,
        verdict_eq (alike_resolve h limit config app element hab)]
      congr 1
      funext first
      rw [Report.outcome_bind, Report.outcome_bind, ih]
      rfl

/-- **CHECKS THROUGH BACKENDS THAT AGREE** have the same results, or fail alike. -/
theorem outcome_checkElements_eq (h : Simulates A B S) (limit : DepthLimit) (config : Config)
    (app : String) {a : ν} {b : μ} (hab : S a b) (names : Option (List String)) :
    (A.checkElements limit config app a names).outcome =
      (B.checkElements limit config app b names).outcome := by
  rw [outcome_checkElements, outcome_checkElements]
  congr 1
  funext names
  exact outcome_checkEach_eq h limit config app hab names

end TreeAccess

end ElementLocator
