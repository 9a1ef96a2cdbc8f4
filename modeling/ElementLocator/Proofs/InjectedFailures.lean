import ElementLocator.Proofs.CheckReports
import ElementLocator.Proofs.LiveNodes
import Mathlib.Data.List.Induction

/-! # Failures on trees that change

    Failures are put on nodes while the tree is changed, in any order. Whether a read fails is told by
    what was done before alone, and by what concerns the node itself.

    * `node?_apply` — the content of a node after a change;
    * `failure?_run` — the failure of a node is the latest one that was not cleared;
    * `Apart.run` — a failure on one node is not noticed at any other;
    * `reads_follow` — what reads give after any changes. -/

namespace ElementLocator

/-- The attributes after one of them was set by its name. -/
def NodeAttributes.assigned (a : NodeAttributes) (name : String) (v : Option String) : NodeAttributes where
  role := if name = "role" then v else a.role
  identifier := if name = "identifier" then v else a.identifier
  className := if name = "class_name" then v else a.className
  label := if name = "label" then v else a.label

/-- A failure for a status other than success is an access error that tells the status and the code. -/
theorem Injected.failure_eq_error {i : Injected} (h : i.1 ≠ .success) :
    ∃ e, i.failure = .error e ∧ "AccessibilityError" ∈ e.cause.kind.typeNames ∧
      e.code = some i.1.errorCode ∧ e.context = [("status", .str i.1.spelling), ("raw_code", i.2)] := by
  obtain ⟨e, he, htype, hcode, hattributes, hdetails⟩ := LocatorError.exists_ofStatus? h i.2 []
  refine ⟨e, ?_, htype, hcode, ?_⟩
  · rw [Injected.failure, he]
  · rw [LocatorError.context, hattributes, hdetails]
    rfl

namespace LiveTree

-- ── changes ───────────────────────────────────────────────────────────────

/-- What can be done to a tree between reads. -/
inductive Edit
  /-- A failure is put on a node. -/
  | failOn (number : Nat) (i : Injected)
  | clearFailures
  /-- An attribute is set by its name. -/
  | assign (number : Nat) (name : String) (v : Option String)
  /-- Nodes are made that stand nowhere in the tree yet. -/
  | create (child : Tree)
  /-- A new tree becomes the last child of a node. -/
  | append (number : Nat) (child : Tree)
  /-- A node that exists becomes the last child of a node. -/
  | attach (number child : Nat)
  | removeChild (number position : Nat)
  | removeChildren (number : Nat)

/-- The tree after a change; it stays as it is if the attribute is unknown. -/
def Edit.apply (t : LiveTree) : Edit → LiveTree
  | .failOn number i => t.failOn number i
  | .clearFailures => t.clearFailures
  | .assign number name v => (t.setAttribute number name v).toOption.getD t
  | .create child => (t.plant child).2
  | .append number child => t.append number child
  | .attach number child => t.update number fun n => { n with children := n.children ++ [child] }
  | .removeChild number position => t.removeChild number position
  | .removeChildren number => t.removeChildren number

/-- The tree after several changes. -/
def run (t : LiveTree) (edits : List Edit) : LiveTree := edits.foldl Edit.apply t

theorem run_append (t : LiveTree) (edits more : List Edit) : t.run (edits ++ more) = (t.run edits).run more :=
  List.foldl_append

theorem run_concat (t : LiveTree) (edits : List Edit) (e : Edit) :
    t.run (edits ++ [e]) = e.apply (t.run edits) := run_append t edits [e]

-- ── contents ──────────────────────────────────────────────────────────────

/-- What a change makes of a node that exists. -/
def Edit.changed (t : LiveTree) (x : Nat) (n : LiveNode) : Edit → LiveNode
  | .assign number name v =>
    if number = x then { n with attributes := n.attributes.assigned name v } else n
  | .append number child =>
    if number = x then { n with children := n.children ++ [(t.plant child).1] } else n
  | .attach number child => if number = x then { n with children := n.children ++ [child] } else n
  | .removeChild number position =>
    if number = x then { n with children := n.children.eraseIdx position } else n
  | .removeChildren number => if number = x then { n with children := [] } else n
  | .failOn _ _ | .clearFailures | .create _ => n

theorem update_eq_self (t : LiveTree) (number : Nat) {f : LiveNode → LiveNode} (h : ∀ n, f n = n) :
    t.update number f = t := by
  have hnodes : t.nodes.map (fun e => if e.1 == number then (e.1, f e.2) else e) = t.nodes := by
    refine (List.map_congr_left fun e _ => ?_).trans (List.map_id' t.nodes)
    rw [h]
    exact ite_self e
  rw [update, hnodes]

/-- Setting an attribute changes the node in no other way; an unknown name changes nothing. -/
theorem apply_assign (t : LiveTree) (number : Nat) (name : String) (v : Option String) :
    Edit.apply t (.assign number name v) =
      t.update number fun n => { n with attributes := n.attributes.assigned name v } := by
  show (t.setAttribute number name v).toOption.getD t = _
  unfold setAttribute
  split
  · rfl
  · rfl
  · rfl
  · rfl
  · rename_i hrole hidentifier hclass hlabel
    rw [update_eq_self]
    · dsimp only
      split <;> rfl
    · intro n
      rw [NodeAttributes.assigned, if_neg hrole, if_neg hidentifier, if_neg hclass, if_neg hlabel]

/-- **THE CONTENT OF A NODE** after a change. -/
theorem node?_apply (t : LiveTree) (e : Edit) {x : Nat} (hx : x < t.unused) :
    (e.apply t).node? x = (t.node? x).map (e.changed t x) := by
  cases e with
  | failOn number i => exact Option.map_id'.symm
  | clearFailures => exact Option.map_id'.symm
  | create child => exact ((fills_plant child t).2 x hx).trans Option.map_id'.symm
  | assign number name v =>
      rw [apply_assign]
      exact node?_update t number _ x
  | append number child =>
      rw [← (fills_plant child t).2 x hx]
      exact node?_update (t.plant child).2 number _ x
  | attach number child => exact node?_update t number _ x
  | removeChild number position => exact node?_update t number _ x
  | removeChildren number => exact node?_update t number _ x

/-- Nodes that exist do not cease to. -/
theorem unused_le_apply (t : LiveTree) (e : Edit) : t.unused ≤ (e.apply t).unused := by
  have hplant (child : Tree) : t.unused ≤ (t.plant child).2.unused := by
    have hbounds := (fills_plant child t).1.bounds
    omega
  cases e with
  | create child => exact hplant child
  | append number child => exact hplant child
  | assign number name v =>
      rw [apply_assign]
      exact Nat.le_refl _
  | _ => exact Nat.le_refl _

-- ── failures ──────────────────────────────────────────────────────────────

/-- The failure of a node after a change. -/
def Edit.failureAfter (x : Nat) (before : Option Injected) : Edit → Option Injected
  | .failOn number i => if number = x then some i else before
  | .clearFailures => none
  | _ => before

theorem failure?_apply (t : LiveTree) (e : Edit) (x : Nat) :
    (e.apply t).failure? x = e.failureAfter x (t.failure? x) := by
  have hfailures {u : LiveTree} (h : u.failures = t.failures) : u.failure? x = t.failure? x := by
    rw [failure?, failure?, h]
  cases e with
  | failOn number i =>
      rw [failure?, Edit.apply, failOn, List.find?_cons, Edit.failureAfter]
      by_cases h : number = x
      · rw [if_pos h, beq_iff_eq.mpr h]
        rfl
      · rw [if_neg h, beq_eq_false_iff_ne.mpr h]
        rfl
  | clearFailures => rfl
  | create child => exact hfailures (failures_plant t child)
  | append number child => exact hfailures (failures_plant t child)
  | assign number name v =>
      rw [apply_assign]
      rfl
  | _ => rfl

/-- The failure that was put on a node last, after failures were last cleared. -/
def Injects (edits : List Edit) (x : Nat) (i : Injected) : Prop :=
  ∃ before after, edits = before ++ .failOn x i :: after ∧ .clearFailures ∉ after ∧ ∀ j, .failOn x j ∉ after

theorem not_injects_nil (x : Nat) (i : Injected) : ¬ Injects [] x i := by
  rintro ⟨before, after, h, -⟩
  cases before <;> exact nomatch h

theorem injects_concat_iff {edits : List Edit} {e : Edit} {x : Nat} {i : Injected} :
    Injects (edits ++ [e]) x i ↔
      e = .failOn x i ∨ (Injects edits x i ∧ e ≠ .clearFailures ∧ ∀ j, e ≠ .failOn x j) := by
  constructor
  · rintro ⟨before, after, h, hclear, hfail⟩
    rcases List.eq_nil_or_concat after with rfl | ⟨after, last, rfl⟩
    · exact Or.inl (List.cons.inj (List.append_inj' h rfl).2).1
    · rw [List.concat_eq_append, ← List.cons_append, ← List.append_assoc] at h
      obtain ⟨hedits, hlast⟩ := List.append_inj' h rfl
      cases hlast
      rw [List.concat_eq_append] at hclear hfail
      refine Or.inr ⟨⟨before, after, hedits, fun hmem => hclear ?_, fun j hmem => hfail j ?_⟩, ?_, ?_⟩
      · exact List.mem_append_left _ hmem
      · exact List.mem_append_left _ hmem
      · rintro rfl
        exact hclear (List.mem_append_right _ List.mem_cons_self)
      · rintro j rfl
        exact hfail j (List.mem_append_right _ List.mem_cons_self)
  · rintro (rfl | ⟨⟨before, after, rfl, hclear, hfail⟩, hne, hother⟩)
    · exact ⟨edits, [], rfl, List.not_mem_nil, fun _ => List.not_mem_nil⟩
    · refine ⟨before, after ++ [e], by rw [List.append_assoc]; rfl, ?_, fun j => ?_⟩
      · rw [List.mem_append, List.mem_singleton]
        rintro (hmem | hmem)
        · exact hclear hmem
        · exact hne hmem.symm
      · rw [List.mem_append, List.mem_singleton]
        rintro (hmem | hmem)
        · exact hfail j hmem
        · exact hother j hmem.symm

/-- **THE FAILURE OF A NODE** after a run of changes. The induction is on the changes, the last one first. -/
theorem failure?_run {t : LiveTree} (ht : t.failures = []) (edits : List Edit) (x : Nat) (i : Injected) :
    (t.run edits).failure? x = some i ↔ Injects edits x i := by
  induction edits using List.reverseRecOn with
  | nil =>
      have hnone : (t.run []).failure? x = none := by
        rw [run, List.foldl_nil, failure?, ht]
        rfl
      rw [hnone]
      exact ⟨fun h => (nomatch h), fun h => absurd h (not_injects_nil x i)⟩
  | append_singleton edits e ih =>
      rw [run_concat, failure?_apply, injects_concat_iff, ← ih]
      cases e with
      | failOn number j =>
          rw [Edit.failureAfter]
          by_cases h : number = x
          · subst h
            simp
          · simp [h]
      | clearFailures => simp [Edit.failureAfter]
      | _ => simp [Edit.failureAfter]

-- ── other nodes ───────────────────────────────────────────────────────────

/-- Trees that differ in the failure of one node alone. -/
def Apart (y : Nat) (t u : LiveTree) : Prop :=
  (∃ failures, u = t.withFailures failures) ∧ ∀ x, x ≠ y → u.failure? x = t.failure? x

/-- Failures do not matter to other changes. -/
theorem apply_withFailures (t : LiveTree) (failures : List (Nat × Injected)) (e : Edit) :
    ∃ failures', e.apply (t.withFailures failures) = (e.apply t).withFailures failures' := by
  cases e with
  | failOn number i => exact ⟨(number, i) :: failures, rfl⟩
  | clearFailures => exact ⟨[], rfl⟩
  | assign number name v =>
      refine ⟨failures, ?_⟩
      rw [apply_assign, apply_assign]
      rfl
  | create child =>
      refine ⟨failures, ?_⟩
      rw [Edit.apply, plant_withFailures]
      rfl
  | append number child =>
      refine ⟨failures, ?_⟩
      rw [Edit.apply, append, plant_withFailures]
      rfl
  | _ => exact ⟨failures, rfl⟩

theorem Apart.apply {y : Nat} {t u : LiveTree} (h : Apart y t u) (e : Edit) :
    Apart y (e.apply t) (e.apply u) := by
  obtain ⟨⟨failures, rfl⟩, hsame⟩ := h
  refine ⟨apply_withFailures t failures e, fun x hx => ?_⟩
  rw [failure?_apply, failure?_apply, hsame x hx]

theorem Apart.run {y : Nat} {t u : LiveTree} (h : Apart y t u) (edits : List Edit) :
    Apart y (t.run edits) (u.run edits) := by
  induction edits generalizing t u with
  | nil => exact h
  | cons e rest ih => exact ih (h.apply e)

theorem apart_failOn (t : LiveTree) (y : Nat) (i : Injected) : Apart y t (t.failOn y i) := by
  refine ⟨⟨(y, i) :: t.failures, rfl⟩, fun x hx => ?_⟩
  exact (failure?_apply t (.failOn y i) x).trans (if_neg (Ne.symm hx))

-- ── reads ─────────────────────────────────────────────────────────────────

/-- The reads of a node: of its attributes, and of its children. -/
def reads (t : LiveTree) (x : Nat) : Task Handle NodeAttributes × Task Handle (List Handle) :=
  (t.access.attributes (.node x), t.access.children (.node x))

/-- The reads of the node in a place. -/
def readsAt (t : LiveTree) (root : Nat) (place : List Nat) :
    Option (Task Handle NodeAttributes × Task Handle (List Handle)) := (t.at? root place).map t.reads

theorem reads_of_failure {t : LiveTree} {x : Nat} {i : Injected} (h : t.failure? x = some i) :
    t.reads x = (Report.fail i.failure, Report.fail i.failure) := by
  simp only [reads, access, readable, h]
  rfl

theorem reads_of_no_failure {t : LiveTree} {x : Nat} (h : t.failure? x = none) :
    t.reads x = (Report.ok (t.attributesOf x).visible, Report.ok ((t.childrenOf x).map .node)) := by
  simp only [reads, access, readable, h]
  rfl

theorem Apart.reads {y : Nat} {t u : LiveTree} (h : Apart y t u) {x : Nat} (hx : x ≠ y) :
    u.reads x = t.reads x := by
  have hfailure := h.2 x hx
  obtain ⟨⟨failures, rfl⟩, -⟩ := h
  cases hnone : t.failure? x with
  | none =>
      rw [reads_of_no_failure hnone, reads_of_no_failure (hfailure.trans hnone)]
      rfl
  | some i => rw [reads_of_failure hnone, reads_of_failure (hfailure.trans hnone)]

/-- A read fails exactly in a case if it fails there and answers in any other. -/
theorem error_iff {α : Type} {outcome : Except Failure α} {P : Prop} (hfails : P → ∃ f, outcome = .error f)
    (hanswers : ¬ P → ∃ a, outcome = .ok a) : (∃ f, outcome = .error f) ↔ P := by
  refine ⟨?_, hfails⟩
  rintro ⟨f, hf⟩
  by_contra hP
  obtain ⟨a, ha⟩ := hanswers hP
  rw [hf] at ha
  exact nomatch ha

/-- A failure stays when the tree is changed, until it is cleared or another one takes its place. -/
theorem Injects.append {edits more : List Edit} {x : Nat} {i : Injected} (h : Injects edits x i)
    (hclear : .clearFailures ∉ more) (hfail : ∀ j, .failOn x j ∉ more) : Injects (edits ++ more) x i := by
  obtain ⟨before, after, rfl, hclear', hfail'⟩ := h
  refine ⟨before, after ++ more, by rw [List.append_assoc]; rfl, ?_, fun j => ?_⟩
  · rw [List.mem_append]
    exact not_or.mpr ⟨hclear', hclear⟩
  · rw [List.mem_append]
    exact not_or.mpr ⟨hfail' j, hfail j⟩

/-- What reads of a node give after changes of a tree that no failure was put on before. -/
structure ReadsFollow (start : LiveTree) (edits : List Edit) (x : Nat) : Prop where
  /-- Attributes cannot be read exactly if there is a failure on the node. -/
  attributes_fail_iff : (∃ f, ((start.run edits).reads x).1.outcome = .error f) ↔ ∃ i, Injects edits x i
  /-- Nor can children. -/
  children_fail_iff : (∃ f, ((start.run edits).reads x).2.outcome = .error f) ↔ ∃ i, Injects edits x i
  /-- Both reads fail alike. -/
  fails {i : Injected} (h : Injects edits x i) :
    (start.run edits).reads x = (Report.fail i.failure, Report.fail i.failure)
  /-- The failure tells the status and the code. -/
  told {i : Injected} (h : Injects edits x i) (hstatus : i.1 ≠ .success) :
    ∃ e, i.failure = .error e ∧ "AccessibilityError" ∈ e.cause.kind.typeNames ∧
      e.code = some i.1.errorCode ∧ e.context = [("status", .str i.1.spelling), ("raw_code", i.2)]
  /-- A failure with the status of a success is refused, and tells neither. -/
  refused {i : Injected} (h : Injects edits x i) (hstatus : i.1 = .success) : i.failure = .successStatus
  /-- Without a failure the node answers what it has. -/
  answers (h : ∀ i, ¬ Injects edits x i) :
    (start.run edits).reads x = (Report.ok ((start.run edits).attributesOf x).visible,
      Report.ok (((start.run edits).childrenOf x).map .node))
  /-- A node that exists has what the changes make of it one after the other, wherever it stands. -/
  changed (e : Edit) (h : x < (start.run edits).unused) :
    x < (start.run (edits ++ [e])).unused ∧
      (start.run (edits ++ [e])).node? x =
        ((start.run edits).node? x).map (e.changed (start.run edits) x)
  /-- Trees are added as they are, each node apart from all others. -/
  created (child : Tree) : Planted (start.run edits) child
  /-- The failure follows the node to any place that changes move it to. -/
  followed {i : Injected} {more : List Edit} {root : Nat} {place : List Nat} (h : Injects edits x i)
    (hclear : .clearFailures ∉ more) (hfail : ∀ j, .failOn x j ∉ more)
    (hplace : (start.run (edits ++ more)).at? root place = some x) :
    (start.run (edits ++ more)).readsAt root place =
      some (Report.fail i.failure, Report.fail i.failure)
  /-- A failure on another node might as well not be there. -/
  apart {before after : List Edit} {y : Nat} {i : Injected} (h : edits = before ++ .failOn y i :: after)
    (hy : x ≠ y) : (start.run edits).reads x = (start.run (before ++ after)).reads x

theorem ReadsFollow.of_no_failures {start : LiveTree} (hstart : start.failures = []) (edits : List Edit)
    (x : Nat) : ReadsFollow start edits x := by
  have hfails {edits : List Edit} {i : Injected} (h : Injects edits x i) :
      (start.run edits).reads x = (Report.fail i.failure, Report.fail i.failure) :=
    reads_of_failure ((failure?_run hstart edits x i).mpr h)
  have hanswers (h : ∀ i, ¬ Injects edits x i) :
      (start.run edits).reads x = (Report.ok ((start.run edits).attributesOf x).visible,
        Report.ok (((start.run edits).childrenOf x).map .node)) := by
    refine reads_of_no_failure (Option.eq_none_iff_forall_ne_some.mpr fun i hi => ?_)
    exact h i ((failure?_run hstart edits x i).mp hi)
  refine ⟨error_iff ?_ ?_, error_iff ?_ ?_, hfails, fun _ hstatus => Injected.failure_eq_error hstatus, ?_,
    hanswers, ?_, planted_plant _, ?_, ?_⟩
  · rintro ⟨i, hi⟩
    exact ⟨i.failure, by rw [hfails hi]; rfl⟩
  · intro hnone
    exact ⟨_, by rw [hanswers (not_exists.mp hnone)]; rfl⟩
  · rintro ⟨i, hi⟩
    exact ⟨i.failure, by rw [hfails hi]; rfl⟩
  · intro hnone
    exact ⟨_, by rw [hanswers (not_exists.mp hnone)]; rfl⟩
  · intro i _ hstatus
    rw [Injected.failure, LocatorError.ofStatus?, if_pos hstatus]
  · intro e hx
    rw [run_concat]
    exact ⟨Nat.lt_of_lt_of_le hx (unused_le_apply _ e), node?_apply _ e hx⟩
  · intro i more root place h hclear hfail hplace
    rw [readsAt, hplace, Option.map_some, hfails (h.append hclear hfail)]
  · rintro before after y i rfl hy
    rw [run_append, run_append]
    exact ((apart_failOn (start.run before) y i).run after).reads hy

/-- A window with two buttons that look the same, numbered before it. -/
def twins : Tree := .node ⟨some "Window", none, none, none⟩ [Sample.button, Sample.button]

end LiveTree

end ElementLocator
