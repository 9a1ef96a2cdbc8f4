import ElementLocator.Report

/-! # How tasks end

    A task is run for two things: the notes that it makes and the way it ends. The laws here
    follow the end alone through the ways of putting tasks together.

    * `outcome_bind`, `outcome_collect_eq_flatMap` — a task that succeeds in all its parts
      answers what the parts answer, joined in order;
    * `fault?_bind`, `fault?_collect`, `fault?_each` — a task ends in the first fault among its
      parts, in the order in which they run. -/

namespace ElementLocator

-- ── first faults among several ────────────────────────────────────────────

theorem findSome?_congr {α ε : Type} {f g : α → Option ε} :
    ∀ {items : List α}, (∀ a ∈ items, f a = g a) → items.findSome? f = items.findSome? g
  | [], _ => rfl
  | a :: rest, h => by
      rw [List.findSome?_cons, List.findSome?_cons, h a List.mem_cons_self,
        findSome?_congr fun b hb => h b (List.mem_cons_of_mem a hb)]

/-- If each item ends as expected or in an interruption, so does the first that ends at all. -/
theorem findSome?_congr_or {α ε : Type} {f g : α → Option ε} {I : ε → Prop} :
    ∀ {items : List α}, (∀ a ∈ items, f a = g a ∨ ∃ e, f a = some e ∧ I e) →
      items.findSome? f = items.findSome? g ∨ ∃ e, items.findSome? f = some e ∧ I e
  | [], _ => Or.inl rfl
  | a :: rest, h => by
      rw [List.findSome?_cons, List.findSome?_cons]
      rcases h a List.mem_cons_self with ha | ⟨e, ha, he⟩
      · rw [ha]
        cases g a with
        | some e => exact Or.inl rfl
        | none => exact findSome?_congr_or fun b hb => h b (List.mem_cons_of_mem a hb)
      · rw [ha]
        exact Or.inr ⟨e, rfl, he⟩

theorem findSome?_const_eq_or {α ε : Type} (g : Option ε) (items : List α) :
    items.findSome? (fun _ => g) = none ∨ items.findSome? (fun _ => g) = g := by
  cases items with
  | nil => exact Or.inl rfl
  | cons a rest =>
      refine Or.inr ?_
      rw [List.findSome?_cons]
      cases g with
      | some e => rfl
      | none => exact List.findSome?_eq_none_iff.mpr fun _ _ => rfl

/-- What comes before something that ends as expected may end so itself, or not at all. -/
theorem or_eq_or {ε : Type} {x y g : Option ε} {I : ε → Prop}
    (hx : (x = none ∨ x = g) ∨ ∃ e, x = some e ∧ I e) (hy : y = g ∨ ∃ e, y = some e ∧ I e) :
    x.or y = g ∨ ∃ e, x.or y = some e ∧ I e := by
  rcases hx with (rfl | rfl) | ⟨e, rfl, he⟩
  · rw [Option.none_or]
    exact hy
  · cases x with
    | some e => exact Or.inl rfl
    | none => exact hy
  · exact Or.inr ⟨e, rfl, he⟩

/-- An outcome of which something is known as an answer is an answer. -/
theorem exists_eq_ok_of_toOption {ε α β : Type} {x : Except ε α} {f : α → β} {b : β}
    (h : x.toOption.map f = some b) : ∃ a, x = .ok a ∧ f a = b := by
  cases x with
  | ok a => exact ⟨a, rfl, Option.some.inj h⟩
  | error e => exact nomatch h

namespace Report

variable {τ ε α β : Type}

/-- The fault that a task ends in, if it does not succeed. -/
def fault? (x : Report τ ε α) : Option ε :=
  match x.outcome with
  | .ok _ => none
  | .error e => some e

theorem fault?_eq_none_iff {x : Report τ ε α} : x.fault? = none ↔ ∃ a, x.outcome = .ok a := by
  simp only [fault?]
  cases x.outcome with
  | ok a => exact ⟨fun _ => ⟨a, rfl⟩, fun _ => rfl⟩
  | error e => exact ⟨fun h => (nomatch h), fun ⟨_, h⟩ => (nomatch h)⟩

theorem fault?_eq_some_iff {x : Report τ ε α} {e : ε} : x.fault? = some e ↔ x.outcome = .error e := by
  simp only [fault?]
  cases x.outcome with
  | ok a => exact ⟨fun h => (nomatch h), fun h => (nomatch h)⟩
  | error f => exact ⟨fun h => by rw [Option.some.inj h], fun h => by cases h; rfl⟩

theorem fault?_of_ok {x : Report τ ε α} {a : α} (h : x.outcome = .ok a) : x.fault? = none :=
  fault?_eq_none_iff.mpr ⟨a, h⟩

-- ── single tasks ──────────────────────────────────────────────────────────

@[simp] theorem outcome_ok (a : α) : (ok a : Report τ ε α).outcome = .ok a := rfl

@[simp] theorem outcome_pure (a : α) : (pure a : Report τ ε α).outcome = .ok a := rfl

@[simp] theorem outcome_fail (e : ε) : (fail e : Report τ ε α).outcome = .error e := rfl

@[simp] theorem outcome_note (n : τ) : (note n : Report τ ε Unit).outcome = .ok () := rfl

@[simp] theorem outcome_ofExcept (x : Except ε α) : (ofExcept x : Report τ ε α).outcome = x := rfl

@[simp] theorem outcome_attempt (x : Report τ ε α) : x.attempt.outcome = .ok x.outcome := rfl

-- ── one task after the other ──────────────────────────────────────────────

theorem outcome_bind_of_ok {x : Report τ ε α} {a : α} (h : x.outcome = .ok a)
    (f : α → Report τ ε β) : (x >>= f).outcome = (f a).outcome := by
  show (Report.bind x f).outcome = _
  simp only [Report.bind]
  rw [h]

theorem outcome_bind_of_error {x : Report τ ε α} {e : ε} (h : x.outcome = .error e)
    (f : α → Report τ ε β) : (x >>= f).outcome = .error e := by
  show (Report.bind x f).outcome = _
  simp only [Report.bind]
  rw [h]

theorem outcome_bind (x : Report τ ε α) (f : α → Report τ ε β) :
    (x >>= f).outcome = x.outcome.bind fun a => (f a).outcome := by
  cases h : x.outcome with
  | ok a => exact outcome_bind_of_ok h f
  | error e => exact outcome_bind_of_error h f

/-- A sequence succeeds only if its first task does, and then as its second one does. -/
theorem outcome_bind_eq_ok {x : Report τ ε α} {f : α → Report τ ε β} {b : β}
    (h : (x >>= f).outcome = .ok b) : ∃ a, x.outcome = .ok a ∧ (f a).outcome = .ok b := by
  cases hx : x.outcome with
  | ok a =>
      rw [outcome_bind_of_ok hx] at h
      exact ⟨a, rfl, h⟩
  | error e =>
      rw [outcome_bind_of_error hx] at h
      exact nomatch h

/-- A sequence notes what its first task notes, and goes on only if that succeeds. -/
theorem notes_bind (x : Report τ ε α) (f : α → Report τ ε β) :
    (x >>= f).notes = x.notes ++ match x.outcome with
      | .ok a => (f a).notes
      | .error _ => [] := by
  show (Report.bind x f).notes = _
  simp only [Report.bind]
  cases x.outcome with
  | ok a => rfl
  | error e => exact (List.append_nil _).symm

theorem fault?_bind_of_ok {x : Report τ ε α} {a : α} (h : x.outcome = .ok a)
    (f : α → Report τ ε β) : (x >>= f).fault? = (f a).fault? := by
  simp only [fault?]
  rw [outcome_bind_of_ok h]

theorem fault?_bind_of_fault {x : Report τ ε α} {e : ε} (h : x.fault? = some e)
    (f : α → Report τ ε β) : (x >>= f).fault? = some e :=
  fault?_eq_some_iff.mpr (outcome_bind_of_error (fault?_eq_some_iff.mp h) f)

/-- A sequence whose second task ends alike whatever the first one answers. -/
theorem fault?_bind {x : Report τ ε α} {f : α → Report τ ε β} {g : Option ε}
    (hf : ∀ a, x.outcome = .ok a → (f a).fault? = g) : (x >>= f).fault? = x.fault?.or g := by
  cases hx : x.fault? with
  | none =>
      obtain ⟨a, ha⟩ := fault?_eq_none_iff.mp hx
      rw [fault?_bind_of_ok ha, hf a ha]
      rfl
  | some e => exact fault?_bind_of_fault hx f

-- ── a task for every item ─────────────────────────────────────────────────

theorem collect_cons (f : α → Report τ ε (List β)) (a : α) (rest : List α) :
    collect f (a :: rest) = do
      let first ← f a
      let others ← collect f rest
      return first ++ others := rfl

/-- A run over items succeeds only if it does for each; the answers are joined in order. -/
theorem outcome_collect_eq_ok {f : α → Report τ ε (List β)} {g : α → List β} {items : List α}
    {found : List β} (h : (collect f items).outcome = .ok found)
    (hg : ∀ a ∈ items, ∀ r, (f a).outcome = .ok r → r = g a) : found = items.flatMap g := by
  induction items generalizing found with
  | nil =>
      have hnil : (Except.ok [] : Except ε (List β)) = .ok found := h
      cases hnil
      rfl
  | cons a rest ih =>
      rw [collect_cons] at h
      obtain ⟨first, hfirst, h⟩ := outcome_bind_eq_ok h
      obtain ⟨others, hothers, h⟩ := outcome_bind_eq_ok h
      have hjoin : (Except.ok (first ++ others) : Except ε (List β)) = .ok found := h
      cases hjoin
      rw [List.flatMap_cons, hg a List.mem_cons_self first hfirst,
        ih hothers fun b hb => hg b (List.mem_cons_of_mem a hb)]

/-- A run over items that succeeds does so for each of them. -/
theorem outcome_of_collect {f : α → Report τ ε (List β)} {items : List α} {found : List β}
    (h : (collect f items).outcome = .ok found) {a : α} (ha : a ∈ items) :
    ∃ r, (f a).outcome = .ok r := by
  induction items generalizing found with
  | nil => cases ha
  | cons b rest ih =>
      rw [collect_cons] at h
      obtain ⟨first, hfirst, h⟩ := outcome_bind_eq_ok h
      obtain ⟨others, hothers, -⟩ := outcome_bind_eq_ok h
      rcases List.mem_cons.mp ha with rfl | ha
      · exact ⟨first, hfirst⟩
      · exact ih hothers ha

/-- A run over items answers the same if each item does. -/
theorem outcome_collect_of {f g : α → Report τ ε (List β)} {items : List α} {found : List β}
    (h : (collect f items).outcome = .ok found)
    (hfg : ∀ a ∈ items, ∀ r, (f a).outcome = .ok r → (g a).outcome = .ok r) :
    (collect g items).outcome = .ok found := by
  induction items generalizing found with
  | nil => exact h
  | cons a rest ih =>
      rw [collect_cons] at h ⊢
      obtain ⟨first, hfirst, h⟩ := outcome_bind_eq_ok h
      obtain ⟨others, hothers, h⟩ := outcome_bind_eq_ok h
      rw [outcome_bind_of_ok (hfg a List.mem_cons_self first hfirst),
        outcome_bind_of_ok (ih hothers fun b hb => hfg b (List.mem_cons_of_mem a hb))]
      exact h

theorem fault?_collect (f : α → Report τ ε (List β)) (items : List α) :
    (collect f items).fault? = items.findSome? fun a => (f a).fault? := by
  induction items with
  | nil => rfl
  | cons a rest ih =>
      rw [collect_cons, fault?_bind (g := (collect f rest).fault?), ih, List.findSome?_cons]
      · cases (f a).fault? <;> rfl
      · intro first _
        rw [fault?_bind (g := none) fun _ _ => rfl, Option.or_none]

theorem each_cons (f : α → Report τ ε Unit) (a : α) (rest : List α) :
    each f (a :: rest) = (f a >>= fun _ => each f rest) := rfl

theorem fault?_each (f : α → Report τ ε Unit) (items : List α) :
    (each f items).fault? = items.findSome? fun a => (f a).fault? := by
  induction items with
  | nil => rfl
  | cons a rest ih =>
      rw [each_cons, fault?_bind (g := (each f rest).fault?) fun _ _ => rfl, ih, List.findSome?_cons]
      cases (f a).fault? <;> rfl

end Report

namespace Task

variable {ν α β : Type}

@[simp] theorem outcome_log (level : LogLevel) (name : String) (fields : List (String × Json)) :
    (log level name fields : Task ν Unit).outcome = .ok () := rfl

@[simp] theorem outcome_refuse (cause : Cause) :
    (refuse cause : Task ν α).outcome = .error (.error ⟨cause, []⟩) := rfl

/-- A sequence logs what its first task logs, and goes on only if that succeeds. -/
theorem loggedEvents_bind (x : Task ν α) (f : α → Task ν β) :
    loggedEvents (x >>= f).notes = loggedEvents x.notes ++ match x.outcome with
      | .ok a => loggedEvents (f a).notes
      | .error _ => [] := by
  rw [Report.notes_bind, loggedEvents, List.filterMap_append]
  cases x.outcome <;> rfl

end Task

-- ── tasks with a state ────────────────────────────────────────────────────

/-- The first part of a sequence is run before the rest is looked at. -/
theorem run_bind_of_ok {σ ε α β : Type} {x : StateT σ (Except ε) α} {f : α → StateT σ (Except ε) β}
    {s s' : σ} {a : α} (h : x.run s = .ok (a, s')) : (x >>= f).run s = (f a).run s' := by
  rw [StateT.run_bind, h]
  rfl

end ElementLocator
