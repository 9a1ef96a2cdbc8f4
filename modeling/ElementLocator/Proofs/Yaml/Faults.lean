import ElementLocator.Yaml.Cursor

/-! # Blame for scalars

    Whoever reads a text, or walks through what was read, passes on the faults of others and has
    some of its own. Of most faults nothing needs to be known; one that says that a scalar stands
    for no value needs a cause. `Yields C P x` says that an outcome `x` is a value with `P`, or a
    fault that has the cause `C` if it blames a scalar; `Keeps` says so of a step with a state that
    keeps an invariant. Both are put together like the steps themselves. -/

namespace ElementLocator.Yaml

variable {α β σ : Type} {C C' : ScalarFault → Prop} {P : α → Prop} {Q : β → Prop}

/-- An outcome is a value with a property, or a fault; one that blames a scalar has a cause. -/
def Yields (C : ScalarFault → Prop) (P : α → Prop) : Except Fault α → Prop
  | .ok a => P a
  | .error (.scalar f) => C f
  | .error (.problem _) | .error (.unreadable _) => True

namespace Yields

theorem bind {x : Except Fault α} {f : α → Except Fault β} (hx : Yields C P x)
    (hf : ∀ a, P a → Yields C Q (f a)) : Yields C Q (x >>= f) := by
  cases x with
  | ok a => exact hf a hx
  | error e => cases e <;> exact hx

theorem map {x : Except Fault α} {f : α → β} (hx : Yields C P x) (hf : ∀ a, P a → Q (f a)) :
    Yields C Q (x.map f) := by
  cases x with
  | ok a => exact hf a hx
  | error e => cases e <;> exact hx

/-- An outcome that depends on a condition. -/
theorem ite {b : Prop} [Decidable b] {x y : Except Fault α} (hx : b → Yields C P x)
    (hy : Yields C P y) : Yields C P (if b then x else y) := by
  split
  · rename_i hb
    exact hx hb
  · exact hy

/-- What cannot be looked at blames no scalar. -/
theorem look (c : Cursor) (k : Nat) : Yields C (fun _ => True) (c.look k) := by
  rw [Cursor.look]
  split
  · exact trivial
  · split <;> exact trivial

/-- A problem met at a place blames no scalar. -/
theorem reject (context : String) (start : Mark) (problem : String) (c : Cursor) (k : Nat) :
    Yields C P (reject context start problem c k) := (look c k).bind fun _ _ => trivial

/-- A fault of a scalar is told as it is. -/
theorem mapError_scalar {x : Except ScalarFault α} (h : ∀ f, x = .error f → C f) :
    Yields C (fun _ => True) (x.mapError Fault.scalar) := by
  cases x with
  | ok a => exact trivial
  | error f => exact h f rfl

/-- A weaker property and a weaker cause. -/
theorem mono {x : Except Fault α} {P' : α → Prop} (hx : Yields C P x) (hC : ∀ f, C f → C' f)
    (hP : ∀ a, P a → P' a) : Yields C' P' x := by
  cases x with
  | ok a => exact hP a hx
  | error e =>
      cases e with
      | scalar f => exact hC f hx
      | problem p => exact trivial
      | unreadable o => exact trivial

/-- A fault is passed on to where another value was expected. -/
theorem of_error {e : Fault} (h : Yields C P (.error e : Except Fault α)) :
    Yields C Q (.error e : Except Fault β) := by
  cases e <;> exact h

end Yields

/-- A step with a state keeps an invariant of the state, and answers a value with a property; if
    it fails and blames a scalar, that has a cause. -/
def Keeps (C : ScalarFault → Prop) (I : σ → Prop) (P : α → Prop) (x : StateT σ (Except Fault) α) :
    Prop :=
  ∀ s, I s → Yields C (fun r => P r.1 ∧ I r.2) (x.run s)

namespace Keeps

variable {I : σ → Prop}

theorem pure {a : α} (h : P a) : Keeps C I P (Pure.pure a : StateT σ (Except Fault) α) :=
  fun _ hs => ⟨h, hs⟩

theorem bind {x : StateT σ (Except Fault) α} {f : α → StateT σ (Except Fault) β}
    (hx : Keeps C I P x) (hf : ∀ a, P a → Keeps C I Q (f a)) : Keeps C I Q (x >>= f) := by
  intro s hs
  rw [StateT.run_bind]
  refine (hx s hs).bind ?_
  rintro ⟨a, s'⟩ ⟨ha, hs'⟩
  exact hf a ha s' hs'

theorem map {x : StateT σ (Except Fault) α} {f : α → β} (hx : Keeps C I P x)
    (hf : ∀ a, P a → Q (f a)) : Keeps C I Q (f <$> x) := by
  intro s hs
  rw [StateT.run_map]
  refine (hx s hs).bind ?_
  rintro ⟨a, s'⟩ ⟨ha, hs'⟩
  exact ⟨hf a ha, hs'⟩

/-- The state that a step looks at has the invariant. -/
theorem get : Keeps C I I (MonadState.get : StateT σ (Except Fault) σ) := fun _ hs => ⟨hs, hs⟩

theorem modify {f : σ → σ} (hf : ∀ s, I s → I (f s)) :
    Keeps C I (fun _ => True) (modify f : StateT σ (Except Fault) Unit) := fun s hs => ⟨trivial, hf s hs⟩

theorem set {s : σ} (hs : I s) :
    Keeps C I (fun _ => True) (MonadStateOf.set s : StateT σ (Except Fault) PUnit) :=
  fun _ _ => ⟨trivial, hs⟩

/-- A step that fails by what is no fault of a scalar. -/
theorem refuse (p : Problem) : Keeps C I P (throw (.problem p) : StateT σ (Except Fault) α) :=
  fun _ _ => trivial

/-- A step that fails and blames a scalar, for a cause. -/
theorem blame {f : ScalarFault} (h : C f) :
    Keeps C I P (throw (.scalar f) : StateT σ (Except Fault) α) := fun _ _ => h

/-- A step that depends on a condition. -/
theorem ite {b : Prop} [Decidable b] {x y : StateT σ (Except Fault) α} (hx : b → Keeps C I P x)
    (hy : Keeps C I P y) : Keeps C I P (if b then x else y) := by
  split
  · rename_i hb
    exact hx hb
  · exact hy

/-- A step that takes its outcome from elsewhere. -/
theorem lift {x : Except Fault α} (hx : Yields C P x) :
    Keeps C I P (StateT.lift x : StateT σ (Except Fault) α) := by
  intro s hs
  show Yields C _ (x >>= fun a => Pure.pure (a, s))
  exact hx.bind fun a ha => ⟨ha, hs⟩

end Keeps

end ElementLocator.Yaml
