import ElementLocator.Proofs.Acceptance

/-! # Reading patterns at any depth

    The elements of an application are read inside a record, with one level less to go than a
    pattern that is read by itself. What comes out is the same, since the levels only bound the
    reading: a pattern that is accepted is accepted with more levels to go, and is the same
    pattern.

    * `Checked.Explains` — a check that fails says why; so does every reading of a pattern
      (`Pattern.explains_of_read`);
    * `Pattern.read_mono` — levels to spare change nothing. -/

namespace ElementLocator

-- ── checks that say why they fail ─────────────────────────────────────────

namespace Checked

variable {α β : Type}

/-- A check that fails lists at least one error. -/
def Explains (c : Checked α) : Prop := c ≠ .error []

theorem explains_ok (a : α) : Explains (.ok a) := nofun

theorem explains_refuse (message : String) : Explains (.refuse message : Checked α) := nofun

theorem Explains.map {c : Checked α} (h : c.Explains) (f : α → β) : Explains (c.map f) := by
  cases c with
  | ok a => exact nofun
  | error es => exact fun heq => h (congrArg Except.error (Except.error.inj heq))

theorem Explains.below {c : Checked α} (h : c.Explains) (step : String) : Explains (c.below step) := by
  cases c with
  | ok a => exact nofun
  | error es =>
      intro heq
      exact h (congrArg Except.error (List.map_eq_nil_iff.mp (Except.error.inj heq)))

theorem explains_orErrors (a : α) (es : List FieldError) : Explains (orErrors a es) := by
  cases es with
  | nil => exact nofun
  | cons e es => exact nofun

/-- A value is let through unless there are errors. -/
theorem of_orErrors {a b : α} {errors : List FieldError} (h : orErrors a errors = .ok b) :
    errors = [] ∧ a = b := by
  cases errors with
  | nil => exact ⟨rfl, Except.ok.inj h⟩
  | cons e es => exact nomatch h

/-- What is left without errors was right. -/
theorem eq_ok_of_below {c : Checked α} (h : c.Explains) {step : String}
    (hnone : (c.below step).errors = []) : ∃ a, c = .ok a := by
  cases c with
  | ok a => exact ⟨a, rfl⟩
  | error es => exact absurd (congrArg Except.error (List.map_eq_nil_iff.mp hnone)) h

end Checked

theorem eq_ok_of_map {ε α β : Type} {x : Except ε α} {f : α → β} {b : β} (h : x.map f = .ok b) :
    ∃ a, x = .ok a ∧ f a = b := by
  cases x with
  | ok a => exact ⟨a, rfl, Except.ok.inj h⟩
  | error e => exact nomatch h

namespace Pattern

open Checked

theorem explains_checkRegex {c : Criteria} {checked : Checked Unit} (h : c.checkRegex = .ok checked) :
    checked.Explains := by
  cases hf : c.regexFault? with
  | none =>
      rw [Criteria.checkRegex_of_none hf] at h
      rw [← Except.ok.inj h]
      exact explains_ok ()
  | some fault =>
      obtain ⟨field, source, f⟩ := fault
      rcases Criteria.checkRegex_of_fault hf with ⟨-, heq⟩ | ⟨-, message, heq⟩
      · exact nomatch heq.symm.trans h
      · rw [heq] at h
        rw [← Except.ok.inj h]
        exact explains_refuse message

theorem explains_of_assemble {entries : List (Value × Value)} {children : Option (Checked (List Pattern))}
    {c : Checked Pattern} (h : assemble entries children = .ok c) : c.Explains := by
  rcases assemble_cases entries children with ⟨es, hes, heq⟩ | ⟨-, heq⟩
  · rw [heq] at h
    rw [← Except.ok.inj h]
    exact fun hempty => hes (Except.error.inj hempty)
  · rw [heq] at h
    obtain ⟨checked, hchecked, rfl⟩ := eq_ok_of_map h
    exact (explains_checkRegex hchecked).map _

/-- **A PATTERN THAT IS REFUSED** is refused for a reason. -/
theorem explains_of_read {seen : List Nat} {levels : Nat} :
    ∀ {v : Value} {c : Checked Pattern}, read seen levels v = .ok c → c.Explains
  | .marked id v, c, h => by
      rw [read] at h
      split at h
      · rw [← Except.ok.inj h]
        exact explains_refuse _
      · exact explains_of_read h
  | .mapping entries, c, h => by
      rw [read] at h
      split at h
      · rw [← Except.ok.inj h]
        exact explains_refuse _
      · split at h
        · cases h
        · exact explains_of_assemble h
  | .null, c, h | .bool _, c, h | .int _, c, h | .float _, c, h | .text _, c, h | .bytes _, c, h
  | .date _, c, h | .moment _, c, h | .list _, c, h | .tuple _, c, h | .set _, c, h => by
      rw [read] at h
      · rw [← Except.ok.inj h]
        exact explains_refuse _
      all_goals intros; contradiction

/-- Patterns in a row are read where each of them is, and all of them are. -/
theorem readItems_cons {seen : List Nat} {levels i : Nat} {v : Value} {rest : List Value}
    {c : Checked (List Pattern)} (h : readItems seen levels i (v :: rest) = .ok c) :
    ∃ first others, read seen levels v = .ok first ∧ readItems seen levels (i + 1) rest = .ok others ∧
      c = (first.below (toString i)).cons others := by
  rw [readItems] at h
  cases hv : read seen levels v with
  | error e =>
      rw [hv] at h
      exact nomatch h
  | ok first =>
      rw [hv] at h
      dsimp only at h
      cases hr : readItems seen levels (i + 1) rest with
      | error e =>
          rw [hr] at h
          exact nomatch h
      | ok others =>
          rw [hr] at h
          exact ⟨first, others, rfl, rfl, (Except.ok.inj h).symm⟩

theorem explains_of_readItems {seen : List Nat} {levels i : Nat} {items : List Value}
    {c : Checked (List Pattern)} (h : readItems seen levels i items = .ok c) : c.Explains := by
  induction items generalizing i c with
  | nil =>
      rw [readItems] at h
      rw [← Except.ok.inj h]
      exact explains_ok []
  | cons v rest ih =>
      obtain ⟨first, others, hfirst, hothers, rfl⟩ := readItems_cons h
      have hfirst := (explains_of_read hfirst).below (toString i)
      have hothers := ih hothers
      cases hf : first.below (toString i) with
      | error es =>
          rw [hf] at hfirst
          intro heq
          exact hfirst (congrArg Except.error (List.append_eq_nil_iff.mp (Except.error.inj heq)).1)
      | ok p =>
          cases others with
          | error es =>
              intro heq
              exact hothers (congrArg Except.error (List.append_eq_nil_iff.mp (Except.error.inj heq)).2)
          | ok ps => exact explains_ok _

theorem explains_nonempty {c : Checked (List Pattern)} (h : c.Explains) :
    (readChildList.nonempty c).Explains := by
  simp only [readChildList.nonempty]
  split
  · exact explains_refuse _
  · exact h

theorem explains_of_readChildList {seen : List Nat} {levels : Nat} :
    ∀ {v : Value} {c : Checked (List Pattern)}, readChildList seen levels v = .ok c → c.Explains
  | .null, c, h => by
      rw [readChildList] at h
      rw [← Except.ok.inj h]
      exact explains_ok []
  | .list items, c, h | .tuple items, c, h | .set items, c, h => by
      rw [readChildList] at h
      obtain ⟨read, hread, rfl⟩ := eq_ok_of_map h
      exact explains_nonempty (explains_of_readItems hread)
  | .marked _ v, c, h => by
      rw [readChildList] at h
      exact explains_of_readChildList h
  | .bool _, c, h | .int _, c, h | .float _, c, h | .text _, c, h | .bytes _, c, h
  | .date _, c, h | .moment _, c, h | .mapping _, c, h => by
      rw [readChildList] at h
      · rw [← Except.ok.inj h]
        exact explains_refuse _
      all_goals intros; contradiction

theorem explains_of_readChildren {seen : List Nat} {levels : Nat} {entries : List (Value × Value)}
    {c : Checked (List Pattern)} (h : readChildren seen levels entries = .ok (some c)) : c.Explains := by
  rw [readChildren_eq_elim] at h
  cases hf : Validation.field? entries ["children"] with
  | none =>
      rw [hf] at h
      exact nomatch Except.ok.inj h
  | some f =>
      rw [hf] at h
      obtain ⟨read, hread, hc⟩ := eq_ok_of_map h
      rw [← Option.some.inj hc]
      exact explains_of_readChildList hread

-- ── levels to spare ───────────────────────────────────────────────────────

/-- What an accepted pattern says of its children: they are not given, or are accepted. -/
theorem children_of_assemble {entries : List (Value × Value)} {children : Option (Checked (List Pattern))}
    {p : Pattern} (hchildren : ∀ c, children = some c → c.Explains)
    (h : assemble entries children = .ok (.ok p)) :
    children = none ∨ ∃ ps, children = some (.ok ps) := by
  cases children with
  | none => exact Or.inl rfl
  | some c =>
      rcases assemble_cases entries (some c) with ⟨es, -, heq⟩ | ⟨hnone, -⟩
      · exact nomatch Except.ok.inj (heq.symm.trans h)
      -- children that fail without an error would go unnoticed, but they say why they fail
      · obtain ⟨ps, rfl⟩ := eq_ok_of_below (hchildren c rfl) hnone
        exact Or.inr ⟨ps, rfl⟩

mutual

/-- **LEVELS TO SPARE CHANGE NOTHING**: a pattern that is accepted is accepted with more levels to
    go. The recursion is the reader's own. -/
theorem read_mono {seen : List Nat} {levels more : Nat} (hlevels : levels ≤ more) :
    ∀ {v : Value} {p : Pattern}, read seen levels v = .ok (.ok p) → read seen more v = .ok (.ok p)
  | .marked id v, p, h => by
      rw [read] at h ⊢
      split at h
      · exact nomatch Except.ok.inj h
      · rename_i hseen
        rw [if_neg hseen]
        exact read_mono hlevels h
  | .mapping entries, p, h => by
      rw [read] at h
      split at h
      · exact nomatch Except.ok.inj h
      · rename_i hpositive
        split at h
        · exact nomatch h
        · rename_i children hread
          have hshape : children = none ∨ ∃ ps, children = some (.ok ps) :=
            children_of_assemble (fun c hc => explains_of_readChildren (hc ▸ hread)) h
          -- the children have fewer levels to go on both sides, as many as before to spare
          have hread : readChildren seen (more - 1) entries = .ok children :=
            readChildren_mono (Nat.sub_le_sub_right hlevels 1) hshape hread
          rw [read_mapping (by omega) hread]
          exact h
  | .null, p, h | .bool _, p, h | .int _, p, h | .float _, p, h
  | .text _, p, h | .bytes _, p, h | .date _, p, h | .moment _, p, h
  | .list _, p, h | .tuple _, p, h | .set _, p, h => by
      rw [read] at h
      · exact nomatch Except.ok.inj h
      all_goals exact fun _ => nofun

theorem readChildren_mono {seen : List Nat} {levels more : Nat} (hlevels : levels ≤ more) :
    ∀ {entries : List (Value × Value)} {children : Option (Checked (List Pattern))},
    (children = none ∨ ∃ ps, children = some (.ok ps)) →
      readChildren seen levels entries = .ok children → readChildren seen more entries = .ok children
  | [], children, _, h => h
  | (k, v) :: rest, children, hshape, h => by
      by_cases hk : k = .text "children"
      · rw [hk, readChildren] at h ⊢
        obtain ⟨c, hc, rfl⟩ := eq_ok_of_map h
        rcases hshape with hnone | ⟨ps, hps⟩
        · exact nomatch hnone
        · obtain rfl : c = .ok ps := Option.some.inj hps
          rw [readChildList_mono hlevels hc]
          rfl
      · rw [readChildren, if_neg (Validation.not_isNamed hk)] at h ⊢
        exact readChildren_mono hlevels hshape h

theorem readChildList_mono {seen : List Nat} {levels more : Nat} (hlevels : levels ≤ more) :
    ∀ {v : Value} {ps : List Pattern},
    readChildList seen levels v = .ok (.ok ps) → readChildList seen more v = .ok (.ok ps)
  | .null, ps, h => by
      rw [readChildList] at h ⊢
      exact h
  | .list items, ps, h | .tuple items, ps, h | .set items, ps, h => by
      rw [readChildList] at h ⊢
      obtain ⟨c, hc, hps⟩ := eq_ok_of_map h
      rw [eq_ok_of_nonempty hps] at hc
      rw [readItems_mono hlevels hc]
      rw [eq_ok_of_nonempty hps] at hps
      exact congrArg Except.ok hps
  | .marked _ v, ps, h => by
      rw [readChildList] at h ⊢
      exact readChildList_mono hlevels h
  | .bool _, ps, h | .int _, ps, h | .float _, ps, h | .text _, ps, h
  | .bytes _, ps, h | .date _, ps, h | .moment _, ps, h | .mapping _, ps, h => by
      rw [readChildList] at h
      · exact nomatch Except.ok.inj h
      all_goals exact nofun

theorem readItems_mono {seen : List Nat} {levels more i : Nat} (hlevels : levels ≤ more) :
    ∀ {items : List Value} {ps : List Pattern}, readItems seen levels i items = .ok (.ok ps) →
      readItems seen more i items = .ok (.ok ps)
  | [], ps, h => by
      rw [readItems] at h ⊢
      exact h
  | v :: rest, ps, h => by
      obtain ⟨first, others, hfirst, hothers, hps⟩ := readItems_cons h
      cases first with
      | error es => exact nomatch hps
      | ok p =>
          cases others with
          | error es => exact nomatch hps
          | ok qs =>
              rw [readItems, read_mono hlevels hfirst]
              dsimp only
              rw [readItems_mono hlevels hothers]
              exact congrArg Except.ok hps.symm

end

/-- A pattern that is accepted inside a record is accepted by itself. -/
theorem ofValue_of_read {levels : Nat} {v : Value} {p : Pattern} (hlevels : levels ≤ Validation.deepest)
    (h : read [] levels v = .ok (.ok p)) : ofValue v = .ok (.ok p) := read_mono hlevels h

end Pattern

end ElementLocator
