import ElementLocator.Proofs.RecordFields

/-! # Which records are patterns

    The reader of patterns accepts the well-formed records and no others, and what it answers
    carries their values. The data is such that reading it raises no question of its own:
    indices are whole numbers, no field is given twice, and records are not nested too deeply.

    * `Record.readInside_eq_ok_iff` — the children of a record;
    * `Record.read_record_iff` — one level of a record;
    * `Record.read_iff` — a record at every level;
    * `Record.accepts_wellFormed_records` — acceptance, the values, and other spellings;
    * `Record.half_role_refused` — texts that are no sequences of characters are another matter. -/

namespace ElementLocator

-- ── children ──────────────────────────────────────────────────────────────

/-- A row of patterns is read if each of them is. -/
theorem Pattern.readItems_eq_ok_iff {seen : List Nat} {levels i : Nat} {items : List Value}
    {ps : List Pattern} : readItems seen levels i items = .ok (.ok ps) ↔
      List.Forall₂ (fun v p => read seen levels v = .ok (.ok p)) items ps := by
  induction items generalizing i ps with
  | nil =>
      rw [readItems, List.forall₂_nil_left_iff]
      exact ⟨fun h => (Except.ok.inj (Except.ok.inj h)).symm, fun h => by rw [h]⟩
  | cons v rest ih =>
      rw [List.forall₂_cons_left_iff]
      constructor
      · intro h
        obtain ⟨first, others, hfirst, hothers, hps⟩ := readItems_cons h
        match first, others, hps with
        | .ok p, .ok qs, hps => exact ⟨p, qs, hfirst, ih.mp hothers, Except.ok.inj hps⟩
      · rintro ⟨p, qs, hp, hqs, rfl⟩
        rw [readItems, hp]
        dsimp only
        rw [ih.mpr hqs]
        rfl

namespace Record

theorem ofJsonItems_eq_map (items : List Json) : Value.ofJsonItems items = items.map Value.ofJson := by
  induction items with
  | nil => rfl
  | cons j rest ih => rw [Value.ofJsonItems, ih, List.map_cons]

/-- Plain data is read as a pattern. -/
def Reads (levels : Nat) (j : Json) (p : Pattern) : Prop := Pattern.read [] levels (.ofJson j) = .ok (.ok p)

/-- The children that are given, read; none if they are not given. -/
def readInside (levels : Nat) : Option Json → Reading (List Pattern)
  | none => .ok (.ok [])
  | some j => Pattern.readChildList [] levels (.ofJson j)

theorem map_nonempty_eq_ok_iff {r : Reading (List Pattern)} {ps : List Pattern} :
    r.map Pattern.readChildList.nonempty = .ok (.ok ps) ↔ r = .ok (.ok ps) ∧ ps ≠ [] := by
  rcases r with i | es | _ | ⟨p, ps⟩
  · exact ⟨fun h => (nomatch h), fun h => (nomatch h.1)⟩
  · exact ⟨fun h => (nomatch Except.ok.inj h), fun h => (nomatch Except.ok.inj h.1)⟩
  · refine ⟨fun h => (nomatch Except.ok.inj h), fun ⟨h, hne⟩ => ?_⟩
    exact absurd (Except.ok.inj (Except.ok.inj h)).symm hne
  · refine ⟨fun h => ⟨h, ?_⟩, fun h => h.1⟩
    rw [← Except.ok.inj (Except.ok.inj h)]
    exact List.cons_ne_nil p ps

/-- Children are read if they are missing or all of them are read. -/
theorem readInside_eq_ok_iff {levels : Nat} {v : Option Json} {ps : List Pattern} :
    readInside levels v = .ok (.ok ps) ↔ OptionalItems v ∧ List.Forall₂ (Reads levels) (itemsOf v) ps := by
  rcases v with _ | (_ | _ | _ | _ | _ | items | _)
  case some.list =>
    have hitems : OptionalItems (some (.list items)) ↔ items ≠ [] := by simp [OptionalItems]
    rw [readInside, Value.ofJson, Pattern.readChildList, map_nonempty_eq_ok_iff, Pattern.readItems_eq_ok_iff,
      ofJsonItems_eq_map, List.forall₂_map_left_iff, hitems, and_comm]
    refine and_congr_left fun h => ?_
    rw [← List.length_pos_iff, ← h.length_eq, List.length_pos_iff]
  all_goals
    simp [readInside, Value.ofJson, Pattern.readChildList, OptionalItems, itemsOf, Checked.refuse, eq_comm]

theorem explains_readInside {levels : Nat} {v : Option Json} {c : Checked (List Pattern)}
    (h : readInside levels v = .ok c) : c.Explains := by
  cases v with
  | none =>
      rw [← Except.ok.inj h]
      exact Checked.explains_ok []
  | some j => exact Pattern.explains_of_readChildList h

-- ── records at every level ────────────────────────────────────────────────

section Read

variable {members : Members}
  (hindex : ∀ v, given members index = some v → v = .null ∨ ∃ n, v = .int n)
  (honce : ∀ field ∈ fields, SpelledOnce members field)

include honce

/-- The children of a record are read from the field of that name. -/
theorem readChildren_ofJsonMembers (levels : Nat) :
    Pattern.readChildren [] levels (Value.ofJsonMembers members) =
      (given members children).elim (.ok none) fun j =>
        (Pattern.readChildList [] levels (.ofJson j)).map some := by
  have hfield : Validation.field? (Value.ofJsonMembers members) ["children"] =
      (member? members children).map fun m => (m.1, Value.ofJson m.2) :=
    field?_ofJsonMembers (honce children (by decide))
  rw [Pattern.readChildren_eq_elim, hfield, given]
  cases member? members children <;> rfl

/-- A record is put together from its members once its children are read. -/
theorem read_object_iff {levels : Nat} {p : Pattern} : Reads (levels + 1) (.object members) p ↔
    ∃ c, readInside levels (given members children) = .ok c ∧
      Criteria.fieldErrors (Value.ofJsonMembers members) = [] ∧ c.errors = [] ∧
      (∀ m ∈ members, IsKey m.1) ∧ (Criteria.ofEntries (Value.ofJsonMembers members)).regexFault? = none ∧
      p = .node (Criteria.ofEntries (Value.ofJsonMembers members)) (c.getD []) := by
  have hchildren := readChildren_ofJsonMembers honce levels
  rw [← extraErrors_eq_nil_iff honce, Reads, Value.ofJson]
  cases hgiven : given members children with
  | none =>
      rw [hgiven] at hchildren
      rw [Pattern.read_mapping (Nat.succ_ne_zero levels) hchildren, Pattern.assemble_eq_ok_iff]
      constructor
      · intro h
        exact ⟨.ok [], rfl, h⟩
      · rintro ⟨c, hc, h⟩
        exact Except.ok.inj hc ▸ h
  | some j =>
      rw [hgiven] at hchildren
      cases hread : Pattern.readChildList [] levels (.ofJson j) with
      | error i =>
          rw [Option.elim_some, hread] at hchildren
          rw [Pattern.read, if_neg (Nat.succ_ne_zero levels), Nat.add_sub_cancel, hchildren]
          constructor
          · intro h
            cases h
          · rintro ⟨c, hc, -⟩
            cases hread.symm.trans hc
      | ok c =>
          rw [Option.elim_some, hread] at hchildren
          rw [Pattern.read_mapping (Nat.succ_ne_zero levels) hchildren, Pattern.assemble_eq_ok_iff]
          constructor
          · intro h
            exact ⟨c, hread, h⟩
          · rintro ⟨c', hc', h⟩
            exact Except.ok.inj (hread.symm.trans hc') ▸ h

include hindex

/-- One level of a record: it is in order itself, and its children are read. -/
theorem read_record_iff {levels : Nat} {p : Pattern} : Reads (levels + 1) (.object members) p ↔
    OwnFields members ∧ OptionalItems (given members children) ∧
      ∃ inner, List.Forall₂ (Reads levels) (inside members) inner ∧ p = .node (values members) inner := by
  rw [read_object_iff honce, ofEntries_ofJsonMembers hindex honce, fieldErrors_eq_nil_iff hindex honce,
    Criteria.regexFault?_eq_none_iff]
  constructor
  · rintro ⟨c, hc, ⟨hrole, hidentifier, hclass, hlabel, hmatch⟩, hnone, hkeys, hcompiles, rfl⟩
    obtain ⟨inner, rfl⟩ : ∃ inner, c = .ok inner := (explains_readInside hc).eq_ok hnone
    obtain ⟨hitems, hinner⟩ := readInside_eq_ok_iff.mp hc
    exact ⟨⟨hkeys, hrole, hidentifier, hclass, hlabel, hmatch, hcompiles⟩, hitems, inner, hinner, rfl⟩
  · rintro ⟨hown, hitems, inner, hinner, rfl⟩
    exact ⟨.ok inner, readInside_eq_ok_iff.mpr ⟨hitems, hinner⟩,
      ⟨hown.role, hown.identifier, hown.className, hown.label, hown.matchType⟩, rfl, hown.keys,
      hown.compiles, rfl⟩

end Read

theorem not_wellFormed {j : Json} (hj : ∀ members, j ≠ .object members) : ¬ WellFormed j := by
  rintro ⟨-⟩
  exact hj _ rfl

/-- What is no object is no pattern. -/
theorem not_reads {levels : Nat} {j : Json} (hj : ∀ members, j ≠ .object members) (p : Pattern) :
    ¬ Reads levels j p := by
  cases j with
  | object members => exact absurd rfl (hj members)
  | _ =>
      rw [Reads, Value.ofJson, Pattern.read]
      · intro h
        cases h
      all_goals intros; contradiction

/-- **RECORDS ARE READ** as what they carry, if they are well formed, and not otherwise. The
    induction is on the levels of the data. -/
theorem read_iff {levels : Nat} {j : Json} (h : Plain levels j) :
    ∀ {p : Pattern}, Reads levels j p ↔ WellFormed j ∧ Carries j p := by
  induction h with
  | @record levels members hindex honce _ ih =>
      intro p
      have hinner (inner : List Pattern) : List.Forall₂ (Reads levels) (inside members) inner ↔
          (∀ item ∈ inside members, WellFormed item) ∧ List.Forall₂ Carries (inside members) inner := by
        rw [forall₂_congr_of_mem fun item hitem p => ih item hitem, List.forall₂_and_left]
      simp only [read_record_iff hindex honce, hinner, carries_object_iff]
      constructor
      · rintro ⟨hown, hitems, inner, ⟨hformed, hcarries⟩, hp⟩
        exact ⟨.record hown hitems hformed, inner, hcarries, hp⟩
      · rintro ⟨⟨hown, hitems, hformed⟩, inner, hcarries, hp⟩
        exact ⟨hown, hitems, inner, ⟨hformed, hcarries⟩, hp⟩
  | other hj =>
      intro p
      exact iff_of_false (not_reads hj p) fun h => not_wellFormed hj h.1

/-- **WELL-FORMED RECORDS ARE THE PATTERNS**: among plain data, the records that are well formed
    at every level are accepted and nothing else is. The pattern carries the values of the
    record, and is the same if the record spells its keys differently. -/
theorem accepts_wellFormed_records {j : Json} (h : Plain Validation.deepest j) :
    ((∃ p, Pattern.ofValue (.ofJson j) = .ok (.ok p)) ↔ WellFormed j) ∧
      (∀ p, Pattern.ofValue (.ofJson j) = .ok (.ok p) → Carries j p) ∧
      ∀ k, Plain Validation.deepest k → Respelled j k → ∀ p,
        Pattern.ofValue (.ofJson j) = .ok (.ok p) → Pattern.ofValue (.ofJson k) = .ok (.ok p) := by
  refine ⟨⟨fun ⟨p, hp⟩ => ((read_iff h).mp hp).1, fun hformed => ?_⟩, fun p hp => ((read_iff h).mp hp).2,
    fun k hk hrespelled p hp => ?_⟩
  · obtain ⟨p, hcarries⟩ := hformed.exists_carries
    exact ⟨p, (read_iff h).mpr ⟨hformed, hcarries⟩⟩
  · obtain ⟨hformed, hcarries⟩ := (read_iff h).mp hp
    obtain ⟨hformed', hcarries'⟩ := hformed.respelled hrespelled
    exact (read_iff hk).mpr ⟨hformed', hcarries' p hcarries⟩

namespace Sample

/-- A button whose label is compared by regular expression, with the comparison spelled as given. -/
def button (spelling : String) : Json :=
  .object [("role", .str "AXButton"), ("label", .str "O[kK]"), (spelling, .str "regex"), ("index", .int (-1))]

/-- A window with such a button, with its class spelled as given. -/
def window (spelling inner : String) : Json :=
  .object [("role", .str "AXWindow"), (spelling, .str "main"), ("label", .null),
    ("children", .list [button inner])]

theorem plain_button {spelling : String} (h : spelling ∈ matchType) : Plain 254 (button spelling) := by
  rcases List.mem_pair.mp h with rfl | rfl
  all_goals
    refine @Plain.record 253 _ (fun v hv => Or.inr ⟨-1, (Option.some.inj hv).symm⟩) ?_ fun _ => nofun
    simp only [SpelledOnce]
    decide

theorem plain_window (spelling inner : String) (h : spelling ∈ className) (hinner : inner ∈ matchType) :
    Plain Validation.deepest (window spelling inner) := by
  rcases List.mem_pair.mp h with rfl | rfl
  all_goals
    refine @Plain.record 254 _ (fun v hv => (nomatch hv)) ?_ fun item hitem => ?_
    · simp only [SpelledOnce, List.map_cons, List.map_nil]
      decide
    · rw [List.mem_singleton.mp hitem]
      exact plain_button hinner

/-- Whether plain data is accepted. -/
def accepted (j : Json) : Bool :=
  match Pattern.ofValue (.ofJson j) with
  | .ok (.ok _) => true
  | _ => false

theorem of_accepted {j : Json} (h : accepted j = true) : ∃ p, Pattern.ofValue (.ofJson j) = .ok (.ok p) := by
  rw [accepted] at h
  split at h
  · rename_i p hp
    exact ⟨p, hp⟩
  · cases h

end Sample

/-- A window with a button inside is well formed, and both spellings of its keys describe one pattern. -/
theorem window_in_two_spellings :
    WellFormed (Sample.window "className" "match_type") ∧
      ∃ p, Pattern.ofValue (.ofJson (Sample.window "className" "match_type")) = .ok (.ok p) ∧
        Carries (Sample.window "className" "match_type") p ∧
        Pattern.ofValue (.ofJson (Sample.window "class_name" "matchType")) = .ok (.ok p) := by
  have h := accepts_wellFormed_records (Sample.plain_window "className" "match_type" (by decide) (by decide))
  have hplain := Sample.plain_window "class_name" "matchType" (by decide) (by decide)
  have haccepted : Sample.accepted (Sample.window "className" "match_type") = true := by decide +kernel
  obtain ⟨p, hp⟩ := Sample.of_accepted haccepted
  exact ⟨h.1.mp ⟨p, hp⟩, p, hp, h.2.1 p hp, h.2.2 _ hplain rfl p hp⟩

/-- A role that is half of a character. -/
def Sample.halfRole : Text.Wide := [.half 0xD800]

/-- Among texts that may hold halves of characters it is not enough that the role is not empty: this
    one is refused, although the record has no other key. -/
theorem half_role_refused :
    Sample.halfRole ≠ [] ∧
      Pattern.ofValue (.mapping [(.text (Text.Wide.ofString "role"), .text Sample.halfRole)]) =
        .ok (.error [⟨["role"], "Input should be a valid string, unable to parse raw data as a unicode string"⟩]) := by
  refine ⟨by decide, ?_⟩
  rw [Pattern.ofValue, Pattern.read, if_neg (by decide)]
  rfl

end Record

end ElementLocator
