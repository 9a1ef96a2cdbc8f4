import Mathlib.Data.List.Find
import ElementLocator.Proofs.PatternRecords
import ElementLocator.Proofs.SavedTree

/-! # Fields of plain records

    The reader of patterns looks a field up under each of its spellings and checks what stands
    there. For a record in plain data that gives no field twice, each check passes for just the
    values that a well-formed record may have, and what it answers is that value.

    * `Pattern.assemble_eq_ok_iff` — entries are put together to a pattern if no field has an
      error, no key is left over and the regular expressions compile;
    * `Record.field?_ofJsonMembers` — a field is the first member spelled as it;
    * `Record.fieldErrors_eq_nil_iff`, `Record.extraErrors_eq_nil_iff` — no field has an error, and no
      key is left over, just if the record is in order;
    * `Record.ofEntries_ofJsonMembers` — the values that are read are those of the record. -/

namespace ElementLocator

-- ── checks without errors ─────────────────────────────────────────────────

namespace Checked

variable {α : Type}

@[simp] theorem errors_below_eq_nil_iff {c : Checked α} {step : String} :
    (c.below step).errors = [] ↔ c.errors = [] := by
  cases c with
  | ok a => exact Iff.rfl
  | error es => exact List.map_eq_nil_iff

/-- A check without errors has a value. -/
theorem Explains.eq_ok {c : Checked α} (h : c.Explains) (hnone : c.errors = []) : ∃ a, c = .ok a := by
  cases c with
  | ok a => exact ⟨a, rfl⟩
  | error es => exact absurd (congrArg Except.error hnone) h

@[simp] theorem getD_below (c : Checked α) (step : String) (other : α) :
    (c.below step).getD other = c.getD other := by
  cases c <;> rfl

end Checked

theorem MatchType.ofSpelling?_eq_some_iff {s : String} {t : MatchType} :
    ofSpelling? s = some t ↔ s = t.spelling := by
  constructor
  · intro h
    exact (beq_iff_eq.mp (List.find?_some (p := fun t : MatchType => t.spelling == s) h)).symm
  · rintro rfl
    cases t <;> decide

-- ── putting a pattern together ────────────────────────────────────────────

namespace Criteria

/-- The errors of the fields that a pattern has itself. -/
def fieldErrors (entries : List (Value × Value)) : List FieldError :=
  (readField entries ["role"] (.error [⟨["role"], "Field required"⟩]) Validation.nonemptyText).2.errors ++
    (readField entries ["identifier"] (.ok none) (Validation.optional Validation.text)).2.errors ++
    (readField entries ["className", "class_name"] (.ok none)
      (Validation.optional Validation.text)).2.errors ++
    (readField entries ["label"] (.ok none) (Validation.optional Validation.text)).2.errors ++
    (readField entries ["matchType", "match_type"] (.ok .contains) readMatchType).2.errors ++
    (readField entries ["index"] (.ok none) (Validation.optional Validation.whole)).2.errors

/-- The keys under which those fields are found. -/
def usedKeys (entries : List (Value × Value)) : List String :=
  [["role"], ["identifier"], ["className", "class_name"], ["label"], ["matchType", "match_type"],
    ["index"]].filterMap fun names => (Validation.field? entries names).map (·.1)

theorem readField_fst {α : Type} (entries : List (Value × Value)) (names : List String) (absent : Checked α)
    (check : Value → Checked α) :
    (readField entries names absent check).1 = (Validation.field? entries names).map (·.1) := by
  rw [readField]
  cases Validation.field? entries names <;> rfl

theorem filterMap_keys (entries : List (Value × Value)) :
    [(readField entries ["role"] (.error [⟨["role"], "Field required"⟩]) Validation.nonemptyText).1,
      (readField entries ["identifier"] (.ok none) (Validation.optional Validation.text)).1,
      (readField entries ["className", "class_name"] (.ok none) (Validation.optional Validation.text)).1,
      (readField entries ["label"] (.ok none) (Validation.optional Validation.text)).1,
      (readField entries ["matchType", "match_type"] (.ok .contains) readMatchType).1,
      (readField entries ["index"] (.ok none) (Validation.optional Validation.whole)).1].filterMap id =
        usedKeys entries := by
  simp only [readField_fst]
  rfl

/-- The check of regular expressions passes if they compile. -/
theorem regexFault?_eq_none_iff {c : Criteria} :
    c.regexFault? = none ↔ ∀ s ∈ c.regexTexts, Regex.Compiles s := by
  refine ⟨Pattern.compiles_of_regexTexts, fun h => ?_⟩
  cases hf : c.regexFault? with
  | none => rfl
  | some fault =>
      obtain ⟨field, s, f⟩ := fault
      obtain ⟨hmem, hcompile⟩ := Pattern.mem_regexTexts_of_fault hf
      obtain ⟨program, hprogram⟩ := h s hmem
      exact nomatch hcompile.symm.trans hprogram

end Criteria

namespace Pattern

/-- The entries of a pattern are put together if none of its fields has an error, no key is left
    over and its regular expressions compile. -/
theorem assemble_eq_ok_iff {entries : List (Value × Value)} {children : Option (Checked (List Pattern))}
    {p : Pattern} : assemble entries children = .ok (.ok p) ↔
      Criteria.fieldErrors entries = [] ∧ (children.getD (.ok [])).errors = [] ∧
        Validation.extraErrors (Criteria.usedKeys entries ++ if children.isSome then ["children"] else [])
          entries = [] ∧
        (Criteria.ofEntries entries).regexFault? = none ∧
        p = .node (Criteria.ofEntries entries) ((children.getD (.ok [])).getD []) := by
  rw [← Criteria.filterMap_keys, Criteria.fieldErrors, assemble]
  dsimp only
  rw [Validation.recordErrors_eq, Criteria.checkTexts_eq]
  split
  · rename_i hnone
    simp only [List.append_eq_nil_iff, Checked.errors_below_eq_nil_iff] at hnone ⊢
    rw [Checked.getD_below]
    constructor
    · intro h
      obtain ⟨hp, hfault⟩ := eq_node_of_checkRegex h
      exact ⟨hnone.1.1, hnone.1.2, hnone.2, hfault, hp⟩
    · rintro ⟨-, -, -, hfault, rfl⟩
      exact congrArg (Except.map _) (Criteria.checkRegex_of_none hfault)
  · rename_i hsome
    constructor
    · intro h
      cases h
    · rintro ⟨hown, hinner, hextra, -⟩
      refine absurd ?_ hsome
      simp only [List.append_eq_nil_iff, Checked.errors_below_eq_nil_iff] at hown ⊢
      exact ⟨⟨hown, hinner⟩, hextra⟩

end Pattern

namespace Record

open ElementLocator.Tree

-- ── fields of a record ────────────────────────────────────────────────────

theorem ofJsonMembers_eq (members : Members) :
    Value.ofJsonMembers members = textEntries (members.map fun m => (m.1, Value.ofJson m.2)) := by
  induction members with
  | nil => rfl
  | cons m rest ih =>
      rw [Value.ofJsonMembers, ih]
      rfl

theorem member?_eq_some {members : Members} {field : List String} {m : String × Json}
    (h : member? members field = some m) : m ∈ members ∧ m.1 ∈ field :=
  ⟨List.mem_of_find?_eq_some h,
    List.contains_iff_mem.mp (List.find?_some (p := fun m : String × Json => field.contains m.1) h)⟩

/-- The check of a value that need not be given. -/
def checkGiven {α : Type} (absent : Checked α) (check : Value → Checked α) : Option Json → Checked α
  | some j => check (.ofJson j)
  | none => absent

section Field

variable {members : Members} {field : List String} (honce : SpelledOnce members field)

include honce

/-- A member that is spelled as a field has the key under which the field is found. -/
theorem map_member?_eq_some_iff {m : String × Json} (hm : m ∈ members) :
    (member? members field).map (·.1) = some m.1 ↔ m.1 ∈ field := by
  constructor
  · intro h
    obtain ⟨m', hm', hkey⟩ := Option.map_eq_some_iff.mp h
    rw [← hkey]
    exact (member?_eq_some hm').2
  · intro hfield
    cases hm' : member? members field with
    | none => exact absurd (List.contains_iff_mem.mpr hfield) (List.find?_eq_none.mp hm' m hm)
    | some m' =>
        obtain ⟨hmem, hfield'⟩ := member?_eq_some hm'
        exact congrArg some (honce _ hfield' _ hfield (List.mem_map_of_mem hmem) (List.mem_map_of_mem hm))

/-- The spelling that a field has is the only one under which anything is found. -/
theorem find?_of_member? {m : String × Json} (hm : member? members field = some m) {name : String}
    (hname : name ∈ field) : members.find? (fun e => e.1 == name) = if name = m.1 then some m else none := by
  obtain ⟨hmem, hfield⟩ := member?_eq_some hm
  split
  · rename_i heq
    rw [← hm]
    refine List.find?_congr fun e he => Bool.eq_iff_iff.mpr ?_
    rw [beq_iff_eq, List.contains_iff_mem, heq]
    exact ⟨fun h => h ▸ hfield,
      fun h => honce _ h _ hfield (List.mem_map_of_mem he) (List.mem_map_of_mem hmem)⟩
  · rename_i hne
    refine List.find?_eq_none.mpr fun e he hkey => hne ?_
    rw [beq_iff_eq] at hkey
    exact honce _ hname _ hfield (hkey ▸ List.mem_map_of_mem he) (List.mem_map_of_mem hmem)

/-- A field is read from the first member that is spelled as it. -/
theorem field?_ofJsonMembers : Validation.field? (Value.ofJsonMembers members) field =
    (member? members field).map fun m => (m.1, Value.ofJson m.2) := by
  rw [ofJsonMembers_eq, field?_textEntries]
  cases hm : member? members field with
  | none =>
      refine List.findSome?_eq_none_iff.mpr fun name hname => ?_
      rw [List.find?_map, Option.map_eq_none_iff]
      refine List.find?_eq_none.mpr fun m hmem hkey => List.find?_eq_none.mp hm m hmem ?_
      exact List.contains_iff_mem.mpr (beq_iff_eq.mp hkey ▸ hname)
  | some m =>
      obtain ⟨before, after, hsplit, hbefore⟩ := List.eq_append_cons_of_mem (member?_eq_some hm).2
      refine List.findSome?_eq_some_iff.mpr ⟨before, m.1, after, hsplit, ?_, fun name hname => ?_⟩
      · rw [List.find?_map]
        exact congrArg (Option.map _) ((find?_of_member? honce hm (member?_eq_some hm).2).trans (if_pos rfl))
      · have hne : name ≠ m.1 := fun heq => hbefore (heq ▸ hname)
        have hfield : name ∈ field := hsplit ▸ List.mem_append_left _ hname
        rw [List.find?_map]
        exact congrArg (Option.map _) ((find?_of_member? honce hm hfield).trans (if_neg hne))

/-- What a field of a record is read as. -/
theorem readField_ofJsonMembers {α : Type} (absent : Checked α) (check : Value → Checked α) :
    Criteria.readField (Value.ofJsonMembers members) field absent check =
      match member? members field with
      | some m => (some m.1, (check (.ofJson m.2)).below m.1)
      | none => (none, absent) := by
  rw [Criteria.readField, field?_ofJsonMembers honce]
  cases member? members field <;> rfl

theorem errors_readField_eq_nil_iff {α : Type} (absent : Checked α) (check : Value → Checked α) :
    (Criteria.readField (Value.ofJsonMembers members) field absent check).2.errors = [] ↔
      (checkGiven absent check (given members field)).errors = [] := by
  rw [readField_ofJsonMembers honce, given]
  cases member? members field with
  | none => exact Iff.rfl
  | some m => exact Checked.errors_below_eq_nil_iff

theorem getD_readField {α : Type} (absent : Checked α) (check : Value → Checked α) (other : α) :
    (Criteria.readField (Value.ofJsonMembers members) field absent check).2.getD other =
      (checkGiven absent check (given members field)).getD other := by
  rw [readField_ofJsonMembers honce, given]
  cases member? members field with
  | none => rfl
  | some m => exact Checked.getD_below _ _ _

end Field

-- ── checks of the values that are given ───────────────────────────────────

section Checks

variable (v : Option Json)

/-- Among plain data, the texts are the strings. -/
theorem text_ofJson (j : Json) : Validation.text (.ofJson j) =
    match j with
    | .str s => .ok s
    | _ => .refuse "Input should be a valid string" := by
  cases j <;> rfl

theorem errors_role_eq_nil_iff :
    (checkGiven (.error [⟨["role"], "Field required"⟩]) Validation.nonemptyText v).errors = [] ↔
      ∃ s, s ≠ "" ∧ v = some (.str s) := by
  rcases v with _ | (_ | _ | _ | _ | s | _ | _)
  case some.str =>
    by_cases hs : s = "" <;>
      simp [checkGiven, Validation.nonemptyText, text_ofJson, hs, Checked.errors, Checked.refuse]
  all_goals simp [checkGiven, Validation.nonemptyText, text_ofJson, Checked.errors, Checked.refuse]

theorem getD_role :
    (checkGiven (.error [⟨["role"], "Field required"⟩]) Validation.nonemptyText v).getD "" =
      (textOf v).getD "" := by
  rcases v with _ | (_ | _ | _ | _ | s | _ | _)
  case some.str =>
    by_cases hs : s = "" <;>
      simp [checkGiven, Validation.nonemptyText, text_ofJson, hs, Checked.getD, Checked.refuse, textOf]
  all_goals rfl

theorem errors_text_eq_nil_iff :
    (checkGiven (.ok none) (Validation.optional Validation.text) v).errors = [] ↔ OptionalText v := by
  rcases v with _ | (_ | _ | _ | _ | _ | _ | _) <;>
    simp [checkGiven, Validation.optional, Value.ofJson, Validation.text, Except.map, Checked.errors,
      Checked.refuse, OptionalText]

theorem getD_text :
    (checkGiven (.ok none) (Validation.optional Validation.text) v).getD none = textOf v := by
  rcases v with _ | (_ | _ | _ | _ | _ | _ | _) <;> rfl

theorem errors_matchType_eq_nil_iff :
    (checkGiven (.ok .contains) Criteria.readMatchType v).errors = [] ↔
      v = none ∨ ∃ t : MatchType, v = some (.str t.spelling) := by
  rcases v with _ | (_ | _ | _ | _ | s | _ | _)
  case some.str =>
    have hspelled : (∃ t : MatchType, s = t.spelling) ↔ ∃ t, MatchType.ofSpelling? s = some t :=
      exists_congr fun _ => MatchType.ofSpelling?_eq_some_iff.symm
    cases ht : MatchType.ofSpelling? s <;>
      simp [checkGiven, Criteria.readMatchType, text_ofJson, hspelled, ht, Checked.errors, Checked.refuse]
  all_goals simp [checkGiven, Criteria.readMatchType, text_ofJson, Checked.errors, Checked.refuse]

theorem getD_matchType :
    (checkGiven (.ok .contains) Criteria.readMatchType v).getD .contains =
      ((textOf v).bind MatchType.ofSpelling?).getD .contains := by
  rcases v with _ | (_ | _ | _ | _ | s | _ | _)
  case some.str =>
    cases ht : MatchType.ofSpelling? s <;>
      simp [checkGiven, Criteria.readMatchType, text_ofJson, ht, Checked.getD, Checked.refuse, textOf]
  all_goals rfl

variable {v} (hindex : ∀ j, v = some j → j = .null ∨ ∃ n, j = .int n)

include hindex

theorem check_index : checkGiven (.ok none) (Validation.optional Validation.whole) v = .ok (wholeOf v) := by
  cases v with
  | none => rfl
  | some j =>
      rcases hindex j rfl with rfl | ⟨n, rfl⟩
      · rfl
      · rfl

end Checks

-- ── records that are read ─────────────────────────────────────────────────

/-- Keys are left over unless they are among those used. -/
theorem extraErrors_ofJsonMembers (used : List String) (members : Members) :
    Validation.extraErrors used (Value.ofJsonMembers members) = [] ↔ ∀ m ∈ members, m.1 ∈ used := by
  rw [Validation.extraErrors, List.filterMap_eq_nil_iff, ofJsonMembers_eq, textEntries, List.forall_mem_map,
    List.forall_mem_map]
  refine forall₂_congr fun m _ => ?_
  simp

theorem mem_childrenKey_iff {members : Members} {m : String × Json} (hm : m ∈ members) :
    m.1 ∈ (if (given members children).isSome then ["children"] else []) ↔ m.1 ∈ children := by
  split
  · exact Iff.rfl
  · rename_i hnone
    rw [given, Option.isSome_map, Option.not_isSome_iff_eq_none] at hnone
    exact iff_of_false List.not_mem_nil fun h =>
      List.find?_eq_none.mp hnone m hm (List.contains_iff_mem.mpr h)

section Members

variable {members : Members}
  (hindex : ∀ v, given members index = some v → v = .null ∨ ∃ n, v = .int n)
  (honce : ∀ field ∈ fields, SpelledOnce members field)

include honce

theorem spelledOnce_own {field : List String} (hfield : field ∈ ownFields) : SpelledOnce members field :=
  honce field (List.mem_append_left _ hfield)

theorem mem_usedKeys_iff {m : String × Json} (hm : m ∈ members) :
    m.1 ∈ Criteria.usedKeys (Value.ofJsonMembers members) ↔ ∃ field ∈ ownFields, m.1 ∈ field := by
  rw [Criteria.usedKeys, List.mem_filterMap]
  refine exists_congr fun field => and_congr_right fun hfield => ?_
  have honce : SpelledOnce members field := spelledOnce_own honce hfield
  rw [field?_ofJsonMembers honce, Option.map_map]
  exact map_member?_eq_some_iff honce hm

/-- No key is left over if every key spells a field. -/
theorem extraErrors_eq_nil_iff :
    Validation.extraErrors (Criteria.usedKeys (Value.ofJsonMembers members) ++
        if (given members children).isSome then ["children"] else []) (Value.ofJsonMembers members) = [] ↔
      ∀ m ∈ members, IsKey m.1 := by
  rw [extraErrors_ofJsonMembers]
  refine forall₂_congr fun m hm => ?_
  rw [List.mem_append, mem_usedKeys_iff honce hm, mem_childrenKey_iff hm]
  simp only [IsKey, fields, List.mem_append, List.mem_singleton, or_and_right, exists_or, exists_eq_left]

include hindex

theorem fieldErrors_eq_nil_iff : Criteria.fieldErrors (Value.ofJsonMembers members) = [] ↔
    (∃ s, s ≠ "" ∧ given members role = some (.str s)) ∧ OptionalText (given members identifier) ∧
      OptionalText (given members className) ∧ OptionalText (given members label) ∧
      (given members matchType = none ∨
        ∃ t : MatchType, given members matchType = some (.str t.spelling)) := by
  have honce (field : List String) (h : field ∈ ownFields) := spelledOnce_own honce h
  have hrole := (errors_readField_eq_nil_iff (honce role (by decide))
    (.error [⟨["role"], "Field required"⟩]) Validation.nonemptyText).trans (errors_role_eq_nil_iff _)
  have htext (field : List String) (h : field ∈ ownFields) :=
    (errors_readField_eq_nil_iff (honce field h) (.ok none)
      (Validation.optional Validation.text)).trans (errors_text_eq_nil_iff _)
  have hmatch := (errors_readField_eq_nil_iff (honce matchType (by decide)) (.ok .contains)
    Criteria.readMatchType).trans (errors_matchType_eq_nil_iff _)
  have hwhole := (errors_readField_eq_nil_iff (honce index (by decide)) (.ok none)
    (Validation.optional Validation.whole)).mpr (congrArg Checked.errors (check_index hindex))
  rw [Criteria.fieldErrors]
  simp only [List.append_eq_nil_iff, and_assoc]
  exact and_congr hrole (and_congr (htext _ (by decide)) (and_congr (htext _ (by decide))
    (and_congr (htext _ (by decide)) ((and_iff_left hwhole).trans hmatch))))

theorem ofEntries_ofJsonMembers : Criteria.ofEntries (Value.ofJsonMembers members) = values members := by
  have honce (field : List String) (h : field ∈ ownFields) := spelledOnce_own honce h
  rw [Criteria.ofEntries, values, Criteria.mk.injEq]
  refine ⟨(getD_readField (honce role (by decide)) _ _ _).trans (getD_role _),
    (getD_readField (honce _ (by decide)) _ _ _).trans (getD_text _),
    (getD_readField (honce _ (by decide)) _ _ _).trans (getD_text _),
    (getD_readField (honce _ (by decide)) _ _ _).trans (getD_text _),
    (getD_readField (honce _ (by decide)) _ _ _).trans (getD_matchType _),
    (getD_readField (honce _ (by decide)) _ _ _).trans ?_⟩
  exact congrArg (Checked.getD · none) (check_index hindex)

end Members

end Record

end ElementLocator
