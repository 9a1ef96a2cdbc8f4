import ElementLocator.Pattern.Reader
import ElementLocator.Tree.Reader

/-! # Fields of records

    A record is read from the entries of a mapping. A field is what stands under the first key
    that spells it, and so are the children of a record, although their reader walks the
    entries itself.

    * `Validation.field?_cons_self`, `Validation.field?_cons_of_ne`, `Validation.field?_append` —
      a field under one name by recursion on the entries;
    * `Tree.readChildren_eq_map`, `Pattern.readChildren_eq_elim` — the children are the field of that
      name;
    * `Validation.recordErrors_eq`, `Criteria.checkTexts_eq` — records whose texts are sequences of
      characters need no look at halves of them;
    * `Criteria.checkRegex_of_fault` — what a text does that does not compile;
    * `Pattern.read_mapping`, `Pattern.assemble_cases` — a mapping is put together from its entries
      once its children are read, and either has errors or is checked for its regular
      expressions. -/

namespace ElementLocator

/-- An entry that is found under a name has that name. -/
theorem fst_eq_of_find? {α : Type} {es : List (String × α)} {name : String} {e : String × α}
    (h : es.find? (fun e => e.1 == name) = some e) : e.1 = name :=
  beq_iff_eq.mp (List.find?_some (p := fun e : String × α => e.1 == name) h)

namespace Validation

/-- Every key that is a text of characters can be read. -/
theorem isUnreadable_eq (k : Value) : isUnreadable k = false := by
  cases k <;> rfl

/-- The errors of a record in characters are those of its fields and those of its keys. -/
theorem recordErrors_eq (fieldErrors : List FieldError) (used : List String) (entries : List (Value × Value)) :
    recordErrors fieldErrors used entries = fieldErrors ++ extraErrors used entries := by
  rw [recordErrors, if_neg]
  intro h
  obtain ⟨e, -, he⟩ := List.any_eq_true.mp h
  rw [isUnreadable_eq] at he
  exact Bool.false_ne_true he

theorem field?_cons_self (name : String) (v : Value) (rest : List (Value × Value)) :
    field? ((.text name, v) :: rest) [name] = some (name, v) := by
  rw [field?, List.find?_cons_of_pos]
  exact beq_self_eq_true name

theorem not_isNamed {k : Value} {name : String} (hk : k ≠ .text name) : ¬ isNamed name k = true := by
  cases k with
  | text s => exact fun h => hk (congrArg Value.text (beq_iff_eq.mp h))
  | _ => exact Bool.false_ne_true

theorem field?_cons_of_ne {k : Value} {name : String} (hk : k ≠ .text name) (v : Value)
    (rest : List (Value × Value)) : field? ((k, v) :: rest) [name] = field? rest [name] := by
  rw [field?, List.find?_cons_of_neg]
  · rfl
  · exact not_isNamed hk

/-- The entries that come first have the first say. -/
theorem field?_append (xs ys : List (Value × Value)) (name : String) :
    field? (xs ++ ys) [name] = (field? xs [name]).or (field? ys [name]) := by
  induction xs with
  | nil => rfl
  | cons x xs ih =>
      obtain ⟨k, v⟩ := x
      by_cases hk : k = .text name
      · rw [hk, List.cons_append, field?_cons_self, field?_cons_self]
        rfl
      · rw [List.cons_append, field?_cons_of_ne hk, field?_cons_of_ne hk, ih]

end Validation

-- ── children ─────────────────────────────────────────────────────────────

/-- The children of a node are read from the first entry under their name. -/
theorem Tree.readChildren_eq_map (seen : List Nat) (levels : Nat) (entries : List (Value × Value)) :
    readChildren seen levels entries =
      (Validation.field? entries ["children"]).map fun f => readChildList seen levels f.2 := by
  induction entries with
  | nil => rfl
  | cons e rest ih =>
      obtain ⟨k, v⟩ := e
      by_cases hk : k = .text "children"
      · rw [hk, readChildren, Validation.field?_cons_self]
        rfl
      · rw [readChildren, ih, Validation.field?_cons_of_ne hk]
        exact hk

/-- The children of a pattern are read from the first entry under their name. -/
theorem Pattern.readChildren_eq_elim (seen : List Nat) (levels : Nat) (entries : List (Value × Value)) :
    readChildren seen levels entries =
      (Validation.field? entries ["children"]).elim (.ok none) fun f =>
        (readChildList seen levels f.2).map some := by
  induction entries with
  | nil => rfl
  | cons e rest ih =>
      obtain ⟨k, v⟩ := e
      by_cases hk : k = .text "children"
      · rw [hk, readChildren, Validation.field?_cons_self]
        rfl
      · rw [readChildren, if_neg (Validation.not_isNamed hk), ih, Validation.field?_cons_of_ne hk]

/-- A mapping with its children read is put together from its entries. -/
theorem Pattern.read_mapping {seen : List Nat} {levels : Nat} {entries : List (Value × Value)}
    {children : Option (Checked (List Pattern))} (hlevels : levels ≠ 0)
    (hchildren : readChildren seen (levels - 1) entries = .ok children) :
    read seen levels (.mapping entries) = assemble entries children := by
  rw [read, if_neg hlevels, hchildren]

-- ── criteria ─────────────────────────────────────────────────────────────

/-- Whether a text with a fault interrupts the reading of its pattern, rather than being refused
    with it. -/
def Regex.Fault.interrupts : Regex.Fault → Bool
  | .malformed .. | .countTooLong _ | .incompatibleFlags => false
  | .repetitionTooLarge | .codeTooLarge | .lookBehindTooWide | .wrongSpan => true

namespace Criteria

/-- Criteria in characters are looked at for their regular expressions. -/
theorem checkTexts_eq (c : Criteria) : c.checkTexts = c.checkRegex := by
  obtain ⟨role, identifier, className, label, matchType, index⟩ := c
  cases identifier <;> cases className <;> cases label <;> cases matchType <;> rfl

theorem checkRegex_of_none {c : Criteria} (h : c.regexFault? = none) : c.checkRegex = .ok (.ok ()) := by
  rw [checkRegex, h]

/-- Criteria with a text that does not compile are refused, unless the fault interrupts. -/
theorem checkRegex_of_fault {c : Criteria} {field : TextField} {source : String} {f : Regex.Fault}
    (h : c.regexFault? = some (field, source, f)) :
    f.interrupts = true ∧ c.checkRegex = .error (.regex f) ∨
      f.interrupts = false ∧ ∃ message, c.checkRegex = .ok (.refuse message) := by
  rw [checkRegex, h]
  cases f with
  | malformed message place => exact Or.inr ⟨rfl, _, rfl⟩
  | countTooLong message => exact Or.inr ⟨rfl, _, rfl⟩
  | incompatibleFlags => exact Or.inr ⟨rfl, _, rfl⟩
  | repetitionTooLarge => exact Or.inl ⟨rfl, rfl⟩
  | codeTooLarge => exact Or.inl ⟨rfl, rfl⟩
  | lookBehindTooWide => exact Or.inl ⟨rfl, rfl⟩
  | wrongSpan => exact Or.inl ⟨rfl, rfl⟩

end Criteria

/-- The criteria among the entries of a pattern, each field with its default where it cannot be
    read. -/
def Criteria.ofEntries (entries : List (Value × Value)) : Criteria where
  role := (readField entries ["role"] (.error [⟨["role"], "Field required"⟩])
    Validation.nonemptyText).2.getD ""
  identifier := (readField entries ["identifier"] (.ok none)
    (Validation.optional Validation.text)).2.getD none
  className := (readField entries ["className", "class_name"] (.ok none)
    (Validation.optional Validation.text)).2.getD none
  label := (readField entries ["label"] (.ok none) (Validation.optional Validation.text)).2.getD none
  matchType := (readField entries ["matchType", "match_type"] (.ok .contains) readMatchType).2.getD .contains
  index := (readField entries ["index"] (.ok none) (Validation.optional Validation.whole)).2.getD none

/-- Entries with their children read either have errors, or are a pattern if the regular
    expressions among their texts compile. -/
theorem Pattern.assemble_cases (entries : List (Value × Value)) (children : Option (Checked (List Pattern))) :
    (∃ es, es ≠ [] ∧ assemble entries children = .ok (.error es)) ∨
      ((children.getD (.ok [])).below "children").errors = [] ∧
        assemble entries children = (Criteria.ofEntries entries).checkRegex.map fun checked =>
          checked.map fun _ =>
            node (Criteria.ofEntries entries) (((children.getD (.ok [])).below "children").getD []) := by
  rw [assemble]
  dsimp only
  rw [Validation.recordErrors_eq, Criteria.checkTexts_eq]
  split
  · rename_i hnone
    simp only [List.append_eq_nil_iff] at hnone
    exact Or.inr ⟨hnone.1.2, rfl⟩
  · rename_i hsome
    exact Or.inl ⟨_, hsome, rfl⟩

end ElementLocator
