import Mathlib.Data.List.Forall2
import Mathlib.Tactic.MkIffOfInductiveProp
import ElementLocator.Proofs.RegexTexts

/-! # Records of patterns

    What a pattern looks like as plain data, said without its reader. A record is an object
    whose keys are spellings of fields; two fields have a second spelling.

    * `Record.WellFormed` — the records that describe a pattern, at every level;
    * `Record.Carries` — a pattern carries the values of a record, at every level;
    * `Record.Respelled` — data that differs in the spelling of keys only; a record that is
      spelled differently is as well formed and has the same values
      (`WellFormed.respelled`). -/

namespace ElementLocator.Record

/-- The spellings of each field. -/
def role : List String := ["role"]
def identifier : List String := ["identifier"]
def className : List String := ["className", "class_name"]
def label : List String := ["label"]
def matchType : List String := ["matchType", "match_type"]
def index : List String := ["index"]
def children : List String := ["children"]

/-- The fields that a pattern has itself. -/
def ownFields : List (List String) := [role, identifier, className, label, matchType, index]

/-- All fields. -/
def fields : List (List String) := ownFields ++ [children]

/-- The members of an object. -/
abbrev Members := List (String × Json)

/-- The first member that is spelled as a field. -/
def member? (members : Members) (field : List String) : Option (String × Json) :=
  members.find? fun m => field.contains m.1

/-- The value that is given for a field. -/
def given (members : Members) (field : List String) : Option Json := (member? members field).map (·.2)

/-- A text that is given; anything else counts as none. -/
def textOf : Option Json → Option String
  | some (.str s) => some s
  | _ => none

/-- A whole number that is given; anything else counts as none. -/
def wholeOf : Option Json → Option Int
  | some (.int n) => some n
  | _ => none

/-- The values of a record itself: those that are missing are none, and the comparison is by
    containment if it is missing. -/
def values (members : Members) : Criteria where
  role := (textOf (given members role)).getD ""
  identifier := textOf (given members identifier)
  className := textOf (given members className)
  label := textOf (given members label)
  matchType := ((textOf (given members matchType)).bind MatchType.ofSpelling?).getD .contains
  index := wholeOf (given members index)

/-- The items that are given; anything else counts as none. -/
def itemsOf : Option Json → List Json
  | some (.list items) => items
  | _ => []

/-- The records inside a record. -/
def inside (members : Members) : List Json := itemsOf (given members children)

-- ── well-formed records ───────────────────────────────────────────────────

/-- A key that spells a field. -/
def IsKey (key : String) : Prop := ∃ field ∈ fields, key ∈ field

/-- A text that need not be there. -/
def OptionalText (v : Option Json) : Prop := v = none ∨ v = some .null ∨ ∃ s, v = some (.str s)

/-- Children that need not be there; a list of them is not empty. -/
def OptionalItems (v : Option Json) : Prop :=
  v = none ∨ v = some .null ∨ ∃ items, items ≠ [] ∧ v = some (.list items)

/-- What a record must be itself. The index is not looked at. -/
@[mk_iff]
structure OwnFields (members : Members) : Prop where
  keys : ∀ m ∈ members, IsKey m.1
  role : ∃ s, s ≠ "" ∧ given members role = some (.str s)
  identifier : OptionalText (given members identifier)
  className : OptionalText (given members className)
  label : OptionalText (given members label)
  matchType : given members matchType = none ∨
    ∃ t : MatchType, given members matchType = some (.str t.spelling)
  compiles : ∀ s ∈ (values members).regexTexts, Regex.Compiles s

/-- A record that describes a pattern: it is in order itself, and so are the records inside. -/
inductive WellFormed : Json → Prop
  | record {members : Members} : OwnFields members → OptionalItems (given members children) →
      (∀ item ∈ inside members, WellFormed item) → WellFormed (.object members)

/-- A pattern carries the values of a record, and its inner patterns those of the records inside. -/
inductive Carries : Json → Pattern → Prop
  | record {members : Members} {inner : List Pattern} : List.Forall₂ Carries (inside members) inner →
      Carries (.object members) (.node (values members) inner)

-- ── records whose reading is settled ──────────────────────────────────────

/-- No field is given under two spellings. -/
def SpelledOnce (members : Members) (field : List String) : Prop :=
  ∀ a ∈ field, ∀ b ∈ field, a ∈ members.map (·.1) → b ∈ members.map (·.1) → a = b

/-- Data in which records stand at most so many levels deep, the index of each is nothing or a
    whole number, and none has a field under two spellings. -/
inductive Plain : Nat → Json → Prop
  | record {levels : Nat} {members : Members} :
      (∀ v, given members index = some v → v = .null ∨ ∃ n, v = .int n) →
      (∀ field ∈ fields, SpelledOnce members field) →
      (∀ item ∈ inside members, Plain levels item) → Plain (levels + 1) (.object members)
  | other {levels : Nat} {j : Json} : (∀ members, j ≠ .object members) → Plain levels j

-- ── spellings ─────────────────────────────────────────────────────────────

/-- The first spelling of the field that a key names. -/
def spelledKey (key : String) : String :=
  if key = "class_name" then "className" else if key = "match_type" then "matchType" else key

mutual

/-- Data with every key in its first spelling. -/
def spelled : Json → Json
  | .list items => .list (spelledItems items)
  | .object members => .object (spelledMembers members)
  | j => j

/-- List items with every key in its first spelling. -/
def spelledItems : List Json → List Json
  | [] => []
  | j :: rest => spelled j :: spelledItems rest

/-- Members with every key in its first spelling. -/
def spelledMembers : List (String × Json) → List (String × Json)
  | [] => []
  | (k, j) :: rest => (spelledKey k, spelled j) :: spelledMembers rest

end

/-- Data that differs at most in which of its spellings each key uses. -/
def Respelled (j k : Json) : Prop := spelled j = spelled k

theorem spelledItems_eq_map (items : List Json) : spelledItems items = items.map spelled := by
  induction items with
  | nil => rfl
  | cons j rest ih => rw [spelledItems, ih, List.map_cons]

theorem spelledMembers_eq_map (members : Members) :
    spelledMembers members = members.map fun m => (spelledKey m.1, spelled m.2) := by
  induction members with
  | nil => rfl
  | cons m rest ih => rw [spelledMembers, ih, List.map_cons]

/-- The first spelling names the same field. -/
theorem spelledKey_mem_iff {field : List String} (hfield : field ∈ fields) (key : String) :
    spelledKey key ∈ field ↔ key ∈ field := by
  rw [spelledKey]
  split
  · rename_i hkey
    rw [hkey]
    revert field
    decide
  · split
    · rename_i hkey
      rw [hkey]
      revert field
      decide
    · exact Iff.rfl

/-- The value of a field does not depend on how its key is spelled. -/
theorem given_spelledMembers {field : List String} (hfield : field ∈ fields) (members : Members) :
    given (spelledMembers members) field = (given members field).map spelled := by
  rw [spelledMembers_eq_map, given, given, member?, member?, List.find?_map, Option.map_map, Option.map_map]
  congr 1
  refine congrArg (fun p => members.find? p) ?_
  funext m
  exact Bool.eq_iff_iff.mpr (by
    rw [Function.comp, List.contains_iff_mem, List.contains_iff_mem]
    exact spelledKey_mem_iff hfield m.1)

-- ── records are the same in any spelling ──────────────────────────────────

section Values

variable (v : Option Json)

theorem textOf_spelled : textOf (v.map spelled) = textOf v := by
  rcases v with _ | (_ | _ | _ | _ | _ | _ | _) <;> rfl

theorem wholeOf_spelled : wholeOf (v.map spelled) = wholeOf v := by
  rcases v with _ | (_ | _ | _ | _ | _ | _ | _) <;> rfl

theorem itemsOf_spelled : itemsOf (v.map spelled) = (itemsOf v).map spelled := by
  rcases v with _ | (_ | _ | _ | _ | _ | items | _)
  case some.list => exact spelledItems_eq_map items
  all_goals rfl

theorem eq_text_iff_spelled (s : String) : v.map spelled = some (.str s) ↔ v = some (.str s) := by
  rcases v with _ | (_ | _ | _ | _ | _ | _ | _) <;> simp [spelled]

theorem optionalText_spelled : OptionalText (v.map spelled) ↔ OptionalText v := by
  rcases v with _ | (_ | _ | _ | _ | _ | _ | _) <;> simp [OptionalText, spelled]

theorem optionalItems_spelled : OptionalItems (v.map spelled) ↔ OptionalItems v := by
  rcases v with _ | (_ | _ | _ | _ | _ | _ | _) <;>
    simp [OptionalItems, spelled, spelledItems_eq_map]

end Values

section Members

variable (members : Members)

theorem values_spelledMembers : values (spelledMembers members) = values members := by
  simp only [values]
  rw [given_spelledMembers (by decide), given_spelledMembers (by decide), given_spelledMembers (by decide),
    given_spelledMembers (by decide), given_spelledMembers (by decide), given_spelledMembers (by decide)]
  simp only [textOf_spelled, wholeOf_spelled]

theorem inside_spelledMembers : inside (spelledMembers members) = (inside members).map spelled := by
  rw [inside, given_spelledMembers (by decide), itemsOf_spelled, inside]

theorem isKey_spelledKey (key : String) : IsKey (spelledKey key) ↔ IsKey key :=
  exists_congr fun _ => and_congr_right fun hfield => spelledKey_mem_iff hfield key

theorem ownFields_spelledMembers : OwnFields (spelledMembers members) ↔ OwnFields members := by
  have hkeys : (∀ m ∈ spelledMembers members, IsKey m.1) ↔ ∀ m ∈ members, IsKey m.1 := by
    rw [spelledMembers_eq_map, List.forall_mem_map]
    exact forall₂_congr fun m _ => isKey_spelledKey m.1
  rw [ownFields_iff, ownFields_iff, hkeys, values_spelledMembers, given_spelledMembers (by decide),
    given_spelledMembers (by decide), given_spelledMembers (by decide), given_spelledMembers (by decide),
    given_spelledMembers (by decide)]
  simp only [eq_text_iff_spelled, optionalText_spelled, Option.map_eq_none_iff]

end Members

theorem eq_object_of_spelled {j : Json} {others : Members} (h : spelled j = .object others) :
    ∃ members, j = .object members ∧ others = spelledMembers members := by
  cases j with
  | object members =>
      rw [spelled] at h
      exact ⟨members, rfl, (Json.object.inj h).symm⟩
  | _ => exact nomatch h

/-- A record is as well formed as it is in first spellings. -/
theorem wellFormed_spelled (j : Json) : WellFormed (spelled j) ↔ WellFormed j := by
  constructor
  · intro h
    generalize hk : spelled j = k at h
    induction h generalizing j with
    | @record others hown hitems _ ih =>
        obtain ⟨members, rfl, rfl⟩ := eq_object_of_spelled hk
        rw [given_spelledMembers (by decide), optionalItems_spelled] at hitems
        refine .record ((ownFields_spelledMembers members).mp hown) hitems ?_
        intro item hitem
        refine ih (spelled item) ?_ item rfl
        rw [inside_spelledMembers]
        exact List.mem_map_of_mem hitem
  · intro h
    induction h with
    | @record members hown hitems _ ih =>
        rw [spelled]
        refine .record ((ownFields_spelledMembers members).mpr hown) ?_ ?_
        · rw [given_spelledMembers (by decide), optionalItems_spelled]
          exact hitems
        · rw [inside_spelledMembers, List.forall_mem_map]
          exact ih

-- ── patterns that carry records ───────────────────────────────────────────

theorem carries_object_iff {members : Members} {p : Pattern} :
    Carries (.object members) p ↔ ∃ inner, List.Forall₂ Carries (inside members) inner ∧
      p = .node (values members) inner := by
  constructor
  · rintro ⟨hinner⟩
    exact ⟨_, hinner, rfl⟩
  · rintro ⟨inner, hinner, rfl⟩
    exact .record hinner

theorem exists_forall₂ {α β : Type} {R : α → β → Prop} :
    ∀ {l : List α}, (∀ a ∈ l, ∃ b, R a b) → ∃ u, List.Forall₂ R l u
  | [], _ => ⟨[], .nil⟩
  | a :: l, h => by
      obtain ⟨b, hb⟩ := h a List.mem_cons_self
      obtain ⟨u, hu⟩ := exists_forall₂ fun c hc => h c (List.mem_cons_of_mem a hc)
      exact ⟨b :: u, .cons hb hu⟩

theorem forall₂_congr_of_mem {α β : Type} {R S : α → β → Prop} {l : List α} {u : List β}
    (h : ∀ a ∈ l, ∀ b, R a b ↔ S a b) : List.Forall₂ R l u ↔ List.Forall₂ S l u := by
  induction l generalizing u with
  | nil => rw [List.forall₂_nil_left_iff, List.forall₂_nil_left_iff]
  | cons a l ih =>
      have hrest (u : List β) := ih (u := u) fun c hc => h c (List.mem_cons_of_mem a hc)
      simp only [List.forall₂_cons_left_iff, h a List.mem_cons_self, hrest]

/-- Some pattern carries the values of a record. -/
theorem WellFormed.exists_carries {j : Json} (h : WellFormed j) : ∃ p, Carries j p := by
  induction h with
  | record _ _ _ ih =>
      obtain ⟨inner, hinner⟩ := exists_forall₂ ih
      exact ⟨_, .record hinner⟩

/-- A pattern carries the values of a record in any spelling. -/
theorem WellFormed.carries_spelled {j : Json} (h : WellFormed j) (p : Pattern) :
    Carries (spelled j) p ↔ Carries j p := by
  induction h generalizing p with
  | @record members _ _ _ ih =>
      rw [spelled, carries_object_iff, carries_object_iff, values_spelledMembers, inside_spelledMembers]
      simp only [List.forall₂_map_left_iff, forall₂_congr_of_mem ih]

/-- **A RECORD IS THE SAME IN ANY SPELLING**: as well formed, and carried by the same patterns. -/
theorem WellFormed.respelled {j k : Json} (h : WellFormed j) (hk : Respelled j k) :
    WellFormed k ∧ ∀ p, Carries j p → Carries k p := by
  have hformed : WellFormed k := by
    rw [← wellFormed_spelled, ← hk, wellFormed_spelled]
    exact h
  refine ⟨hformed, fun p hp => ?_⟩
  rw [← hformed.carries_spelled, ← hk, h.carries_spelled]
  exact hp

end ElementLocator.Record
