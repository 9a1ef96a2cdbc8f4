import ElementLocator.Config.Reader
import ElementLocator.Proofs.Outcome
import ElementLocator.Proofs.PatternReading
import Mathlib.Data.List.Forall2

/-! # What a configuration says of its document

    A configuration is read record by record. Where that succeeds it says what the document
    says: the applications in order, each with its elements, and for each element the pattern
    that its value is accepted as.

    Names of elements may be given as bytes, which count as the text that they encode. Two keys
    can thus give the same name; the element then stands where the first of them does, with the
    pattern of the last.

    * `Document` — what the entries of a document say, without any reading;
    * `AppConfig.of_readElements`, `AppConfig.of_ofEntries` — an accepted record comes from
      entries that each give a name and an accepted pattern;
    * `Config.shows_of_readApps`, `Config.outcome_readApps_append` — records are read one by one,
      and a document part by part. -/

namespace ElementLocator

-- ── what a document says ──────────────────────────────────────────────────

namespace Document

/-- The record of an application: what stands under its name. -/
def recordOf? (entries : List (Value × Value)) (app : String) : Option Value :=
  (Validation.field? entries [app]).map (·.2)

/-- The elements among the entries of a record. -/
def elementsIn (record : List (Value × Value)) : List (Value × Value) :=
  ((Validation.field? record ["elements"]).bind (·.2.entries?)).getD []

/-- The elements of a record; none where it does not have them. -/
def elementsOf (record : Value) : List (Value × Value) := (record.entries?.map elementsIn).getD []

/-- The name that a key gives. -/
def nameOf? (key : Value) : Option String := (Validation.text key).toOption

/-- The names of elements, each where it first stands. -/
def namesOf (elements : List (Value × Value)) : List String :=
  (elements.filterMap fun e => nameOf? e.1).eraseDups

/-- The value of an element: what stands last under its name. -/
def valueOf? (elements : List (Value × Value)) (name : String) : Option Value :=
  (elements.reverse.find? fun e => nameOf? e.1 == some name).map (·.2)

end Document

namespace AppConfig

-- ── named patterns ────────────────────────────────────────────────────────

theorem any_iff_mem {elements : List (String × Pattern)} {name : String} :
    elements.any (·.1 == name) = true ↔ name ∈ elements.map (·.1) := by
  simp only [List.any_eq_true, List.mem_map, beq_iff_eq]

/-- A pattern that is put in place of another has its name. -/
theorem fst_replaced (name : String) (p : Pattern) (e : String × Pattern) :
    (if e.1 == name then (name, p) else e).1 = e.1 := by
  split
  · rename_i he
    exact (beq_iff_eq.mp he).symm
  · rfl

/-- A name keeps its first place. -/
theorem map_fst_putElement (elements : List (String × Pattern)) (name : String) (p : Pattern) :
    (putElement elements name p).map (·.1) =
      elements.map (·.1) ++ if name ∈ elements.map (·.1) then [] else [name] := by
  rw [putElement]
  by_cases h : name ∈ elements.map (·.1)
  · rw [if_pos (any_iff_mem.mpr h), if_pos h, List.append_nil, List.map_map]
    exact List.map_congr_left fun e _ => fst_replaced name p e
  · rw [if_neg fun hany => h (any_iff_mem.mp hany), if_neg h, List.map_append]
    rfl

theorem find?_replaced (elements : List (String × Pattern)) (name : String) (p : Pattern) (other : String) :
    (elements.map fun e => if e.1 == name then (name, p) else e).find? (·.1 == other) =
      (elements.find? (·.1 == other)).map fun e => if e.1 == name then (name, p) else e := by
  rw [List.find?_map]
  have hsame : ((fun e : String × Pattern => e.1 == other) ∘
      fun e => if e.1 == name then (name, p) else e) = fun e => e.1 == other :=
    funext fun e => congrArg (· == other) (fst_replaced name p e)
  rw [hsame]

theorem find?_eq_none_of_not_mem {elements : List (String × Pattern)} {name : String}
    (h : name ∉ elements.map (·.1)) : elements.find? (·.1 == name) = none := by
  refine List.find?_eq_none.mpr fun e he hsame => h ?_
  exact List.mem_map.mpr ⟨e, he, beq_iff_eq.mp hsame⟩

/-- A name stands for the pattern that was put last. -/
theorem find?_putElement (elements : List (String × Pattern)) (name : String) (p : Pattern)
    (other : String) :
    (putElement elements name p).find? (·.1 == other) =
      if name = other then some (name, p) else elements.find? (·.1 == other) := by
  rw [putElement]
  by_cases h : name ∈ elements.map (·.1)
  · rw [if_pos (any_iff_mem.mpr h), find?_replaced]
    cases hf : elements.find? (·.1 == other) with
    | none =>
        have hother : name ≠ other := by
          rintro rfl
          obtain ⟨e, he, hname⟩ := List.mem_map.mp h
          exact List.find?_eq_none.mp hf e he (beq_iff_eq.mpr hname)
        rw [if_neg hother]
        rfl
    | some e =>
        rw [Option.map_some, fst_eq_of_find? hf]
        by_cases hother : name = other
        · rw [if_pos hother, if_pos (beq_iff_eq.mpr hother.symm)]
        · rw [if_neg hother, if_neg fun hsame => hother (beq_iff_eq.mp hsame).symm]
  · rw [if_neg fun hany => h (any_iff_mem.mp hany), List.find?_append, List.find?_singleton]
    by_cases hother : name = other
    · rw [find?_eq_none_of_not_mem (hother ▸ h), if_pos hother, if_pos (beq_iff_eq.mpr hother)]
      rfl
    · rw [if_neg hother, if_neg fun hsame => hother (beq_iff_eq.mp hsame), Option.or_none]

/-- Puts patterns under their names, one after the other. -/
def putElements (done named : List (String × Pattern)) : List (String × Pattern) :=
  named.foldl (fun es e => putElement es e.1 e.2) done

theorem map_fst_putElements {done named : List (String × Pattern)} {names : List String}
    (h : done.map (·.1) = names.eraseDups) :
    (putElements done named).map (·.1) = (names ++ named.map (·.1)).eraseDups := by
  induction named generalizing done names with
  | nil =>
      rw [List.map_nil, List.append_nil]
      exact h
  | cons e rest ih =>
      have hput : (putElement done e.1 e.2).map (·.1) = (names ++ [e.1]).eraseDups := by
        rw [map_fst_putElement, h, List.eraseDups_append]
        by_cases hmem : e.1 ∈ names
        · rw [if_pos (List.mem_eraseDups.mpr hmem)]
          simp [List.removeAll, hmem]
        · rw [if_neg fun hin => hmem (List.mem_eraseDups.mp hin)]
          simp [List.removeAll, hmem, List.eraseDups_cons]
      rw [List.map_cons, List.append_cons]
      exact ih hput

theorem find?_putElements (done named : List (String × Pattern)) (name : String) :
    (putElements done named).find? (·.1 == name) =
      (named.reverse.find? (·.1 == name)).or (done.find? (·.1 == name)) := by
  induction named generalizing done with
  | nil => rfl
  | cons e rest ih =>
      show (putElements (putElement done e.1 e.2) rest).find? _ = _
      rw [ih, find?_putElement, List.reverse_cons, List.find?_append, List.find?_singleton, Option.or_assoc]
      by_cases h : e.1 = name
      · rw [if_pos h, if_pos (beq_iff_eq.mpr h)]
        rfl
      · rw [if_neg h, if_neg fun hsame => h (beq_iff_eq.mp hsame)]
        rfl

-- ── readings ──────────────────────────────────────────────────────────────

theorem explains_text (v : Value) : (Validation.text v).Explains := by
  cases v with
  | text s => exact Checked.explains_ok s
  | bytes bs =>
      rw [Validation.text]
      split
      · exact Checked.explains_ok _
      · exact Checked.explains_refuse _
  | _ => exact Checked.explains_refuse _

/-- An entry gives a name and an accepted pattern. -/
def Gives (entry : Value × Value) (named : String × Pattern) : Prop :=
  Validation.text entry.1 = .ok named.1 ∧
    Pattern.read [] (Validation.deepest - 1) entry.2 = .ok (.ok named.2)

/-- Elements are read only if each entry gives a name and a pattern; these are put in order. -/
theorem of_readElements {done es : List (String × Pattern)} {errors : List FieldError}
    {entries : List (Value × Value)} (h : readElements done errors entries = .ok (.ok es)) :
    errors = [] ∧ ∃ named, List.Forall₂ Gives entries named ∧ es = putElements done named := by
  induction entries generalizing done errors with
  | nil =>
      cases errors with
      | nil => exact ⟨rfl, [], .nil, (Except.ok.inj (Except.ok.inj h)).symm⟩
      | cons e rest => exact nomatch Except.ok.inj h
  | cons entry rest ih =>
      obtain ⟨k, v⟩ := entry
      rw [readElements] at h
      cases hread : Pattern.read [] (Validation.deepest - 1) v with
      | error i =>
          rw [hread] at h
          exact nomatch h
      | ok checked =>
          rw [hread] at h
          -- an entry that fails adds an error, which the rest of the reading cannot take back
          cases hname : Validation.text k with
          | error es =>
              rw [hname] at h
              have hnone := List.map_eq_nil_iff.mp (List.append_eq_nil_iff.mp (ih h).1).2
              have hes := List.map_eq_nil_iff.mp (List.append_eq_nil_iff.mp hnone).1
              exact absurd hname (hes ▸ explains_text k)
          | ok name =>
              rw [hname] at h
              cases checked with
              | error es =>
                  have hes := List.map_eq_nil_iff.mp (List.append_eq_nil_iff.mp (ih h).1).2
                  exact absurd (congrArg Except.error hes) (Pattern.explains_of_read hread)
              | ok p =>
                  obtain ⟨hnone, named, hnamed, hes⟩ := ih h
                  exact ⟨hnone, (name, p) :: named, .cons ⟨hname, hread⟩ hnamed, hes⟩

theorem explains_of_readElements {done : List (String × Pattern)} {errors : List FieldError}
    {entries : List (Value × Value)} {c : Checked (List (String × Pattern))}
    (h : readElements done errors entries = .ok c) : c.Explains := by
  induction entries generalizing done errors with
  | nil =>
      rw [readElements] at h
      rw [← Except.ok.inj h]
      exact Checked.explains_orErrors done errors
  | cons entry rest ih =>
      obtain ⟨k, v⟩ := entry
      rw [readElements] at h
      split at h
      · exact nomatch h
      · dsimp only at h
        split at h
        · exact ih h
        · exact ih h

theorem explains_of_readElementMap {given : Option (String × Value)}
    {c : Checked (List (String × Pattern))}
    (h : (given.elim (.ok (.ok [])) fun g => readElementMap g.2) = .ok c) : c.Explains := by
  cases given with
  | none =>
      rw [← Except.ok.inj h]
      exact Checked.explains_ok []
  | some g =>
      rw [Option.elim_some, readElementMap] at h
      split at h
      · exact explains_of_readElements h
      · rw [← Except.ok.inj h]
        exact Checked.explains_refuse _

/-- The elements of a record that was accepted are those that its entries give. -/
theorem of_readElementMap {record : List (Value × Value)} {es : List (String × Pattern)}
    (h : ((Validation.field? record ["elements"]).elim (.ok (.ok [])) fun g => readElementMap g.2) =
      .ok (.ok es)) :
    ∃ named, List.Forall₂ Gives (Document.elementsIn record) named ∧ es = putElements [] named := by
  rw [Document.elementsIn]
  cases hgiven : Validation.field? record ["elements"] with
  | none =>
      rw [hgiven] at h
      exact ⟨[], .nil, (Except.ok.inj (Except.ok.inj h)).symm⟩
  | some g =>
      rw [hgiven, Option.elim_some, readElementMap] at h
      rw [Option.bind_some]
      cases hentries : g.2.entries? with
      | none =>
          rw [hentries] at h
          exact nomatch Except.ok.inj h
      | some entries =>
          rw [hentries] at h
          exact (of_readElements h).2

/-- The name that is added to a record leaves its elements alone. -/
theorem field?_elements_append (record : List (Value × Value)) (app : String) :
    Validation.field? (record ++ [(.text "app_name", .text app)]) ["elements"] =
      Validation.field? record ["elements"] := by
  rw [Validation.field?_append,
    Validation.field?_cons_of_ne fun heq => absurd (Value.text.inj heq) (by decide)]
  exact Option.or_none

/-- An accepted record that does not set the name: it has the name it was given, and the elements
    that its entries give. -/
theorem of_ofEntries {record : List (Value × Value)} {app : String} {a : AppConfig}
    (hname : Validation.field? record ["app_name"] = none)
    (h : ofEntries (record ++ [(.text "app_name", .text app)]) = .ok (.ok a)) :
    a.name = app ∧ ∃ named, List.Forall₂ Gives (Document.elementsIn record) named ∧
      a.elements = putElements [] named := by
  have happ : Validation.field? (record ++ [(.text "app_name", .text app)]) ["app_name"] =
      some ("app_name", .text app) := by
    rw [Validation.field?_append, hname, Validation.field?_cons_self]
    rfl
  rw [ofEntries] at h
  dsimp only at h
  rw [Criteria.readField, happ, field?_elements_append] at h
  split at h
  · exact nomatch h
  · rename_i elements hread
    obtain ⟨hnone, rfl⟩ := Checked.of_orErrors (Except.ok.inj h)
    simp only [List.append_eq_nil_iff] at hnone
    obtain ⟨es, rfl⟩ := Checked.eq_ok_of_below (explains_of_readElementMap hread) hnone.1.2
    exact ⟨rfl, of_readElementMap hread⟩

end AppConfig

namespace Config

variable {ν : Type}

/-- What was read of a record: it stands under its name, has that name, and has the elements
    that its entries give. -/
def Shows (entry : Value × Value) (app : String × AppConfig) : Prop :=
  entry.1 = .text app.1 ∧ app.2.name = app.1 ∧
    ∃ named, List.Forall₂ AppConfig.Gives (Document.elementsOf entry.2) named ∧
      app.2.elements = AppConfig.putElements [] named

theorem shows_of_readApp {source : String} {key record : Value} {app : String × AppConfig}
    (h : (readApp source key record : Task ν (String × AppConfig)).outcome = .ok app) :
    Shows (key, record) app := by
  simp only [readApp] at h
  split at h
  · split at h
    · exact nomatch h
    · rename_i entries hentries
      split at h
      · exact nomatch h
      · rename_i habsent
        split at h
        · exact nomatch h
        · rename_i config hread
          rw [← Except.ok.inj h]
          obtain ⟨hname, named, hnamed, helements⟩ :=
            AppConfig.of_ofEntries (Option.not_isSome_iff_eq_none.mp habsent) hread
          refine ⟨rfl, hname, named, ?_, helements⟩
          rw [Document.elementsOf, hentries]
          exact hnamed
        · exact nomatch h
  · split at h
    · exact nomatch h
    · exact nomatch h

/-- **RECORDS ARE READ ONE BY ONE**, each under its own name. -/
theorem shows_of_readApps {source : String} {entries : List (Value × Value)}
    {apps : List (String × AppConfig)}
    (h : (readApps source entries : Task ν (List (String × AppConfig))).outcome = .ok apps) :
    List.Forall₂ Shows entries apps := by
  induction entries generalizing apps with
  | nil =>
      rw [← Except.ok.inj h]
      exact .nil
  | cons entry rest ih =>
      obtain ⟨k, v⟩ := entry
      rw [readApps] at h
      obtain ⟨first, hfirst, h⟩ := Report.outcome_bind_eq_ok h
      obtain ⟨others, hothers, h⟩ := Report.outcome_bind_eq_ok h
      rw [← Except.ok.inj h]
      exact .cons (shows_of_readApp hfirst) (ih hothers)

/-- Reading one part of a document and then another: the first that fails decides. -/
def joined {α : Type} : Except Failure (List α) → Except Failure (List α) → Except Failure (List α)
  | .error e, _ => .error e
  | .ok _, .error e => .error e
  | .ok first, .ok second => .ok (first ++ second)

/-- **A DOCUMENT IS READ PART BY PART**: the first part that cannot be read ends the reading. -/
theorem outcome_readApps_append (source : String) (xs ys : List (Value × Value)) :
    (readApps source (xs ++ ys) : Task ν (List (String × AppConfig))).outcome =
      joined (readApps source xs : Task ν (List (String × AppConfig))).outcome
        (readApps source ys : Task ν (List (String × AppConfig))).outcome := by
  induction xs with
  | nil =>
      rw [List.nil_append, show (readApps source [] : Task ν _).outcome = .ok [] from rfl]
      cases (readApps source ys : Task ν (List (String × AppConfig))).outcome with
      | error e => rfl
      | ok others => rfl
  | cons x xs ih =>
      obtain ⟨k, v⟩ := x
      rw [List.cons_append, readApps, readApps, Report.outcome_bind, Report.outcome_bind]
      cases (readApp source k v : Task ν (String × AppConfig)).outcome with
      | error e => rfl
      | ok first =>
          dsimp only [Except.bind]
          rw [Report.outcome_bind, Report.outcome_bind, ih]
          cases (readApps source xs : Task ν (List (String × AppConfig))).outcome with
          | error e => rfl
          | ok apps =>
              cases (readApps source ys : Task ν (List (String × AppConfig))).outcome with
              | error e => rfl
              | ok others => rfl

/-- A document is read as its records are. -/
theorem outcome_ofValue {document : Value} {entries : List (Value × Value)} (source : String)
    (h : document.unmarked = .mapping entries) :
    (ofValue source document : Task ν Config).outcome =
      (readApps source entries : Task ν (List (String × AppConfig))).outcome.map Config.mk := by
  rw [ofValue, h]
  dsimp only
  rw [Report.outcome_bind]
  cases (readApps source entries : Task ν (List (String × AppConfig))).outcome with
  | error e => rfl
  | ok apps => rfl

end Config

end ElementLocator
