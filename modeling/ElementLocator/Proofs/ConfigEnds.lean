import ElementLocator.Proofs.ConfigReading
import ElementLocator.Proofs.RegexTexts

/-! # How reading a configuration ends

    A document that cannot be read as a configuration is malformed: the error names the source
    and says what is wrong. Two things end the reading in another way. A regular expression
    whose numbers are out of all bounds is no field error of its pattern, and a key that is a
    number with too many digits cannot be shown in the error that refuses it.

    * `Ends` — the four ways in which the reading of entries may end, each with its cause;
    * `reading_ends` — there is no other way, for any document. -/

namespace ElementLocator

namespace Document

/-- The texts that a record's patterns compare by regular expression. -/
def regexTextsOf (record : Value) : List String :=
  (elementsOf record).flatMap fun e => Pattern.regexTexts e.2

/-- The texts that the patterns of a document compare by regular expression. -/
def regexTexts (entries : List (Value × Value)) : List String :=
  entries.flatMap fun e => regexTextsOf e.2

end Document

-- ── records ───────────────────────────────────────────────────────────────

namespace AppConfig

variable {elements : List (Value × Value)}

/-- Where every entry gives a pattern, their texts compile. -/
theorem compiles_of_gives {named : List (String × Pattern)} (h : List.Forall₂ Gives elements named) :
    ∀ s ∈ elements.flatMap fun e => Pattern.regexTexts e.2, Regex.Compiles s := by
  induction h with
  | nil => exact fun _ hs => nomatch hs
  | @cons entry e rest others hgives _ ih =>
      intro s hs
      rw [List.flatMap_cons] at hs
      rcases List.mem_append.mp hs with hs | hs
      · have hsettles := Pattern.settles_read [] (Validation.deepest - 1) entry.2
        rw [hgives.2] at hsettles
        exact hsettles s hs
      · exact ih s hs

/-- Reading elements is interrupted by one of their texts. -/
theorem interrupts_of_readElements {done : List (String × Pattern)} {errors : List FieldError}
    {i : Interruption} (h : readElements done errors elements = .error i) :
    Regex.Interrupts (elements.flatMap fun e => Pattern.regexTexts e.2) i := by
  induction elements generalizing done errors with
  | nil => exact nomatch h
  | cons entry rest ih =>
      obtain ⟨k, v⟩ := entry
      have hsettles := Pattern.settles_read [] (Validation.deepest - 1) v
      rw [List.flatMap_cons]
      rw [readElements] at h
      split at h
      · rename_i j hread
        rw [hread, Except.error.inj h] at hsettles
        exact Regex.Interrupts.mono hsettles fun s hs => List.mem_append_left _ hs
      · dsimp only at h
        have hrest : Regex.Interrupts (rest.flatMap fun e => Pattern.regexTexts e.2) i := by
          split at h
          · exact ih h
          · exact ih h
        exact hrest.mono fun s hs => List.mem_append_right _ hs

theorem interrupts_of_readElementMap {record : List (Value × Value)} {i : Interruption}
    (h : ((Validation.field? record ["elements"]).elim (.ok (.ok [])) fun g => readElementMap g.2) =
      .error i) :
    Regex.Interrupts ((Document.elementsIn record).flatMap fun e => Pattern.regexTexts e.2) i := by
  rw [Document.elementsIn]
  cases hgiven : Validation.field? record ["elements"] with
  | none =>
      rw [hgiven] at h
      cases h
  | some g =>
      rw [hgiven, Option.elim_some, readElementMap] at h
      rw [Option.bind_some]
      cases hentries : g.2.entries? with
      | none =>
          rw [hentries] at h
          cases h
      | some entries =>
          rw [hentries] at h
          exact interrupts_of_readElements h

/-- **A RECORD THAT IS READ SETTLES ITS TEXTS**. -/
theorem settles_ofEntries {record : List (Value × Value)} (app : String)
    (hname : Validation.field? record ["app_name"] = none) :
    Settles ((Document.elementsIn record).flatMap fun e => Pattern.regexTexts e.2)
      (ofEntries (record ++ [(.text "app_name", .text app)])) := by
  cases h : ofEntries (record ++ [(.text "app_name", .text app)]) with
  | ok checked =>
      cases checked with
      | error es => exact trivial
      | ok a =>
          obtain ⟨-, named, hnamed, -⟩ := of_ofEntries hname h
          exact compiles_of_gives hnamed
  | error i =>
      rw [ofEntries] at h
      dsimp only at h
      rw [field?_elements_append] at h
      split at h
      · rename_i j hread
        rw [Except.error.inj h] at hread
        exact interrupts_of_readElementMap hread
      · cases h

end AppConfig

-- ── documents ─────────────────────────────────────────────────────────────

namespace Config

/-- How the reading of entries ends. -/
inductive Ends {α : Type} (source : String) (entries : List (Value × Value)) : Except Failure α → Prop
  /-- It succeeds, and every text that is compared by regular expression compiles. -/
  | read (a : α) (h : ∀ s ∈ Document.regexTexts entries, Regex.Compiles s) : Ends source entries (.ok a)
  /-- The document is malformed. -/
  | malformed (reason : String) (details : List (String × Json)) :
    Ends source entries (.error (.error ⟨.configMalformed source reason, details⟩))
  /-- A regular expression interrupts the reading. -/
  | expression {i : Interruption} (h : Regex.Interrupts (Document.regexTexts entries) i) :
    Ends source entries (.error (.interrupted i))
  /-- The name of an application is a number that cannot be shown. -/
  | number {k : Value} (hk : k ∈ entries.map (·.1)) (hlong : k.isTooLong = true) :
    Ends source entries (.error (.interrupted .numberTooLong))

variable {ν : Type} {source : String}

theorem ends_readApp (key record : Value) :
    Ends source [(key, record)] (readApp source key record : Task ν (String × AppConfig)).outcome := by
  have htexts : Document.regexTexts [(key, record)] = Document.regexTextsOf record := by
    rw [Document.regexTexts, List.flatMap_singleton]
  simp only [readApp]
  split
  · rename_i app
    split
    · exact .malformed _ _
    · rename_i entries hentries
      have hof : Document.regexTextsOf record =
          (Document.elementsIn entries).flatMap fun e => Pattern.regexTexts e.2 := by
        rw [Document.regexTextsOf, Document.elementsOf, hentries]
        rfl
      rw [hof] at htexts
      split
      · exact .malformed _ _
      · rename_i habsent
        have hsettles := AppConfig.settles_ofEntries app (Option.not_isSome_iff_eq_none.mp habsent)
        split
        · rename_i i hread
          rw [hread] at hsettles
          exact .expression (htexts ▸ hsettles)
        · rename_i config hread
          rw [hread] at hsettles
          exact .read _ (htexts ▸ hsettles)
        · exact .malformed _ _
  · split
    · rename_i hlong
      exact .number (List.mem_singleton_self key) hlong
    · exact .malformed _ _

/-- Entries that are read one after the other end as the first that fails. -/
theorem Ends.bind {α β : Type} {xs ys : List (Value × Value)} {x : Except Failure α}
    {f : α → Except Failure β} (hx : Ends source xs x) (hf : ∀ a, Ends source ys (f a)) :
    Ends source (xs ++ ys) (x.bind f) := by
  have htexts : Document.regexTexts (xs ++ ys) = Document.regexTexts xs ++ Document.regexTexts ys :=
    List.flatMap_append
  cases hx with
  | read a hfirst =>
      show Ends source (xs ++ ys) (f a)
      -- how the second part ends is an index of its type, which must be a variable to be split
      have hsecond := hf a
      revert hsecond
      generalize f a = y
      intro hsecond
      cases hsecond with
      | read b hsecond =>
          refine .read b fun s hs => ?_
          rw [htexts] at hs
          rcases List.mem_append.mp hs with hs | hs
          · exact hfirst s hs
          · exact hsecond s hs
      | malformed reason details => exact .malformed reason details
      | expression h => exact .expression (h.mono fun s hs => htexts ▸ List.mem_append_right _ hs)
      | number hk hlong =>
          refine .number ?_ hlong
          rw [List.map_append]
          exact List.mem_append_right _ hk
  | malformed reason details => exact .malformed reason details
  | expression h => exact .expression (h.mono fun s hs => htexts ▸ List.mem_append_left _ hs)
  | number hk hlong =>
      refine .number ?_ hlong
      rw [List.map_append]
      exact List.mem_append_left _ hk

theorem Ends.map {α β : Type} {entries : List (Value × Value)} {x : Except Failure α}
    (h : Ends source entries x) (f : α → β) : Ends source entries (x.map f) := by
  cases h with
  | read a h => exact .read (f a) h
  | malformed reason details => exact .malformed reason details
  | expression h => exact .expression h
  | number hk hlong => exact .number hk hlong

theorem ends_readApps (entries : List (Value × Value)) :
    Ends source entries (readApps source entries : Task ν (List (String × AppConfig))).outcome := by
  induction entries with
  | nil => exact .read [] fun _ hs => nomatch hs
  | cons entry rest ih =>
      obtain ⟨k, v⟩ := entry
      rw [readApps, Report.outcome_bind]
      refine (ends_readApp k v).bind fun first => ?_
      have hrest : (readApps source rest >>= fun others => pure (first :: others) : Task ν _).outcome =
          (readApps source rest : Task ν (List (String × AppConfig))).outcome.map (first :: ·) := by
        rw [Report.outcome_bind]
        cases (readApps source rest : Task ν (List (String × AppConfig))).outcome <;> rfl
      rw [hrest]
      exact ih.map _

/-- **A DOCUMENT IS READ, OR IS MALFORMED**, unless a regular expression interrupts the reading or
    the name of an application is a number that cannot be shown. -/
theorem reading_ends (source : String) (document : Value) :
    Ends source (document.entries?.getD []) (ofValue source document : Task ν Config).outcome := by
  cases h : document.unmarked with
  | mapping entries =>
      rw [outcome_ofValue source h, Value.entries?, h]
      exact (ends_readApps entries).map _
  | _ =>
      rw [ofValue, h]
      exact .malformed _ _

/-- A document with one element whose expression repeats a character too often to be counted. -/
def repeated : Value :=
  .mapping [(.text "App", .mapping [(.text "bundleId", .text "process"),
    (.text "elements", .mapping [(.text "element", .mapping [(.text "role", .text "R"),
      (.text "label", .text "x\x7b4294967296\x7d"), (.text "matchType", .text "regex")])])])]

/-- Whether a reading was interrupted. -/
def isInterrupted {α : Type} : Except Failure α → Bool
  | .error (.interrupted _) => true
  | _ => false

/-- A document need neither be read nor be malformed. -/
theorem reading_is_interrupted :
    ¬ ∀ (source : String) (document : Value),
      (∃ c, (ofValue source document : Task Unit Config).outcome = .ok c) ∨
        ∃ reason details, (ofValue source document : Task Unit Config).outcome =
          .error (.error ⟨.configMalformed source reason, details⟩) := by
  intro h
  have hend : isInterrupted (ofValue "<memory>" repeated : Task Unit Config).outcome = true := by
    decide +kernel
  rcases h "<memory>" repeated with ⟨c, hc⟩ | ⟨reason, details, hmalformed⟩
  · rw [hc] at hend
    exact nomatch hend
  · rw [hmalformed] at hend
    exact nomatch hend

end Config

end ElementLocator
