import ElementLocator.Check
import ElementLocator.Proofs.ConfigReading
import ElementLocator.Proofs.SearchAnswers

/-! # What checks answer

    A check resolves one element after the other. The library's own errors become results, so
    that a check ends early only where a search does for another reason.

    * `outcome_checkElement`, `outcome_checkElements` — a check by the way its queries end;
    * `Config.accepted_of_ofValue` — the patterns of a configuration were accepted;
    * `checkElements_ends` — where no read fails and the limit reaches the bottom, a check has
      results, save for an application without a configuration whose names are asked for, and
      for a match that has no answer. -/

namespace ElementLocator

-- ── configurations ────────────────────────────────────────────────────────

/-- A pattern that was read from a value, with some number of levels to go. -/
def Pattern.Accepted (p : Pattern) : Prop := ∃ v levels, Pattern.read [] levels v = .ok (.ok p)

theorem Pattern.Accepted.compiled {p : Pattern} (h : p.Accepted) : p.Compiled := by
  obtain ⟨v, levels, h⟩ := h
  exact compiled_of_read h

/-- A configuration whose patterns were all accepted. -/
def Config.Accepted (c : Config) : Prop :=
  ∀ app element p, c.pattern? app element = some p → p.Accepted

namespace AppConfig

/-- Elements whose patterns were all accepted. -/
def AllAccepted (elements : List (String × Pattern)) : Prop := ∀ e ∈ elements, e.2.Accepted

theorem allAccepted_nil : AllAccepted [] := fun _ he => nomatch he

theorem AllAccepted.putElement {elements : List (String × Pattern)} (h : AllAccepted elements)
    (name : String) {p : Pattern} (hp : p.Accepted) : AllAccepted (putElement elements name p) := by
  intro e he
  rw [AppConfig.putElement] at he
  split at he
  · obtain ⟨e', he', rfl⟩ := List.mem_map.mp he
    split
    · exact hp
    · exact h e' he'
  · rcases List.mem_append.mp he with he | he
    · exact h e he
    · rw [List.mem_singleton.mp he]
      exact hp

/-- Putting patterns that were read under their names leaves accepted patterns only. -/
theorem allAccepted_putElements {elements : List (Value × Value)} {done named : List (String × Pattern)}
    (hdone : AllAccepted done) (h : List.Forall₂ Gives elements named) :
    AllAccepted (putElements done named) := by
  induction h generalizing done with
  | nil => exact hdone
  | cons hgives _ ih => exact ih (hdone.putElement _ ⟨_, _, hgives.2⟩)

end AppConfig

namespace Config

variable {ν : Type}

theorem allAccepted_of_shows {entries : List (Value × Value)} {apps : List (String × AppConfig)}
    (h : List.Forall₂ Shows entries apps) : ∀ a ∈ apps, AppConfig.AllAccepted a.2.elements := by
  induction h with
  | nil => exact fun _ ha => nomatch ha
  | cons hshows _ ih =>
      obtain ⟨-, -, named, hnamed, helements⟩ := hshows
      intro a ha
      rcases List.mem_cons.mp ha with rfl | ha
      · rw [helements]
        exact AppConfig.allAccepted_putElements AppConfig.allAccepted_nil hnamed
      · exact ih a ha

theorem accepted_of_allAccepted {apps : List (String × AppConfig)}
    (h : ∀ a ∈ apps, AppConfig.AllAccepted a.2.elements) : (⟨apps⟩ : Config).Accepted := by
  intro app element p hp
  rw [pattern?, app?] at hp
  dsimp only at hp
  split at hp
  · rename_i a ha
    obtain ⟨entry, hentry, rfl⟩ := Option.map_eq_some_iff.mp ha
    rw [AppConfig.pattern?] at hp
    obtain ⟨e, he, rfl⟩ := Option.map_eq_some_iff.mp hp
    exact h entry (List.mem_of_find?_eq_some hentry) e (List.mem_of_find?_eq_some he)
  · exact nomatch hp

/-- **A CONFIGURATION THAT WAS READ** has accepted patterns only. -/
theorem accepted_of_ofValue {source : String} {document : Value} {c : Config}
    (h : (ofValue source document : Task ν Config).outcome = .ok c) : c.Accepted := by
  rw [ofValue] at h
  split at h
  · cases h
  · obtain ⟨apps, happs, h⟩ := Report.outcome_bind_eq_ok h
    rw [← Except.ok.inj h]
    exact accepted_of_allAccepted (allAccepted_of_shows (shows_of_readApps happs))
  · cases h

end Config

namespace TreeAccess

variable {ν : Type}

-- ── single checks ─────────────────────────────────────────────────────────

/-- The report of a query does not change how it ends. -/
theorem outcome_reported (q : Query) (task : Task ν (Option ν)) :
    (reported q task).outcome = task.outcome := by
  simp only [reported]
  split
  · rename_i node hnode
    exact hnode.symm
  · rename_i e he
    exact he.symm
  · rename_i f _ hf
    exact hf.symm

/-- What a check says of an element, by how the query for it ended. -/
def verdict (path : String) : Except Failure (Option ν) → Except Failure CheckResult
  | .ok (some _) => .ok ⟨path, true, none, none⟩
  | .ok none => .ok ⟨path, false, some notFoundMessage, none⟩
  | .error (.error e) => .ok ⟨path, false, some e.message, e.code⟩
  | .error f => .error f

theorem outcome_checkElement (access : TreeAccess ν) (limit : DepthLimit) (config : Config)
    (app element : String) (root : ν) :
    (access.checkElement limit config app element root).outcome =
      verdict s!"{app}.{element}" (access.resolve limit config app element root).outcome := by
  simp only [checkElement]
  rw [Report.outcome_bind_of_ok (Report.outcome_attempt _)]
  cases (access.resolve limit config app element root).outcome with
  | ok found => cases found <;> rfl
  | error f => cases f <;> rfl

/-- The names that a check goes through: those given, or all that the application has. -/
def namesToCheck (config : Config) (app : String) : Option (List String) → Except Failure (List String)
  | some names => .ok names
  | none =>
    match config.app? app with
    | some c => .ok c.elementNames
    | none => .error (.error ⟨.appUnknown app, []⟩)

theorem outcome_checkElements (access : TreeAccess ν) (limit : DepthLimit) (config : Config)
    (app : String) (root : ν) (names : Option (List String)) :
    (access.checkElements limit config app root names).outcome =
      (namesToCheck config app names).bind fun names =>
        (access.checkEach limit config app root names).outcome := by
  have heach (names : List String) :
      (access.checkEach limit config app root names >>= fun results =>
        Task.log .info "element_check_completed"
          [("app", .str app), ("checked", .int results.length),
            ("found", .int (results.countP (·.found)))] >>= fun _ => pure results).outcome =
        (access.checkEach limit config app root names).outcome := by
    rw [Report.outcome_bind]
    cases (access.checkEach limit config app root names).outcome <;> rfl
  simp only [checkElements]
  cases names with
  | some names => exact heach names
  | none =>
      simp only [namesToCheck, Config.elementNames]
      cases config.app? app with
      | none => rfl
      | some c => exact heach c.elementNames

theorem resolve_of_verdict {path : String} {x : Except Failure (Option ν)} {f : Failure}
    (h : verdict path x = .error f) : (∀ e, f ≠ .error e) ∧ x = .error f := by
  simp only [verdict] at h
  split at h
  · exact nomatch h
  · exact nomatch h
  · exact nomatch h
  · rename_i g hg
    cases Except.error.inj h
    exact ⟨hg, rfl⟩

/-- **A CHECK OF SEVERAL ELEMENTS** has a result for each, or ends in the first query that fails
    for a reason other than the library's own errors. -/
theorem checkEach_ends (access : TreeAccess ν) (limit : DepthLimit) (config : Config) (app : String)
    (root : ν) (names : List String) :
    (∃ results, (access.checkEach limit config app root names).outcome = .ok results) ∨
      ∃ element f, (∀ e, f ≠ .error e) ∧
        (access.resolve limit config app element root).outcome = .error f ∧
        (access.checkEach limit config app root names).outcome = .error f := by
  induction names with
  | nil => exact Or.inl ⟨[], rfl⟩
  | cons element rest ih =>
      simp only [checkEach]
      cases hverdict : (access.checkElement limit config app element root).outcome with
      | ok result =>
          rw [Report.outcome_bind_of_ok hverdict]
          rcases ih with ⟨results, hrest⟩ | ⟨element', f, hf, hresolve, hrest⟩
          · rw [Report.outcome_bind_of_ok hrest]
            exact Or.inl ⟨result :: results, rfl⟩
          · exact Or.inr ⟨element', f, hf, hresolve, Report.outcome_bind_of_error hrest _⟩
      | error f =>
          rw [outcome_checkElement] at hverdict
          obtain ⟨hf, hresolve⟩ := resolve_of_verdict hverdict
          rw [← outcome_checkElement] at hverdict
          exact Or.inr ⟨element, f, hf, hresolve, Report.outcome_bind_of_error hverdict _⟩

theorem outcome_requirePattern_eq_error {config : Config} {app element : String} {f : Failure}
    (h : (config.requirePattern app element : Task ν Pattern).outcome = .error f) :
    ∃ e, f = .error e := by
  rw [Config.requirePattern] at h
  split at h
  · exact ⟨_, (Except.error.inj h).symm⟩
  · split at h
    · exact ⟨_, (Except.error.inj h).symm⟩
    · exact nomatch h

theorem pattern?_of_requirePattern {config : Config} {app element : String} {p : Pattern}
    (h : (config.requirePattern app element : Task ν Pattern).outcome = .ok p) :
    config.pattern? app element = some p := by
  rw [Config.requirePattern] at h
  simp only [Config.pattern?]
  cases ha : config.app? app with
  | none =>
      rw [ha] at h
      exact nomatch h
  | some a =>
      rw [ha] at h
      dsimp only at h ⊢
      cases hp : a.pattern? element with
      | none =>
          rw [hp] at h
          exact nomatch h
      | some q =>
          rw [hp] at h
          rw [Except.ok.inj h]

/-- A query that fails otherwise than by the library's own errors does so in its search. -/
theorem search_of_resolve {access : TreeAccess ν} {limit : DepthLimit} {config : Config}
    {app element : String} {root : ν} {f : Failure} (hf : ∀ e, f ≠ .error e)
    (h : (access.resolve limit config app element root).outcome = .error f) :
    ∃ p, config.pattern? app element = some p ∧ (access.search limit p root).outcome = .error f := by
  rw [resolve] at h
  rw [outcome_reported] at h
  cases hp : (config.requirePattern app element : Task ν Pattern).outcome with
  | error g =>
      rw [Report.outcome_bind_of_error hp] at h
      obtain ⟨e, he⟩ := outcome_requirePattern_eq_error hp
      exact absurd (Except.error.inj h ▸ he) (hf e)
  | ok p =>
      rw [Report.outcome_bind_of_ok hp] at h
      refine ⟨p, pattern?_of_requirePattern hp, ?_⟩
      rw [resolvePattern] at h
      cases hsearch : (access.search limit p root).outcome with
      | error g =>
          rw [Report.outcome_bind_of_error hsearch] at h
          cases Except.error.inj h
          rfl
      | ok found =>
          rw [Report.outcome_bind_of_ok hsearch, Report.outcome_ofExcept] at h
          cases hselect : selectCandidate found p.criteria.index with
          | ok node =>
              rw [hselect] at h
              exact nomatch h
          | error e =>
              rw [hselect] at h
              exact absurd (Except.error.inj h).symm (hf e)

-- ── checks of trees in memory ─────────────────────────────────────────────

/-- The query for an element is interrupted: its pattern interrupts the search. -/
def QueryInterrupted (failing : List Nat → Option Injected) (limit : DepthLimit) (config : Config)
    (app : String) (start : Located) (element : String) (e : Failure) : Prop :=
  ∃ p, config.pattern? app element = some p ∧
    ((Tree.access failing).search limit p start).outcome = .error e ∧ p.Interrupts start.Shows e

/-- How a check of a tree ends: with results; without names, for an application that has no
    configuration; or in the interruption of the query for an element. -/
def CheckEnds (limit : DepthLimit) (config : Config) (app : String) (start : Located)
    (names : Option (List String)) (outcome : Except Failure (List CheckResult)) : Prop :=
  (∃ results, outcome = .ok results) ∨
    (names = none ∧ config.app? app = none ∧ outcome = .error (.error ⟨.appUnknown app, []⟩)) ∨
    ∃ element e, QueryInterrupted (fun _ => none) limit config app start element e ∧ outcome = .error e

/-- **A CHECK OF A TREE** that can be read to the bottom has results, unless no application is
    there to take the names from, or the pattern of an element interrupts its search. -/
theorem checkElements_ends {config : Config} (hconfig : config.Accepted) (limit : DepthLimit)
    (app : String) {n : Located} (hn : n.tree.height ≤ limit.levels) (names : Option (List String)) :
    CheckEnds limit config app n names
      ((Tree.access fun _ => none).checkElements limit config app n names).outcome := by
  rw [outcome_checkElements]
  cases hnames : namesToCheck config app names with
  | error f =>
      refine Or.inr (Or.inl ?_)
      simp only [namesToCheck] at hnames
      split at hnames
      · exact nomatch hnames
      · split at hnames
        · exact nomatch hnames
        · rename_i hconfig
          exact ⟨rfl, hconfig, by rw [← hnames]; rfl⟩
  | ok names' =>
      rcases checkEach_ends (Tree.access fun _ => none) limit config app n names' with
        ⟨results, h⟩ | ⟨element, f, hf, hresolve, h⟩
      · exact Or.inl ⟨results, h⟩
      · obtain ⟨p, hp, hsearch⟩ := search_of_resolve hf hresolve
        rcases search_succeeds_or_interrupted (hconfig app element p hp).compiled limit hn with
          ⟨found, hfound⟩ | ⟨e, he, hinterrupts⟩
        · rw [hfound] at hsearch
          exact nomatch hsearch
        · rw [he] at hsearch
          cases Except.error.inj hsearch
          exact Or.inr (Or.inr ⟨element, f, ⟨p, hp, he, hinterrupts⟩, h⟩)

end TreeAccess

end ElementLocator
