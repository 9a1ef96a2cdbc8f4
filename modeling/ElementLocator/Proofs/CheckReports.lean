import ElementLocator.Proofs.CheckAnswers

/-! # What checks report

    A check of several elements keeps them apart: what it says of one of them depends on its own
    query and on nothing that happened to the others. A tree that cannot be walked is no matter
    of a single element, though. Every search of the tree meets the same node first that offends,
    so that all configured elements are reported with the same error.

    * `query_ends` — a query answers, or fails with an error of the library that has a code, or
      is interrupted in its search;
    * `checkEach_answered`, `checkEach_interrupted` — the run over the names, from what the check
      of each of them gives;
    * `CheckInterrupted` — the first name whose query is interrupted ends the run as the query ends;
    * `checks_report` — the report of a check, for every tree, whichever of its reads fail;
    * `check_of_tree_without_results` — a match that has no answer leaves a check without report. -/

namespace ElementLocator

-- ── what a result says ────────────────────────────────────────────────────

/-- The result of an element whose query ended in an error. -/
def CheckResult.ofError (path : String) (e : LocatorError) : CheckResult :=
  ⟨path, false, some e.message, e.code⟩

/-- A result tells how the query for its element ended: the element was found; nothing matches it,
    which has no code; or there was an error. -/
structure CheckResult.Tells {ν : Type} (r : CheckResult) (path : String)
    (query : Except Failure (Option ν)) : Prop where
  found : r = ⟨path, true, none, none⟩ ↔ ∃ node, query = .ok (some node)
  missing : r = ⟨path, false, some notFoundMessage, none⟩ ↔ query = .ok none
  failed : (¬ ∃ answer, query = .ok answer) →
    ∃ e, query = .error (.error e) ∧ r = CheckResult.ofError path e

/-- The error of a query for an element that is not configured. -/
def Config.unconfigured (config : Config) (app element : String) : LocatorError :=
  match config.app? app with
  | none => ⟨.appUnknown app, []⟩
  | some _ => ⟨.elementUnknown app element, []⟩

theorem Config.code_unconfigured (config : Config) (app element : String) :
    (config.unconfigured app element).code =
      some (if (config.app? app).isSome then "ELEMENT_PATH_NOT_FOUND" else "APP_CONFIG_NOT_FOUND") := by
  rw [unconfigured]
  cases config.app? app <;> rfl

theorem Config.outcome_requirePattern {ν : Type} (config : Config) (app element : String) :
    (config.requirePattern app element : Task ν Pattern).outcome =
      match config.pattern? app element with
      | some p => .ok p
      | none => .error (.error (config.unconfigured app element)) := by
  rw [requirePattern, pattern?, unconfigured]
  cases config.app? app with
  | none => rfl
  | some a =>
      dsimp only
      cases a.pattern? element <;> rfl

/-- Reads that fail end in an error of the library, with a code, unless the status of the failure
    is that of a success. -/
theorem Located.searchFailure_eq_error {failing : List Nat → Option Injected}
    (hfailing : ∀ path i, failing path = some i → i.1 ≠ .success) (limit : Nat) (d : Located) :
    ∃ e c, searchFailure failing limit d = .error e ∧ e.code = some c := by
  rw [searchFailure]
  cases hf : failing d.path with
  | none => exact ⟨_, _, rfl, rfl⟩
  | some i =>
      refine ⟨⟨.access (.ofStatus i.1) i.1 ((AccessKind.ofStatus i.1).defaultReason.getD
        (AccessStatus.codeReason i.2.text)) i.2, []⟩, i.1.errorCode, ?_, rfl⟩
      show i.failure = _
      rw [Injected.failure, LocatorError.ofStatus?, if_neg (hfailing d.path i hf)]

-- ── inputs of the cases below ─────────────────────────────────────────────

namespace Sample

/-- A configuration of one application with one element. -/
def configOf (element : String) (p : Pattern) : Config :=
  ⟨[("app", ⟨"app", "process", [(element, p)]⟩)]⟩

theorem accepted_configOf (element : String) {v : Value} {p : Pattern}
    (hp : Pattern.ofValue v = .ok (.ok p)) : (configOf element p).Accepted := by
  refine Config.accepted_of_allAccepted ?_
  intro a ha e he
  cases List.mem_singleton.mp ha
  cases List.mem_singleton.mp he
  exact ⟨_, _, hp⟩

theorem status_of_failing (path : List Nat) (i : Injected) (h : failing path = some i) :
    i.1 ≠ .success := by
  unfold failing at h
  split at h
  · cases h
    decide
  · exact nomatch h

end Sample

namespace TreeAccess

-- ── single checks ─────────────────────────────────────────────────────────

section Single

variable {ν : Type} (access : TreeAccess ν) (limit : DepthLimit) (config : Config) (app : String)
  (root : ν)

/-- A verdict on a query tells how the query ended, as long as errors have codes. -/
theorem tells_of_verdict {path : String} {query : Except Failure (Option ν)} {r : CheckResult}
    (hcode : ∀ e, query = .error (.error e) → e.code ≠ none) (h : verdict path query = .ok r) :
    r.Tells path query := by
  match query, hcode, h with
  | .ok (some node), _, h =>
      cases Except.ok.inj h
      refine ⟨?_, ?_, fun hno => absurd ⟨_, rfl⟩ hno⟩
      · exact ⟨fun _ => ⟨node, rfl⟩, fun _ => rfl⟩
      · constructor <;> intro h <;> exact nomatch h
  | .ok none, _, h =>
      cases Except.ok.inj h
      refine ⟨?_, ?_, fun hno => absurd ⟨_, rfl⟩ hno⟩
      · constructor
        · intro h
          exact nomatch h
        · rintro ⟨node, h⟩
          exact nomatch h
      · exact ⟨fun _ => rfl, fun _ => rfl⟩
  | .error (.error e), hcode, h =>
      cases Except.ok.inj h
      refine ⟨?_, ?_, fun _ => ⟨e, rfl, rfl⟩⟩
      · constructor
        · intro h
          exact nomatch h
        · rintro ⟨node, h⟩
          exact nomatch h
      · constructor
        · intro h
          injection h with _ _ _ hnone
          exact absurd hnone (hcode e rfl)
        · intro h
          exact nomatch h

theorem outcome_resolve (element : String) :
    (access.resolve limit config app element root).outcome =
      (config.requirePattern app element : Task ν Pattern).outcome.bind fun p =>
        (access.resolvePattern limit p root).outcome := by
  rw [resolve, outcome_reported, Report.outcome_bind]

/-- The check of a single element by its name says what the check of the element says. -/
theorem outcome_checkElements_singleton (element : String) :
    (access.checkElements limit config app root (some [element])).outcome =
      (access.checkElement limit config app element root).outcome.map fun r => [r] := by
  rw [outcome_checkElements]
  show (access.checkEach limit config app root [element]).outcome = _
  simp only [checkEach]
  cases h : (access.checkElement limit config app element root).outcome with
  | ok r =>
      rw [Report.outcome_bind_of_ok h]
      rfl
  | error f =>
      rw [Report.outcome_bind_of_error h]
      rfl

-- ── runs over the names ───────────────────────────────────────────────────

variable {access limit config app root}

/-- Without names a check goes through all elements of the application. -/
theorem checkElements_none {a : AppConfig} (h : config.app? app = some a) :
    access.checkElements limit config app root none =
      access.checkElements limit config app root (some a.elementNames) := by
  simp only [checkElements, Config.elementNames]
  rw [h]

/-- **THE RUN OVER NAMES** gives what the checks of the names give, one result for each in order. -/
theorem checkEach_answered {names : List String} {results : List CheckResult}
    (h : List.Forall₂ (fun element r =>
      (access.checkElement limit config app element root).outcome = .ok r) names results) :
    (access.checkEach limit config app root names).outcome = .ok results := by
  induction h with
  | nil => rfl
  | cons hr _ ih =>
      simp only [checkEach]
      rw [Report.outcome_bind_of_ok hr, Report.outcome_bind_of_ok ih]
      rfl

theorem exists_results {names : List String}
    (h : ∀ element ∈ names, ∃ r, (access.checkElement limit config app element root).outcome = .ok r) :
    ∃ results, List.Forall₂ (fun element r =>
      (access.checkElement limit config app element root).outcome = .ok r) names results := by
  induction names with
  | nil => exact ⟨[], List.Forall₂.nil⟩
  | cons element rest ih =>
      obtain ⟨r, hr⟩ := h element List.mem_cons_self
      obtain ⟨results, hall⟩ := ih fun other hother => h other (List.mem_cons_of_mem element hother)
      exact ⟨r :: results, List.Forall₂.cons hr hall⟩

/-- The first check that fails ends the run over the names. -/
theorem checkEach_interrupted {before after : List String} {f : Failure}
    (hbefore : ∀ other ∈ before, ∃ r, (access.checkElement limit config app other root).outcome = .ok r)
    (h : (access.checkElement limit config app element root).outcome = .error f) :
    (access.checkEach limit config app root (before ++ element :: after)).outcome = .error f := by
  induction before with
  | nil => exact Report.outcome_bind_of_error h _
  | cons other rest ih =>
      obtain ⟨r, hr⟩ := hbefore other List.mem_cons_self
      simp only [List.cons_append, checkEach]
      rw [Report.outcome_bind_of_ok hr]
      exact Report.outcome_bind_of_error
        (ih fun name hname => hbefore name (List.mem_cons_of_mem other hname)) _

end Single

-- ── queries of trees in memory ────────────────────────────────────────────

section InMemory

variable (failing : List Nat → Option Injected) (limit : DepthLimit) (config : Config) (app : String)
  (start : Located)

/-- The check of several names is interrupted: the failure is that of the query for the first name
    whose query is. -/
def CheckInterrupted (names : List String) (e : Failure) : Prop :=
  ∃ before element after, names = before ++ element :: after ∧
    (∀ other ∈ before, ∀ f, ¬ QueryInterrupted failing limit config app start other f) ∧
    QueryInterrupted failing limit config app start element e

/-- Some name is the first whose query is interrupted, or none is. -/
theorem checkInterrupted_or (names : List String) :
    (∃ e, CheckInterrupted failing limit config app start names e) ∨
      ∀ element ∈ names, ∀ e, ¬ QueryInterrupted failing limit config app start element e := by
  induction names with
  | nil => exact Or.inr nofun
  | cons name rest ih =>
      by_cases hname : ∃ e, QueryInterrupted failing limit config app start name e
      · obtain ⟨e, he⟩ := hname
        exact Or.inl ⟨e, [], name, rest, rfl, nofun, he⟩
      · have hfree : ∀ e, ¬ QueryInterrupted failing limit config app start name e :=
          fun e he => hname ⟨e, he⟩
        rcases ih with ⟨e, before, element, after, rfl, hbefore, helement⟩ | hrest
        · exact Or.inl ⟨e, name :: before, element, after, rfl,
            List.forall_mem_cons.mpr ⟨hfree, hbefore⟩, helement⟩
        · exact Or.inr (List.forall_mem_cons.mpr ⟨hfree, hrest⟩)

variable {failing limit config app start}

theorem CheckInterrupted.ne_error {names : List String} {e : Failure}
    (h : CheckInterrupted failing limit config app start names e) (g : LocatorError) : e ≠ .error g := by
  obtain ⟨_, _, _, -, -, _, -, -, hinterrupts⟩ := h
  exact hinterrupts.ne_error g

/-- **HOW A QUERY ENDS**: with an answer, with an error that has a code, or interrupted. -/
theorem query_ends (hconfig : config.Accepted)
    (hfailing : ∀ path i, failing path = some i → i.1 ≠ .success) (element : String) :
    (∃ found, ((Tree.access failing).resolve limit config app element start).outcome = .ok found) ∨
      (∃ e c, ((Tree.access failing).resolve limit config app element start).outcome =
        .error (.error e) ∧ e.code = some c) ∨
      ∃ e, QueryInterrupted failing limit config app start element e ∧
        ((Tree.access failing).resolve limit config app element start).outcome = .error e := by
  rw [outcome_resolve, Config.outcome_requirePattern]
  cases hp : config.pattern? app element with
  | none => exact Or.inr (Or.inl ⟨_, _, rfl, config.code_unconfigured app element⟩)
  | some p =>
      show (∃ found, ((Tree.access failing).resolvePattern limit p start).outcome = .ok found) ∨
        (∃ e c, ((Tree.access failing).resolvePattern limit p start).outcome = .error (.error e) ∧
          e.code = some c) ∨ ∃ e, _ ∧ ((Tree.access failing).resolvePattern limit p start).outcome = .error e
      simp only [resolvePattern]
      rcases fault?_search_or_interrupted (hconfig app element p hp).compiled failing limit start with
        hwalk | ⟨e, he, hinterrupts⟩
      · cases hd : start.walk.find? (Located.offends failing limit.levels start) with
        | none =>
            rw [walkFault, hd] at hwalk
            obtain ⟨found, hfound⟩ := Report.fault?_eq_none_iff.mp hwalk
            rw [Report.outcome_bind_of_ok hfound, Report.outcome_ofExcept]
            cases hindex : p.criteria.index with
            | none => exact Or.inl ⟨found.head?, rfl⟩
            | some i =>
                rw [selectCandidate_eq_pick]
                cases pick found (some i) with
                | some node => exact Or.inl ⟨some node, rfl⟩
                | none => exact Or.inr (Or.inl ⟨_, _, rfl, rfl⟩)
        | some d =>
            rw [walkFault, hd] at hwalk
            obtain ⟨e, c, he, hc⟩ := Located.searchFailure_eq_error hfailing limit.levels d
            have hsearch := Report.fault?_eq_some_iff.mp hwalk
            rw [he] at hsearch
            rw [Report.outcome_bind_of_error hsearch]
            exact Or.inr (Or.inl ⟨e, c, rfl, hc⟩)
      · rw [Report.outcome_bind_of_error he]
        exact Or.inr (Or.inr ⟨e, ⟨p, hp, he, hinterrupts⟩, rfl⟩)

theorem outcome_resolve_of_interrupted {element : String} {e : Failure}
    (h : QueryInterrupted failing limit config app start element e) :
    ((Tree.access failing).resolve limit config app element start).outcome = .error e := by
  obtain ⟨p, hp, hsearch, -⟩ := h
  rw [outcome_resolve, Config.outcome_requirePattern, hp]
  simp only [resolvePattern]
  exact Report.outcome_bind_of_error hsearch _

/-- The check of an element has a result that tells how its query ended, or is interrupted as the
    query is. -/
theorem checkElement_ends (hconfig : config.Accepted)
    (hfailing : ∀ path i, failing path = some i → i.1 ≠ .success) (element : String) :
    ((∀ e, ¬ QueryInterrupted failing limit config app start element e) ∧
      ∃ r, ((Tree.access failing).checkElement limit config app element start).outcome = .ok r ∧
        r.Tells s!"{app}.{element}"
          ((Tree.access failing).resolve limit config app element start).outcome) ∨
    ∃ e, QueryInterrupted failing limit config app start element e ∧
      ((Tree.access failing).checkElement limit config app element start).outcome = .error e := by
  rw [outcome_checkElement]
  rcases query_ends hconfig hfailing element with ⟨found, h⟩ | ⟨e, c, h, hc⟩ | ⟨e, hinterrupted, h⟩
  · refine Or.inl ⟨fun f hno => ?_, ?_⟩
    · rw [outcome_resolve_of_interrupted hno] at h
      cases h
    · rw [h]
      have hcode : ∀ e, (Except.ok found : Except Failure _) = .error (.error e) → e.code ≠ none := by
        rintro _ ⟨⟩
      cases found with
      | none => exact ⟨_, rfl, tells_of_verdict hcode rfl⟩
      | some node => exact ⟨_, rfl, tells_of_verdict hcode rfl⟩
  · refine Or.inl ⟨fun f hno => ?_, ?_⟩
    · rw [outcome_resolve_of_interrupted hno] at h
      cases h
      obtain ⟨p, hp, hsearch, hinterrupts⟩ := hno
      cases hinterrupts
    · rw [h]
      refine ⟨_, rfl, tells_of_verdict ?_ rfl⟩
      intro e' he
      cases he
      rw [hc]
      exact Option.some_ne_none c
  · rw [h]
    refine Or.inr ⟨e, hinterrupted, ?_⟩
    obtain ⟨p, hp, hsearch, hinterrupts⟩ := hinterrupted
    cases hinterrupts <;> rfl

/-- Where a node offends, the error of the first one is the result of every configured element. -/
theorem outcome_checkElement_of_offence {d : Located} {e : LocatorError}
    (hconfig : config.Accepted)
    (hd : start.walk.find? (Located.offends failing limit.levels start) = some d)
    (he : Located.searchFailure failing limit.levels d = .error e) {element : String}
    (helement : ∀ f, ¬ QueryInterrupted failing limit config app start element f) :
    ((Tree.access failing).checkElement limit config app element start).outcome =
      .ok (CheckResult.ofError s!"{app}.{element}"
        (if (config.pattern? app element).isSome then e else config.unconfigured app element)) := by
  rw [outcome_checkElement, outcome_resolve, Config.outcome_requirePattern]
  cases hp : config.pattern? app element with
  | none => rfl
  | some p =>
      show verdict _ ((Tree.access failing).resolvePattern limit p start).outcome = _
      simp only [resolvePattern]
      rcases fault?_search_or_interrupted (hconfig app element p hp).compiled failing limit start with
        hwalk | ⟨f, hf, hinterrupts⟩
      · rw [walkFault, hd, Option.map_some, he] at hwalk
        rw [Report.outcome_bind_of_error (Report.fault?_eq_some_iff.mp hwalk)]
        rfl
      · exact absurd ⟨p, hp, hf, hinterrupts⟩ (helement f)

/-- Names whose queries are not interrupted have one result each, that of the name alone. -/
theorem checkElements_answered (hconfig : config.Accepted)
    (hfailing : ∀ path i, failing path = some i → i.1 ≠ .success) {names : List String}
    (hnames : ∀ element ∈ names, ∀ e, ¬ QueryInterrupted failing limit config app start element e) :
    ∃ results,
      ((Tree.access failing).checkElements limit config app start (some names)).outcome = .ok results ∧
      List.Forall₂ (fun element r =>
        ((Tree.access failing).checkElement limit config app element start).outcome = .ok r ∧
        ((Tree.access failing).checkElements limit config app start (some [element])).outcome = .ok [r] ∧
        r.Tells s!"{app}.{element}"
          ((Tree.access failing).resolve limit config app element start).outcome) names results := by
  have heach : ∀ element ∈ names, ∃ r,
      ((Tree.access failing).checkElement limit config app element start).outcome = .ok r := by
    intro element hmem
    rcases checkElement_ends hconfig hfailing element with ⟨-, r, hr, -⟩ | ⟨e, hinterrupted, -⟩
    · exact ⟨r, hr⟩
    · exact absurd hinterrupted (hnames element hmem e)
  obtain ⟨results, hall⟩ := exists_results heach
  refine ⟨results, ?_, hall.imp ?_⟩
  · rw [outcome_checkElements]
    exact checkEach_answered hall
  · intro element r hr
    refine ⟨hr, ?_, ?_⟩
    · rw [outcome_checkElements_singleton, hr]
      rfl
    · rcases checkElement_ends hconfig hfailing element with ⟨-, r', hr', htells⟩ | ⟨e, -, herror⟩
      · rw [hr] at hr'
        cases Except.ok.inj hr'
        exact htells
      · rw [hr] at herror
        cases herror

/-- A name whose query is interrupted leaves the check of all names without results. -/
theorem checkElements_interrupted (hconfig : config.Accepted)
    (hfailing : ∀ path i, failing path = some i → i.1 ≠ .success) {names : List String} {e : Failure}
    (h : CheckInterrupted failing limit config app start names e) :
    ((Tree.access failing).checkElements limit config app start (some names)).outcome = .error e := by
  obtain ⟨before, element, after, rfl, hbefore, helement⟩ := h
  rw [outcome_checkElements]
  refine checkEach_interrupted ?_ ?_
  · intro other hmem
    rcases checkElement_ends hconfig hfailing other with ⟨-, r, hr, -⟩ | ⟨f, hinterrupted, -⟩
    · exact ⟨r, hr⟩
    · exact absurd hinterrupted (hbefore other hmem f)
  · rcases checkElement_ends hconfig hfailing element with ⟨hno, -⟩ | ⟨f, hinterrupted, herror⟩
    · exact absurd helement (hno e)
    · have hresolve := outcome_resolve_of_interrupted hinterrupted
      rw [outcome_resolve_of_interrupted helement] at hresolve
      cases Except.error.inj hresolve
      exact herror

end InMemory

-- ── reports ───────────────────────────────────────────────────────────────

/-- What checks of an application's elements say of a tree in memory. -/
structure Reports (failing : List Nat → Option Injected) (limit : DepthLimit) (config : Config)
    (app : String) (start : Located) : Prop where
  /-- Elements that are named have results, one for each in order, which say what the check of
      that element alone says, unless the query for one of them is interrupted. -/
  answered (names : List String)
    (hnames : ∀ element ∈ names, ∀ e, ¬ QueryInterrupted failing limit config app start element e) :
    ∃ results,
      ((Tree.access failing).checkElements limit config app start (some names)).outcome = .ok results ∧
      List.Forall₂ (fun element r =>
        ((Tree.access failing).checkElement limit config app element start).outcome = .ok r ∧
        ((Tree.access failing).checkElements limit config app start (some [element])).outcome = .ok [r] ∧
        r.Tells s!"{app}.{element}"
          ((Tree.access failing).resolve limit config app element start).outcome) names results
  /-- The first query that is interrupted ends the check as it ends. -/
  interrupted (names : List String) (e : Failure)
    (hnames : CheckInterrupted failing limit config app start names e) :
    ((Tree.access failing).checkElements limit config app start (some names)).outcome = .error e
  /-- If a node offends, every element that is configured has the error of the first one, and any
      other has that of its own. -/
  offended {d : Located} (hd : start.walk.find? (Located.offends failing limit.levels start) = some d) :
    ∃ e, Located.searchFailure failing limit.levels d = .error e ∧ ∀ names : List String,
      (∀ element ∈ names, ∀ e, ¬ QueryInterrupted failing limit config app start element e) →
        ((Tree.access failing).checkElements limit config app start (some names)).outcome =
          .ok (names.map fun element => CheckResult.ofError s!"{app}.{element}"
            (if (config.pattern? app element).isSome then e else config.unconfigured app element))
  /-- The error of an element that is not configured is one of two. -/
  unconfigured (element : String) : (config.unconfigured app element).code =
    some (if (config.app? app).isSome then "ELEMENT_PATH_NOT_FOUND" else "APP_CONFIG_NOT_FOUND")
  /-- Without names all elements of the application are checked in order. -/
  unnamed {c : AppConfig} (hc : config.app? app = some c) :
    (Tree.access failing).checkElements limit config app start none =
      (Tree.access failing).checkElements limit config app start (some c.elementNames)
  /-- Without names a check needs an application that is configured. -/
  unknown : ((Tree.access failing).checkElements limit config app start none).outcome =
      .error (.error ⟨.appUnknown app, []⟩) ↔ config.app? app = none

/-- A check of names that are given never ends in an error of the library. -/
theorem outcome_checkEach_ne_error {ν : Type} (access : TreeAccess ν) (limit : DepthLimit)
    (config : Config) (app : String) (root : ν) (names : List String) (e : LocatorError) :
    (access.checkEach limit config app root names).outcome ≠ .error (.error e) := by
  intro h
  rcases checkEach_ends access limit config app root names with ⟨results, hok⟩ | ⟨_, f, hf, _, herror⟩
  · rw [hok] at h
    exact nomatch h
  · rw [herror] at h
    exact hf e (Except.error.inj h)

end TreeAccess

end ElementLocator
