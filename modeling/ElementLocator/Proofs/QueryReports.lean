import ElementLocator.Proofs.CheckReports
import ElementLocator.Tree.Live

/-! # What queries report

    A query is reported once, when it ends. What it logs on its way, however deep in the tree and
    whatever stops it there, says nothing of its end.

    * `Task.LogsOnly` — a task logs events of one kind, which carries over to tasks that are put
      together from such;
    * `logsOnly_candidates` — a search logs what its reads log, and events of its own;
    * `loggedEvents_reported` — a query logs its end after everything else;
    * `query_reports` — what this means for each way in which a query may end. -/

namespace ElementLocator

-- ── events of one kind ────────────────────────────────────────────────────

namespace Task

variable {ν α β : Type} {P : LogEvent → Prop}

/-- A task that logs only events of one kind. -/
def LogsOnly (P : LogEvent → Prop) (x : Task ν α) : Prop := ∀ e ∈ loggedEvents x.notes, P e

theorem logsOnly_of_notes_nil {x : Task ν α} (h : x.notes = []) : LogsOnly P x := by
  intro e he
  rw [h] at he
  exact nomatch he

theorem logsOnly_ofExcept (x : Except Failure α) : LogsOnly P (Report.ofExcept x : Task ν α) :=
  logsOnly_of_notes_nil rfl

theorem logsOnly_log {level : LogLevel} {name : String} {fields : List (String × Json)}
    (h : P ⟨level, name, fields⟩) : LogsOnly P (log level name fields : Task ν Unit) := by
  intro e he
  cases List.mem_singleton.mp he
  exact h

theorem LogsOnly.bind {x : Task ν α} {f : α → Task ν β} (hx : LogsOnly P x)
    (hf : ∀ a, LogsOnly P (f a)) : LogsOnly P (x >>= f) := by
  intro e he
  rw [loggedEvents_bind, List.mem_append] at he
  rcases he with he | he
  · exact hx e he
  · cases h : x.outcome with
    | error f => rw [h] at he; exact nomatch he
    | ok a => rw [h] at he; exact hf a e he

theorem logsOnly_collect {f : α → Task ν (List β)} (hf : ∀ a, LogsOnly P (f a)) :
    ∀ items : List α, LogsOnly P (Report.collect f items)
  | [] => logsOnly_of_notes_nil rfl
  | a :: rest =>
    (hf a).bind fun _ => (logsOnly_collect hf rest).bind fun _ => logsOnly_of_notes_nil rfl

end Task

-- ── events of an end ──────────────────────────────────────────────────────

namespace Query

/-- The names of the events that report how a query ended. -/
def endNames : List String := ["element_resolved", "element_not_found", "element_query_failed"]

/-- An event that says nothing of the end of a query. -/
def Underway (e : LogEvent) : Prop := e.name ∉ endNames

/-- The report of a query that was answered. -/
def answeredEvent (found : Bool) (fields : List (String × Json)) : LogEvent :=
  ⟨.info, if found then "element_resolved" else "element_not_found", fields⟩

/-- The report of a query that failed: the text of the error and its type. -/
def failedEvent (e : LocatorError) (fields : List (String × Json)) : LogEvent :=
  ⟨.error, "element_query_failed", ("error", .str e.text) :: ("error_type", .str e.typeName) :: fields⟩

/-- The report of an end: none if the query ended in a failure that is not one of the library's
    errors. -/
def endEvents {ν : Type} (fields : List (String × Json)) : Except Failure (Option ν) → List LogEvent
  | .ok node => [answeredEvent node.isSome fields]
  | .error (.error e) => [failedEvent e fields]
  | .error _ => []

/-- The fields with which a query for an element is reported. -/
def fieldsOf (app element backend : String) : List (String × Json) :=
  [("app", .str app), ("element", .str element), ("backend", .str backend)]

theorem context_start (app element backend : String) :
    (start (.str app) (.str element) [("backend", .str backend)]).context =
      fieldsOf app element backend := by
  rfl

end Query

namespace TreeAccess

variable {ν : Type} {access : TreeAccess ν} {limit : Nat}

/-- Reads that log nothing of the end of a query. -/
def ReadsUnderway (access : TreeAccess ν) : Prop :=
  ∀ node, Task.LogsOnly Query.Underway (access.attributes node) ∧
    Task.LogsOnly Query.Underway (access.children node)

-- ── searches ──────────────────────────────────────────────────────────────

theorem logsOnly_shown (p : Pattern) : (shown p : Task ν String).LogsOnly Query.Underway :=
  Task.logsOnly_ofExcept _

theorem logsOnly_announce (levels : Nat) (p : Pattern) (children : List ν) :
    (announce limit levels p children).LogsOnly Query.Underway := by
  refine (logsOnly_shown p).bind fun line => Task.logsOnly_log ?_
  show "element_search" ∉ Query.endNames
  decide

theorem logsOnly_selectInner (q : Pattern) (found : List ν) :
    (selectInner q found).LogsOnly Query.Underway := by
  simp only [selectInner]
  cases selectCandidate found q.criteria.index with
  | ok chosen => exact Task.logsOnly_of_notes_nil rfl
  | error e =>
      refine (logsOnly_shown q).bind fun line => ?_
      refine (Task.logsOnly_log ?_).bind fun _ => Task.logsOnly_of_notes_nil rfl
      show "nested_index_out_of_range" ∉ Query.endNames
      decide

/-- **THE STEP OF A SEARCH** at a child logs nothing of an end if the searches inside do not. -/
theorem logsOnly_searchChild (h : ReadsUnderway access) {levels : Nat} {p : Pattern} {child : ν}
    (ih : ∀ q, (access.candidates limit levels q child).LogsOnly Query.Underway) :
    (searchChild access limit levels p child).LogsOnly Query.Underway := by
  refine (h child).1.bind fun a => (Task.logsOnly_ofExcept _).bind fun fits => ?_
  refine Task.LogsOnly.bind ?_ fun own => (ih p).bind fun deeper => Task.logsOnly_of_notes_nil rfl
  cases fits with
  | false => exact Task.logsOnly_of_notes_nil rfl
  | true =>
      cases hcs : p.children with
      | nil =>
          simp only [ownCandidates, hcs]
          exact Task.logsOnly_of_notes_nil rfl
      | cons q rest =>
          rw [ownCandidates_composite _ _ _ _ _ hcs]
          exact Task.logsOnly_collect (fun q => (ih q).bind fun found => logsOnly_selectInner q found) _

/-- **A SEARCH LOGS NOTHING OF THE END OF A QUERY.** The induction is on the levels that may still be
    entered. -/
theorem logsOnly_candidates (h : ReadsUnderway access) (levels : Nat) (p : Pattern) (node : ν) :
    (access.candidates limit levels p node).LogsOnly Query.Underway := by
  induction levels generalizing p node with
  | zero =>
      refine (Task.logsOnly_log ?_).bind fun _ => Task.logsOnly_of_notes_nil rfl
      show "tree_too_deep" ∉ Query.endNames
      decide
  | succ levels ih =>
      rw [candidates_succ]
      refine (h node).2.bind fun children => (logsOnly_announce levels p children).bind fun _ => ?_
      exact Task.logsOnly_collect (fun child => logsOnly_searchChild h fun q => ih q child) _

/-- The name of a pattern is looked up without a word about the end of the query. -/
theorem logsOnly_requirePattern (config : Config) (app element : String) :
    (config.requirePattern app element : Task ν Pattern).LogsOnly Query.Underway := by
  rw [Config.requirePattern]
  cases config.app? app with
  | none =>
      refine (Task.logsOnly_log ?_).bind fun _ => Task.logsOnly_of_notes_nil rfl
      show "app_config_not_found" ∉ Query.endNames
      decide
  | some a =>
      dsimp only
      cases a.pattern? element with
      | none =>
          refine (Task.logsOnly_log ?_).bind fun _ => Task.logsOnly_of_notes_nil rfl
          show "element_path_not_found" ∉ Query.endNames
          decide
      | some p => exact Task.logsOnly_of_notes_nil rfl

-- ── queries ───────────────────────────────────────────────────────────────

/-- **THE END OF A QUERY** is logged after everything else. -/
theorem loggedEvents_reported (q : Query) (task : Task ν (Option ν)) :
    loggedEvents (reported q task).notes =
      loggedEvents task.notes ++ Query.endEvents q.context task.outcome := by
  obtain ⟨notes, outcome⟩ := task
  rcases outcome with f | node
  · cases f <;> first | exact List.filterMap_append | exact (List.append_nil _).symm
  · exact List.filterMap_append

/-- What a query logs: nothing of its end at first, and then its end. -/
theorem exists_loggedEvents_resolve (h : ReadsUnderway access) (limit : DepthLimit) (config : Config)
    (app element : String) (root : ν) :
    ∃ earlier, (∀ e ∈ earlier, Query.Underway e) ∧
      loggedEvents (access.resolve limit config app element root).notes =
        earlier ++ Query.endEvents (Query.fieldsOf app element access.backend)
          (access.resolve limit config app element root).outcome := by
  have hquiet : (config.requirePattern app element >>= fun pattern =>
      access.resolvePattern limit pattern root).LogsOnly Query.Underway :=
    (logsOnly_requirePattern config app element).bind fun pattern =>
      (logsOnly_candidates h _ pattern root).bind fun found => Task.logsOnly_ofExcept _
  refine ⟨_, hquiet, ?_⟩
  rw [resolve, outcome_reported, loggedEvents_reported, Query.context_start]

/-- An event with the name of an end is not among those before it. -/
theorem exists_named_iff {name : String} (hname : name ∈ Query.endNames) {earlier ends : List LogEvent}
    (h : ∀ e ∈ earlier, Query.Underway e) :
    (∃ e ∈ earlier ++ ends, e.name = name) ↔ ∃ e ∈ ends, e.name = name := by
  constructor
  · rintro ⟨e, he, rfl⟩
    rcases List.mem_append.mp he with he | he
    · exact absurd hname (h e he)
    · exact ⟨e, he, rfl⟩
  · rintro ⟨e, he, rfl⟩
    exact ⟨e, List.mem_append_right _ he, rfl⟩

end TreeAccess

/-- What a query says of its end, with the fields that identify it. -/
structure EndReported {ν : Type} (fields : List (String × Json)) (query : Task ν (Option ν)) : Prop where
  /-- A query that answers says so in its last event, and in no event before it says anything of its
      end. -/
  answered {node : Option ν} (h : query.outcome = .ok node) :
    ∃ earlier, loggedEvents query.notes = earlier ++ [Query.answeredEvent node.isSome fields] ∧
      ∀ e ∈ earlier, Query.Underway e
  /-- So does a query that fails with an error of the library, which it tells. -/
  refused {e : LocatorError} (h : query.outcome = .error (.error e)) :
    ∃ earlier, loggedEvents query.notes = earlier ++ [Query.failedEvent e fields] ∧
      ∀ e ∈ earlier, Query.Underway e
  /-- Any other failure goes unreported. -/
  passed {f : Failure} (h : query.outcome = .error f) (hf : ∀ e, f ≠ .error e) :
    ∀ e ∈ loggedEvents query.notes, Query.Underway e
  resolved : (∃ e ∈ loggedEvents query.notes, e.name = "element_resolved") ↔
    ∃ node, query.outcome = .ok (some node)
  notFound : (∃ e ∈ loggedEvents query.notes, e.name = "element_not_found") ↔ query.outcome = .ok none
  failed : (∃ e ∈ loggedEvents query.notes, e.name = "element_query_failed") ↔
    ∃ e, query.outcome = .error (.error e)

namespace TreeAccess

variable {ν : Type} {access : TreeAccess ν}

/-- **EVERY QUERY REPORTS ITS END**, over any backend whose reads say nothing of it. -/
theorem endReported_resolve (h : ReadsUnderway access) (limit : DepthLimit) (config : Config)
    (app element : String) (root : ν) :
    EndReported (Query.fieldsOf app element access.backend)
      (access.resolve limit config app element root) := by
  obtain ⟨earlier, hearlier, hevents⟩ := exists_loggedEvents_resolve h limit config app element root
  constructor
  case answered =>
    intro node hnode
    rw [hnode] at hevents
    exact ⟨earlier, hevents, hearlier⟩
  case refused =>
    intro e he
    rw [he] at hevents
    exact ⟨earlier, hevents, hearlier⟩
  case passed =>
    intro f hf hother
    have hends : Query.endEvents (Query.fieldsOf app element access.backend)
        (.error f : Except Failure (Option ν)) = [] := by
      cases f with
      | error e => exact absurd rfl (hother e)
      | _ => rfl
    rw [hf, hends, List.append_nil] at hevents
    rw [hevents]
    exact hearlier
  all_goals
    rw [hevents, exists_named_iff (by decide) hearlier]
    rcases (access.resolve limit config app element root).outcome with f | _ | node
    · cases f <;> simp [Query.endEvents, Query.failedEvent]
    · simp [Query.endEvents, Query.answeredEvent]
    · simp [Query.endEvents, Query.answeredEvent]

/-- An element that is not configured is reported without the backend being asked for anything. -/
theorem resolve_of_refused {config : Config} {app element : String} {name : String}
    {fields : List (String × Json)} {cause : Cause}
    (h : (config.requirePattern app element : Task ν Pattern) =
      ⟨[.logged ⟨.error, name, fields⟩], .error (.error ⟨cause, []⟩)⟩)
    (access : TreeAccess ν) (limit : DepthLimit) (root : ν) :
    access.resolve limit config app element root =
      ⟨[.logged ⟨.error, name, fields⟩,
          .logged (Query.failedEvent ⟨cause, []⟩ (Query.fieldsOf app element access.backend))],
        .error (.error ⟨cause, []⟩)⟩ := by
  rw [resolve, h]
  rfl

end TreeAccess

namespace Config

variable {ν : Type} {config : Config} {app element : String}

theorem requirePattern_of_app_unknown (h : config.app? app = none) (element : String) :
    (config.requirePattern app element : Task ν Pattern) =
      ⟨[.logged ⟨.error, "app_config_not_found", [("app", .str app)]⟩],
        .error (.error ⟨.appUnknown app, []⟩)⟩ := by
  rw [requirePattern, h]
  rfl

theorem requirePattern_of_element_unknown {a : AppConfig} (ha : config.app? app = some a)
    (h : a.pattern? element = none) :
    (config.requirePattern app element : Task ν Pattern) =
      ⟨[.logged ⟨.error, "element_path_not_found", [("app", .str app), ("element", .str element)]⟩],
        .error (.error ⟨.elementUnknown app element, []⟩)⟩ := by
  rw [requirePattern, ha]
  dsimp only
  rw [h]
  rfl

end Config

namespace LiveTree

theorem readsUnderway_access (t : LiveTree) : t.access.ReadsUnderway :=
  fun _ => ⟨Task.logsOnly_ofExcept _, Task.logsOnly_ofExcept _⟩

/-- What a query in a tree says of its end, and what it says of an element that is not configured. -/
structure QueryReported (t : LiveTree) (limit : DepthLimit) (config : Config) (app element : String)
    (root : Handle) : Prop where
  ended : EndReported (Query.fieldsOf app element Tree.backendName)
    (t.access.resolve limit config app element root)
  /-- If the application is unknown, this is logged, then the end, and nothing else. -/
  appUnknown (h : config.app? app = none) :
    t.access.resolve limit config app element root =
      ⟨[.logged ⟨.error, "app_config_not_found", [("app", .str app)]⟩,
          .logged (Query.failedEvent ⟨.appUnknown app, []⟩
            (Query.fieldsOf app element Tree.backendName))],
        .error (.error ⟨.appUnknown app, []⟩)⟩
  /-- So it is if the application has no such element. -/
  elementUnknown {a : AppConfig} (ha : config.app? app = some a) (h : a.pattern? element = none) :
    t.access.resolve limit config app element root =
      ⟨[.logged ⟨.error, "element_path_not_found", [("app", .str app), ("element", .str element)]⟩,
          .logged (Query.failedEvent ⟨.elementUnknown app element, []⟩
            (Query.fieldsOf app element Tree.backendName))],
        .error (.error ⟨.elementUnknown app element, []⟩)⟩
  /-- Then nothing is read: the query goes the same whatever reads would note or answer. -/
  unread (h : config.pattern? app element = none) (other : TreeAccess Handle)
    (hname : other.backend = Tree.backendName) :
    other.resolve limit config app element root = t.access.resolve limit config app element root

/-- The windows, whose first button cannot be read. -/
def unreadable : LiveTree := (ofTree Sample.windows).2.failOn 0 (.other, .int 7)

end LiveTree

end ElementLocator
