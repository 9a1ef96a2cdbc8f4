import ElementLocator.Config.Loader
import ElementLocator.Query
import ElementLocator.Tree
import ElementLocator.Proofs.Outcome

/-! # Runs of stores

    A store is used while its configuration file is edited, its loader fails or succeeds, and
    other configurations are installed by hand. A run is any sequence of such actions.

    * `Event.obeys_step` — what one action does to a store, from the configuration installed;
    * `follows_of_run` — after each action of a run the store holds the configuration that was
      installed last, by the opening, by hand or by a reload that succeeded;
    * `nodes_of_installs` — the queries of a run are answered as in the run of its installs
      alone, on any other host: no edit shows before a reload succeeds;
    * `runs_follow_installs` — all this of a store opened in any way. -/

namespace ElementLocator.ConfigStore

variable {ν : Type}

-- ── stores in use ─────────────────────────────────────────────────────────

/-- A store in use on a host: the settings kept, and how often the loader was asked. -/
structure Situation (ν : Type) where
  store : ConfigStore
  loader : Loader ν
  host : Host
  cache : SettingsCache
  asked : Nat

/-- How a store comes to be: with a configuration given, or none, and perhaps a loader; or from
    the configuration file that a search finds. -/
inductive Opening (ν : Type)
  | given (config : Option Config) (loader : Option (Nat → Task ν Config))
  | source (name : Option String) (searchPaths : Option (List Path))

/-- The configuration that an opening installs, if it succeeds. -/
def Opening.config (cache : SettingsCache) (host : Host) : Opening ν → Except Failure Config
  | .given config _ => .ok (config.getD .empty)
  | .source name searchPaths => (Config.locateKept cache host name searchPaths : Task ν Config × _).1.outcome

/-- The loader that an opening binds to the store. -/
def Opening.loader : Opening ν → Loader ν
  | .given _ none => .nothing
  | .given _ (some answers) => .own answers
  | .source name searchPaths => .source name searchPaths

/-- The settings kept after an opening. -/
def Opening.cache (cache : SettingsCache) (host : Host) : Opening ν → SettingsCache
  | .given .. => cache
  | .source name searchPaths => (Config.locateKept cache host name searchPaths : Task ν Config × _).2

/-- Opens a store on a host. -/
def Opening.situation (cache : SettingsCache) (host : Host) (o : Opening ν) :
    Except Failure (Situation ν) :=
  (o.config cache host).map fun config => ⟨⟨config⟩, o.loader, host, o.cache cache host, 0⟩

/-- What can be done while a store is in use. -/
inductive Action (ν : Type)
  | replace (next : Config)
  | reload
  /-- Files, or anything else on the host, are changed. -/
  | edit (change : Host → Host)
  | resolve (access : TreeAccess ν) (limit : DepthLimit) (app element : String) (root : ν)

/-- What an action answers. -/
inductive Answer (ν : Type)
  | config (task : Task ν Config)
  | node (task : Task ν (Option ν))
  | nothing

/-- Does an action. -/
def Situation.step (s : Situation ν) : Action ν → Answer ν × Situation ν
  | .replace next =>
    let (task, store) := s.store.replace next
    (.config task, { s with store := store })
  | .reload =>
    let (load, cache) := s.loader.ask s.cache s.host s.asked
    let (task, store) := s.store.reload load
    (.config task, { s with store := store, cache := cache, asked := s.asked + 1 })
  | .edit change => (.nothing, { s with host := change s.host })
  | .resolve access limit app element root =>
    (.node (access.resolve limit s.store.current app element root), s)

/-- An action with what was before, what it answered and what was afterwards. -/
structure Event (ν : Type) where
  before : Situation ν
  action : Action ν
  answer : Answer ν
  after : Situation ν

/-- The event of an action. -/
def Situation.event (s : Situation ν) (a : Action ν) : Event ν := ⟨s, a, (s.step a).1, (s.step a).2⟩

/-- Does actions one after the other. -/
def Situation.run (s : Situation ν) : List (Action ν) → List (Event ν)
  | [] => []
  | a :: rest => s.event a :: (s.step a).2.run rest

-- ── what runs install ─────────────────────────────────────────────────────

namespace Event

/-- The configuration that an event installs, if it installs one. -/
def installs? (e : Event ν) : Option Config :=
  match e.action, e.answer with
  | .replace next, _ => some next
  | .reload, .config task => task.outcome.toOption
  | _, _ => none

/-- What an event must be like where `current` is the configuration installed last: a replacement
    answers the configuration that it supersedes; a reload ends as the loader does that is asked
    then, and installs nothing if it fails; a query is answered from that configuration. -/
def Obeys (current : Config) (e : Event ν) : Prop :=
  match e.action with
  | .replace next =>
    (∃ task, e.answer = .config task ∧ task.outcome = .ok current) ∧ e.after.store.current = next
  | .reload =>
    ∃ task, e.answer = .config task ∧
      match (e.before.loader.ask e.before.cache e.before.host e.before.asked).1 with
      | none => task.outcome = .error .noLoader ∧ e.after.store.current = current
      | some load => task.outcome = load.outcome ∧
        match load.outcome with
        | .ok next => e.after.store.current = next
        | .error _ => e.after.store.current = current
  | .edit _ => e.after.store.current = current
  | .resolve access limit app element root =>
    e.answer = .node (access.resolve limit current app element root) ∧ e.after.store.current = current

end Event

/-- The configuration installed last, where `first` was installed before the events. -/
def lastInstalled (first : Config) (events : List (Event ν)) : Config :=
  (events.filterMap Event.installs?).getLastD first

theorem lastInstalled_cons (first : Config) (e : Event ν) (rest : List (Event ν)) :
    lastInstalled first (e :: rest) = lastInstalled (e.installs?.getD first) rest := by
  simp only [lastInstalled]
  rw [List.filterMap_cons]
  cases e.installs? with
  | none => rfl
  | some next => rw [List.getLastD_cons, Option.getD_some]

-- ── one step ──────────────────────────────────────────────────────────────

theorem outcome_reload (s : ConfigStore) (load : Task ν Config) :
    (s.reload (some load)).1.outcome = load.outcome := by
  simp only [reload]
  split
  · rename_i f hf
    exact hf.symm ▸ rfl
  · rename_i next hnext
    exact hnext.symm ▸ rfl

/-- A reload installs what its loader answers, or nothing. -/
theorem current_reload (s : ConfigStore) (load : Task ν Config) :
    (s.reload (some load)).2.current = load.outcome.toOption.getD s.current := by
  simp only [reload]
  split
  · rename_i f hf
    rw [hf]
    rfl
  · rename_i next hnext
    rw [hnext]
    rfl

namespace Event

/-- **THE STEP OF A STORE**: every action obeys. -/
theorem obeys_step (s : Situation ν) (a : Action ν) : (s.event a).Obeys s.store.current := by
  cases a with
  | replace next => exact ⟨⟨_, rfl, rfl⟩, rfl⟩
  | edit change => exact rfl
  | resolve access limit app element root => exact ⟨rfl, rfl⟩
  | reload =>
      refine ⟨_, rfl, ?_⟩
      show match (s.loader.ask s.cache s.host s.asked).1 with
        | none => (s.store.reload (s.loader.ask s.cache s.host s.asked).1).1.outcome = .error .noLoader ∧
            (s.store.reload (s.loader.ask s.cache s.host s.asked).1).2.current = s.store.current
        | some load => (s.store.reload (s.loader.ask s.cache s.host s.asked).1).1.outcome = load.outcome ∧
          match load.outcome with
          | .ok next => (s.store.reload (s.loader.ask s.cache s.host s.asked).1).2.current = next
          | .error _ => (s.store.reload (s.loader.ask s.cache s.host s.asked).1).2.current = s.store.current
      cases (s.loader.ask s.cache s.host s.asked).1 with
      | none => exact ⟨rfl, rfl⟩
      | some load =>
          refine ⟨outcome_reload s.store load, ?_⟩
          have hcurrent := current_reload s.store load
          cases hload : load.outcome with
          | ok next =>
              rw [hload] at hcurrent
              exact hcurrent
          | error f =>
              rw [hload] at hcurrent
              exact hcurrent

/-- An event installs what the store holds after it, or the store holds what it held before. -/
theorem current_after (s : Situation ν) (a : Action ν) :
    (s.step a).2.store.current = (s.event a).installs?.getD s.store.current := by
  cases a with
  | replace next => rfl
  | edit change => rfl
  | resolve access limit app element root => rfl
  | reload =>
      show (s.store.reload (s.loader.ask s.cache s.host s.asked).1).2.current =
        (s.store.reload (s.loader.ask s.cache s.host s.asked).1).1.outcome.toOption.getD s.store.current
      cases (s.loader.ask s.cache s.host s.asked).1 with
      | none => rfl
      | some load => rw [outcome_reload, current_reload]

end Event

-- ── runs ──────────────────────────────────────────────────────────────────

/-- The host after the edits among events. -/
def edited (host : Host) (events : List (Event ν)) : Host :=
  events.foldl (fun host e => match e.action with
    | .edit change => change host
    | _ => host) host

/-- How an event follows what was before it in a run from a start: the store holds what was
    installed last, its loader is the one that it was opened with, the host is as the edits left
    it, and the event obeys. -/
structure Event.Follows (start : Situation ν) (past : List (Event ν)) (e : Event ν) : Prop where
  before : e.before.store.current = lastInstalled start.store.current past
  after : e.after.store.current = lastInstalled start.store.current (past ++ [e])
  loader : e.before.loader = start.loader
  host : e.before.host = edited start.host past
  obeys : e.Obeys (lastInstalled start.store.current past)

theorem Event.loader_after (s : Situation ν) (a : Action ν) : (s.step a).2.loader = s.loader := by
  cases a <;> rfl

theorem Event.host_after (s : Situation ν) (a : Action ν) :
    (s.step a).2.host = edited s.host [s.event a] := by
  cases a <;> rfl

/-- **THE RUN OF A STORE**: every event follows what was before it. The induction is on the
    actions, from every situation. -/
theorem follows_of_run (s : Situation ν) (actions : List (Action ν)) :
    ∀ (past : List (Event ν)) (e : Event ν) (future : List (Event ν)),
      s.run actions = past ++ e :: future → e.Follows s past := by
  induction actions generalizing s with
  | nil =>
      intro past e future h
      exact absurd h.symm (List.append_ne_nil_of_right_ne_nil past (List.cons_ne_nil e future))
  | cons a rest ih =>
      intro past e future h
      rw [Situation.run] at h
      cases past with
      | nil =>
          obtain ⟨rfl, -⟩ := List.cons.inj h
          have hafter : (s.step a).2.store.current = lastInstalled s.store.current ([] ++ [s.event a]) := by
            rw [List.nil_append, lastInstalled_cons]
            exact Event.current_after s a
          exact ⟨rfl, hafter, rfl, rfl, Event.obeys_step s a⟩
      | cons first past =>
          obtain ⟨rfl, hrest⟩ := List.cons.inj h
          have hcurrent := Event.current_after s a
          have hnext := ih (s.step a).2 past e future hrest
          constructor
          · rw [lastInstalled_cons, ← hcurrent]
            exact hnext.before
          · rw [List.cons_append, lastInstalled_cons, ← hcurrent]
            exact hnext.after
          · rw [← Event.loader_after s a]
            exact hnext.loader
          · have hhost := hnext.host
            rw [Event.host_after] at hhost
            exact hhost
          · rw [lastInstalled_cons, ← hcurrent]
            exact hnext.obeys

theorem actions_of_run (s : Situation ν) (actions : List (Action ν)) :
    (s.run actions).map (·.action) = actions := by
  induction actions generalizing s with
  | nil => rfl
  | cons a rest ih =>
      rw [Situation.run, List.map_cons, ih]
      rfl

/-- What the queries of a run answer, in order. -/
def nodes (events : List (Event ν)) : List (Task ν (Option ν)) :=
  events.filterMap fun e => match e.answer with
    | .node task => some task
    | _ => none

/-- What an event leaves in a store, as actions that need no host: its install, or its query. -/
def Event.remains (e : Event ν) : List (Action ν) :=
  match e.action with
  | .resolve access limit app element root => [.resolve access limit app element root]
  | _ => e.installs?.toList.map Action.replace

/-- **EDITS ARE NOT SEEN**: the queries of a run are answered as in the run of its installs and
    queries alone, on any other host and with any other loader. -/
theorem nodes_of_installs (s : Situation ν) (actions : List (Action ν)) :
    ∀ other : Situation ν, other.store.current = s.store.current →
      nodes (other.run ((s.run actions).flatMap Event.remains)) = nodes (s.run actions) := by
  induction actions generalizing s with
  | nil =>
      intro other _
      rfl
  | cons a rest ih =>
      intro other hother
      have hafter := Event.current_after s a
      cases a with
      | resolve access limit app element root =>
          have hrest := ih s other hother
          show access.resolve limit other.store.current app element root ::
              nodes (other.run ((s.run rest).flatMap Event.remains)) =
            access.resolve limit s.store.current app element root :: nodes (s.run rest)
          rw [hother, hrest]
      | edit change => exact ih _ other hother
      | replace next => exact ih _ _ rfl
      | reload =>
          rw [Situation.run, List.flatMap_cons]
          cases hinstalls : (s.event .reload).installs? with
          | none =>
              have hremains : (s.event .reload).remains = [] := by
                show (s.event .reload).installs?.toList.map Action.replace = []
                rw [hinstalls]
                rfl
              rw [hinstalls, Option.getD_none, ← hother] at hafter
              rw [hremains, List.nil_append]
              exact ih _ other hafter.symm
          | some next =>
              have hremains : (s.event .reload).remains = [.replace next] := by
                show (s.event .reload).installs?.toList.map Action.replace = [.replace next]
                rw [hinstalls]
                rfl
              rw [hinstalls, Option.getD_some] at hafter
              rw [hremains]
              exact ih _ { other with store := ⟨next⟩ } hafter.symm

-- ── opened stores ─────────────────────────────────────────────────────────

/-- **RUNS FOLLOW INSTALLS**, whatever is done to a store that was opened. There is one event for
    each action; each follows what was before it, from the configuration that the opening
    installed; and queries are answered as though there were no files at all but for what was
    installed from them, as a whole. -/
theorem runs_follow_installs {opening : Opening ν} {cache : SettingsCache} {host : Host}
    {start : Situation ν} (h : opening.situation cache host = .ok start) (actions : List (Action ν)) :
    opening.config cache host = .ok start.store.current ∧
      (start.run actions).map (·.action) = actions ∧
      (∀ (past : List (Event ν)) (e : Event ν) (future : List (Event ν)),
        start.run actions = past ++ e :: future → e.Follows start past) ∧
      ∀ other : Situation ν, other.store.current = start.store.current →
        nodes (other.run ((start.run actions).flatMap Event.remains)) = nodes (start.run actions) := by
  refine ⟨?_, actions_of_run start actions, follows_of_run start actions, nodes_of_installs start actions⟩
  rw [Opening.situation] at h
  cases hconfig : opening.config cache host with
  | error f =>
      rw [hconfig] at h
      exact nomatch h
  | ok config =>
      rw [hconfig] at h
      rw [← Except.ok.inj h]

namespace Sample

/-- A configuration of one application with one element. -/
def buttons : Config :=
  ⟨[("App", ⟨"App", "process", [("button", .node ⟨"Button", none, none, none, .contains, none⟩ [])]⟩)]⟩

/-- A loader that fails when it is asked first, and then loads the buttons. -/
def answers (asked : Nat) : Task Located Config :=
  if asked = 0 then Task.malformed "ui_config.yaml" "document is empty" [] else Report.ok buttons

/-- A host without files. -/
def bare : Host := { files := ⟨[], []⟩, environment := [] }

/-- A store opened without a configuration, with a loader. -/
def start : Situation Located := ⟨⟨.empty⟩, .own answers, bare, .empty, 0⟩

/-- A query for the button in a tree that has one. -/
def query : Action Located :=
  .resolve (Tree.access fun _ => none) ⟨2, by decide, by decide⟩ "App" "button"
    (.root (.node .empty [.node ⟨some "Button", none, none, none⟩ []]))

/-- Reloads, edits and queries in turn. -/
def actions : List (Action Located) := [.reload, .edit (fun _ => bare), query, .reload, query]

end Sample

/-- The first query, after a reload that failed, is answered from no configuration; the second,
    after one that succeeded, from the buttons. -/
theorem run_of_buttons :
    (Sample.start.run Sample.actions)[2]?.map (·.before.store.current) = some .empty ∧
      (Sample.start.run Sample.actions)[4]?.map (·.before.store.current) = some Sample.buttons ∧
      (nodes (Sample.start.run Sample.actions)).map (fun task => task.outcome.toOption) =
        [none, some (some ⟨[0], .node ⟨some "Button", none, none, none⟩ []⟩)] := by
  have hopen : (Opening.given none (some Sample.answers)).situation .empty Sample.bare =
      .ok Sample.start := rfl
  obtain ⟨-, -, hfollows, hnodes⟩ := runs_follow_installs hopen Sample.actions
  refine ⟨?_, ?_, ?_⟩
  · have hquery := (hfollows (Sample.start.run [.reload, .edit fun _ => Sample.bare]) _ _ rfl).before
    exact congrArg some hquery
  · have hquery := (hfollows (Sample.start.run [.reload, .edit fun _ => Sample.bare, Sample.query, .reload])
      _ _ rfl).before
    exact congrArg some hquery
  · rw [← hnodes Sample.start rfl]
    rfl

end ElementLocator.ConfigStore
