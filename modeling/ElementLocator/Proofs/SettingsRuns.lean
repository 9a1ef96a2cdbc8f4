import ElementLocator.Settings
import Mathlib.Data.List.DropRight

/-! # Runs of settings

    The settings of a process are read when they are first asked for, and kept until they are told to
    be forgotten. In the meantime the host changes, and the settings that it gives may be invalid.

    * `Situation.firstBuilt_step` — what one action does to what is kept;
    * `follows_of_run` — in every run what is kept was built by the first request after the last
      reset that succeeded, and each request answers it;
    * `stays_of_run`, `builds_again_of_run` — what is kept stays through all edits, and a failure is
      not kept;
    * `runs_keep_first` — all this of a process from its start. -/

namespace ElementLocator.SettingsCache

-- ── settings in use ───────────────────────────────────────────────────────

/-- The host of a process and the settings that it keeps. -/
structure Situation where
  host : Host
  cache : SettingsCache

/-- A process before anything is asked. -/
def start (host : Host) : Situation := ⟨host, .empty⟩

/-- What can be done in a process: the host is changed, the settings are forgotten, or they are asked
    for. -/
inductive Action
  | edit (change : Host → Host)
  | reset
  | get

/-- Does an action; only a request has an answer. -/
def Situation.step (s : Situation) : Action → Option (Except Failure Settings) × Situation
  | .edit change => (none, { s with host := change s.host })
  | .reset => (none, { s with cache := .empty })
  | .get =>
    let (answer, cache) := s.cache.get s.host
    (some answer, { s with cache := cache })

/-- An action with what was before, what it answered and what was afterwards. -/
structure Event where
  before : Situation
  action : Action
  answer : Option (Except Failure Settings)
  after : Situation

/-- The event of an action. -/
def Situation.event (s : Situation) (a : Action) : Event := ⟨s, a, (s.step a).1, (s.step a).2⟩

/-- Does actions one after the other. -/
def Situation.run (s : Situation) : List Action → List Event
  | [] => []
  | a :: rest => s.event a :: (s.step a).2.run rest

-- ── the first success ─────────────────────────────────────────────────────

/-- The settings as the host of a moment gives them, to a request that finds nothing kept. -/
def built (host : Host) : Except Failure Settings := Settings.read host []

namespace Event

/-- Whether an event is a reset. -/
def resets (e : Event) : Bool := e.action matches .reset

/-- Whether an event is a request. -/
def asks (e : Event) : Bool := e.action matches .get

/-- The settings that the host gives where an event asks for them. -/
def builds? (e : Event) : Option Settings := if e.asks then (built e.before.host).toOption else none

end Event

/-- The settings built at the first request after the last reset at which the host gave any. -/
def firstBuilt (past : List Event) : Option Settings :=
  (past.rtakeWhile fun e => !e.resets).findSome? Event.builds?

/-- The host after the edits among events. -/
def edited (host : Host) (events : List Event) : Host :=
  events.foldl (fun host e => match e.action with
    | .edit change => change host
    | _ => host) host

theorem firstBuilt_concat_of_reset {e : Event} (h : e.resets = true) (past : List Event) :
    firstBuilt (past ++ [e]) = none := by
  rw [firstBuilt, List.rtakeWhile_concat, h]
  rfl

theorem firstBuilt_concat {e : Event} (h : e.resets = false) (past : List Event) :
    firstBuilt (past ++ [e]) = (firstBuilt past).or e.builds? := by
  rw [firstBuilt, List.rtakeWhile_concat, h, Bool.not_false, if_pos rfl, List.findSome?_append,
    List.findSome?_singleton, firstBuilt]

/-- Once there is a success, no event but a reset changes the first one. -/
theorem firstBuilt_append {past between : List Event} {settings : Settings} (h : firstBuilt past = some settings)
    (hbetween : ∀ e ∈ between, e.resets = false) : firstBuilt (past ++ between) = some settings := by
  induction between using List.reverseRecOn with
  | nil => rw [List.append_nil, h]
  | append_singleton between e ih =>
      have hkept := ih fun d hd => hbetween d (List.mem_append_left _ hd)
      rw [← List.append_assoc, firstBuilt_concat (hbetween e List.mem_concat_self), hkept, Option.some_or]

/-- Without a request there is no further success. -/
theorem firstBuilt_append_of_quiet {past between : List Event} (h : firstBuilt past = none)
    (hbetween : ∀ e ∈ between, e.asks = false) : firstBuilt (past ++ between) = none := by
  induction between using List.reverseRecOn with
  | nil => rw [List.append_nil, h]
  | append_singleton between e ih =>
      have hnone := ih fun d hd => hbetween d (List.mem_append_left _ hd)
      rw [← List.append_assoc]
      cases hreset : e.resets with
      | true => exact firstBuilt_concat_of_reset hreset _
      | false =>
          rw [firstBuilt_concat hreset, hnone, Event.builds?, hbetween e List.mem_concat_self]
          rfl

-- ── one step ──────────────────────────────────────────────────────────────

/-- A request is answered by what is kept, or else by the host. -/
theorem get_fst (cache : SettingsCache) (host : Host) :
    (cache.get host).1 = (cache.known.map Except.ok).getD (built host) := by
  rw [get]
  cases cache.known with
  | some settings => rfl
  | none =>
      dsimp only
      rw [built]
      cases Settings.read host [] <;> rfl

/-- What is kept after a request: what was kept before, or else what the host gave. -/
theorem known_get (cache : SettingsCache) (host : Host) :
    (cache.get host).2.known = cache.known.or (built host).toOption := by
  rw [get]
  cases hknown : cache.known with
  | some settings => exact hknown
  | none =>
      dsimp only
      rw [built]
      cases Settings.read host [] with
      | ok settings => rfl
      | error f => exact hknown

namespace Situation

/-- **THE STEP OF SETTINGS**: an action does to what is kept what it does to the first success. -/
theorem firstBuilt_step {s : Situation} {past : List Event} (h : s.cache.known = firstBuilt past) (a : Action) :
    (s.step a).2.cache.known = firstBuilt (past ++ [s.event a]) := by
  cases a with
  | reset => exact (firstBuilt_concat_of_reset rfl past).symm
  | edit change =>
      rw [firstBuilt_concat rfl, ← h]
      exact (Option.or_none).symm
  | get =>
      rw [firstBuilt_concat rfl, ← h]
      exact known_get s.cache s.host

theorem host_step {s : Situation} {host : Host} {past : List Event} (h : s.host = edited host past) (a : Action) :
    (s.step a).2.host = edited host (past ++ [s.event a]) := by
  rw [edited, List.foldl_append]
  show _ = edited (edited host past) [s.event a]
  rw [← h]
  cases a <;> rfl

end Situation

-- ── runs ──────────────────────────────────────────────────────────────────

/-- How an event follows what was before it, in a process that started on a host. -/
structure Event.Follows (host : Host) (past : List Event) (e : Event) : Prop where
  reached : e.before.host = edited host past
  kept : e.before.cache.known = firstBuilt past
  keeps : e.after.cache.known = firstBuilt (past ++ [e])
  /-- A request answers the first success, or else as the host is then. -/
  answer : e.answer = if e.asks then some (((firstBuilt past).map Except.ok).getD (built (edited host past))) else none

theorem Situation.follows_event {s : Situation} {host : Host} {past : List Event} (hhost : s.host = edited host past)
    (hkept : s.cache.known = firstBuilt past) (a : Action) : (s.event a).Follows host past where
  reached := hhost
  kept := hkept
  keeps := firstBuilt_step hkept a
  answer := by
    cases a with
    | edit change => rfl
    | reset => rfl
    | get =>
        rw [← hhost, ← hkept]
        exact congrArg some (get_fst s.cache s.host)

/-- **THE RUN OF SETTINGS**: every event follows what was before it. The induction is on the actions, from
    every situation that some events led to. -/
theorem follows_of_run {host : Host} {s : Situation} {done : List Event} (hhost : s.host = edited host done)
    (hkept : s.cache.known = firstBuilt done) (actions : List Action) :
    ∀ (past : List Event) (e : Event) (future : List Event),
      s.run actions = past ++ e :: future → e.Follows host (done ++ past) := by
  induction actions generalizing s done with
  | nil =>
      intro past e future h
      exact absurd h.symm (List.append_ne_nil_of_right_ne_nil past (List.cons_ne_nil e future))
  | cons a rest ih =>
      intro past e future h
      rw [Situation.run] at h
      cases past with
      | nil =>
          obtain ⟨rfl, -⟩ := List.cons.inj h
          rw [List.append_nil]
          exact s.follows_event hhost hkept a
      | cons first past =>
          obtain ⟨rfl, hrest⟩ := List.cons.inj h
          have hnext := ih (Situation.host_step hhost a) (Situation.firstBuilt_step hkept a) past e future hrest
          rw [List.append_assoc] at hnext
          exact hnext

theorem actions_of_run (s : Situation) (actions : List Action) : (s.run actions).map (·.action) = actions := by
  induction actions generalizing s with
  | nil => rfl
  | cons a rest ih =>
      rw [Situation.run, List.map_cons, ih]
      rfl

-- ── what a request settles ────────────────────────────────────────────────

namespace Event.Follows

variable {host : Host} {past : List Event} {e : Event}

/-- An answer is one to a request. -/
theorem answer_of_some {answer : Except Failure Settings} (h : e.Follows host past) (he : e.answer = some answer) :
    e.asks = true ∧ ((firstBuilt past).map Except.ok).getD (built e.before.host) = answer := by
  have hanswer := h.answer
  rw [he, ← h.reached] at hanswer
  split at hanswer
  · rename_i hasks
    exact ⟨hasks, (Option.some.inj hanswer).symm⟩
  · cases hanswer

theorem resets_eq_false (h : e.asks = true) : e.resets = false := by
  rw [Event.asks] at h
  rw [Event.resets]
  cases haction : e.action with
  | get => rfl
  | edit change => rfl
  | reset =>
      rw [haction] at h
      cases h

theorem builds?_of_asks (h : e.asks = true) : e.builds? = (built e.before.host).toOption := by
  rw [Event.builds?, if_pos h]

/-- What a request answers is the first success from then on. -/
theorem firstBuilt_of_ok {settings : Settings} (h : e.Follows host past) (he : e.answer = some (.ok settings)) :
    firstBuilt (past ++ [e]) = some settings := by
  obtain ⟨hasks, hanswer⟩ := h.answer_of_some he
  rw [firstBuilt_concat (resets_eq_false hasks), builds?_of_asks hasks]
  cases hfirst : firstBuilt past with
  | some s =>
      rw [hfirst] at hanswer
      exact congrArg some (Except.ok.inj hanswer)
  | none =>
      rw [hfirst] at hanswer
      have hbuilt : built e.before.host = .ok settings := hanswer
      rw [hbuilt]
      rfl

/-- A request that fails is no success, and there was none before it. -/
theorem firstBuilt_of_error {f : Failure} (h : e.Follows host past) (he : e.answer = some (.error f)) :
    firstBuilt (past ++ [e]) = none := by
  obtain ⟨hasks, hanswer⟩ := h.answer_of_some he
  rw [firstBuilt_concat (resets_eq_false hasks), builds?_of_asks hasks]
  cases hfirst : firstBuilt past with
  | some s =>
      rw [hfirst] at hanswer
      cases hanswer
  | none =>
      rw [hfirst] at hanswer
      have hbuilt : built e.before.host = .error f := hanswer
      rw [hbuilt]
      rfl

theorem answer_of_asks (h : e.Follows host past) (he : e.asks = true) :
    e.answer = some (((firstBuilt past).map Except.ok).getD (built e.before.host)) := by
  rw [h.answer, if_pos he, ← h.reached]

end Event.Follows

/-- What the events of a process are like that started on a host and was taken through actions. -/
structure KeepFirst (host : Host) (actions : List Action) (events : List Event) : Prop where
  /-- There is one event for each action. -/
  actions : events.map (·.action) = actions
  follows {past future : List Event} {e : Event} (h : events = past ++ e :: future) : e.Follows host past
  /-- What a request answers, all requests answer up to the next reset. -/
  stays {past between future : List Event} {e e' : Event} {settings : Settings}
    (h : events = past ++ e :: (between ++ e' :: future)) (he : e.answer = some (.ok settings))
    (hbetween : ∀ d ∈ between, d.resets = false) (he' : e'.asks = true) : e'.answer = some (.ok settings)
  /-- After a failure nothing is kept, and the next request builds from the host as it is then. -/
  buildsAgain {past between future : List Event} {e e' : Event} {f : Failure}
    (h : events = past ++ e :: (between ++ e' :: future)) (he : e.answer = some (.error f))
    (hbetween : ∀ d ∈ between, d.asks = false) (he' : e'.asks = true) :
    e.after.cache.known = none ∧ e'.answer = some (built e'.before.host)

/-- The events up to a later one. -/
theorem events_regroup {events past between future : List Event} {e e' : Event}
    (h : events = past ++ e :: (between ++ e' :: future)) : events = (past ++ [e] ++ between) ++ e' :: future := by
  rw [h, List.append_assoc, List.append_assoc]
  rfl

/-- **RUNS KEEP THE FIRST SUCCESS**, in every process from its start: whatever is done in it, each request
    answers the settings that were built at the first request after the last reset at which the host gave
    any, or, as long as it gave none, what the host gives then. -/
theorem runs_keep_first (host : Host) (actions : List Action) : KeepFirst host actions ((start host).run actions) := by
  have hfollows {past future : List Event} {e : Event} (h : (start host).run actions = past ++ e :: future) :
      e.Follows host past :=
    @follows_of_run host (start host) [] rfl rfl actions past e future h
  refine ⟨actions_of_run _ actions, hfollows, ?_, ?_⟩
  · intro past between future e e' settings h he hbetween he'
    have hkept := firstBuilt_append ((hfollows h).firstBuilt_of_ok he) hbetween
    rw [(hfollows (events_regroup h)).answer_of_asks he', hkept]
    rfl
  · intro past between future e e' f h he hbetween he'
    have hnone := (hfollows h).firstBuilt_of_error he
    refine ⟨(hfollows h).keeps.trans hnone, ?_⟩
    rw [(hfollows (events_regroup h)).answer_of_asks he', firstBuilt_append_of_quiet hnone hbetween]
    rfl

namespace Sample

/-- A host that gives no settings, so that every one has its default. -/
def plain : Host := { files := ⟨[], []⟩, environment := [] }

/-- A host that gives something else than a truth value for one. -/
def doubtful : Host := { plain with environment := [("UILOCATOR_DEBUG_MODE", "maybe")] }

/-- Requests on the doubtful host, on the plain one, on the doubtful one again, and after a reset. -/
def actions : List Action := [.get, .edit fun _ => plain, .get, .edit fun _ => doubtful, .get, .reset, .get]

end Sample

example : ((start Sample.doubtful).run Sample.actions).map (fun e => e.answer.map fun a => a matches .ok _) =
    [some false, none, some true, none, some true, none, some false] := by decide +kernel

end ElementLocator.SettingsCache
