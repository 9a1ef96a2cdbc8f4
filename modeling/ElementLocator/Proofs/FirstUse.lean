import ElementLocator.Log.Process

/-! # The first use of logs

    A process sets its logs up when they are first used, as its settings want them, or by defaults where that
    cannot be done. What fails may have set up half of them by then.

    * `LogProcess.setUp_ends` — what setting the logs up can come to;
    * `LogProcess.sameSetup_of_recovers` — a failure that is recovered from leaves nothing behind in the logs;
    * `LogProcess.after_of_begun` — later uses change nothing, whatever else happens;
    * `LogProcess.first_use_sets_up` — what the first use leaves, and the one case in which it fails. -/

namespace ElementLocator

-- ── settings ──────────────────────────────────────────────────────────────

namespace Settings

theorem bind_ne_noHome {α β : Type} {x : Except Failure α} {f : α → Except Failure β} (hx : x ≠ .error .noHome)
    (hf : ∀ a, f a ≠ .error .noHome) : (x >>= f) ≠ .error .noHome := by
  cases x with
  | error e => exact fun h => hx (congrArg Except.error (Except.error.inj h))
  | ok a => exact hf a

theorem fromVariables_ne_noHome (source : String) (vars : List (String × Option String)) (fields : List String) :
    fromVariables source vars fields ≠ .error .noHome := by
  induction fields with
  | nil => exact nofun
  | cons field rest ih =>
      have hothers (own : List (String × Value)) :
          (do
            let others ← fromVariables source vars rest
            pure (own ++ others) : Except Failure _) ≠ .error .noHome :=
        bind_ne_noHome ih fun others h => by cases h
      rw [fromVariables]
      cases given? vars field with
      | none => exact hothers []
      | some s =>
          dsimp only
          split
          · split
            · exact fun h => by cases h
            · exact hothers []
            · exact hothers _
          · exact hothers _

/-- Settings are refused for other reasons than the want of a home directory. -/
theorem read_ne_noHome (host : Host) (direct : List (String × Value)) : read host direct ≠ .error .noHome := by
  have hfile : fileVariables host ≠ .error .noHome := by
    simp only [fileVariables]
    split
    · exact nofun
    · split <;> exact nofun
  rw [read]
  refine bind_ne_noHome hfile fun inFile => bind_ne_noHome (fromVariables_ne_noHome _ _ _) fun own =>
    bind_ne_noHome (fromVariables_ne_noHome _ _ _) fun others => ?_
  show (ofFields (before (fromDirect direct) (before own others))).mapError Failure.settingsInvalid ≠ _
  generalize ofFields (before (fromDirect direct) (before own others)) = checked
  cases checked <;> exact fun h => by cases h

theorem get_ne_noHome (cache : SettingsCache) (host : Host) : (cache.get host).1 ≠ .error .noHome := by
  rw [SettingsCache.get]
  cases cache.known with
  | some s => exact nofun
  | none =>
      dsimp only
      cases hread : read host [] with
      | ok s => exact nofun
      | error f => exact fun h => read_ne_noHome host [] (hread.trans (congrArg Except.error (Except.error.inj h)))

end Settings

namespace LogProcess

open LogSetup (severity?)

variable {p : LogProcess} {o : LogOptions}

-- ── setting up ────────────────────────────────────────────────────────────

/-- What setting the logs of a process up by options can come to. -/
inductive SetUpEnds (p : LogProcess) (o : LogOptions) : Except Failure Unit × LogProcess → Prop
  /-- No level has the name: nothing changes. -/
  | unknownLevel (hlevel : severity? o.level = none) : SetUpEnds p o (.error (.unknownLevel o.level), p)
  | withoutFile {threshold : Nat} (hlevel : severity? o.level = some threshold) (hfile : o.file = none) :
    SetUpEnds p o (.ok (), { p.styled o with target := some ⟨threshold, showsConsole p.host o, none⟩ })
  | opened {threshold : Nat} {path : Path} {names : List String} {files : FileSystem}
    (hlevel : severity? o.level = some threshold) (hfile : o.file = some path)
    (hopened : openFile p.host path = (.ok names, files)) :
    SetUpEnds p o (.ok (), { (p.styled o).withFiles files with
      target := some ⟨threshold, showsConsole p.host o, some names⟩ })
  /-- The file cannot be opened: lines have their look, and go where they went. -/
  | notOpened {threshold : Nat} {path : Path} {f : Failure} {files : FileSystem}
    (hlevel : severity? o.level = some threshold) (hfile : o.file = some path)
    (hopened : openFile p.host path = (.error f, files)) :
    SetUpEnds p o (.error f, (p.styled o).withFiles files)

/-- **ENDS OF SETTING UP**: there are no others. -/
theorem setUp_ends (p : LogProcess) (o : LogOptions) : SetUpEnds p o (p.setUp o) := by
  rw [setUp]
  cases hlevel : severity? o.level with
  | none => exact .unknownLevel hlevel
  | some threshold =>
      cases hfile : o.file with
      | none => exact .withoutFile hlevel hfile
      | some path =>
          dsimp only
          rcases hopened : openFile p.host path with ⟨opened, files⟩
          cases opened with
          | ok names => exact .opened hlevel hfile hopened
          | error f => exact .notOpened hlevel hfile hopened

/-- By defaults the logs can always be set up. -/
theorem setUp_default (p : LogProcess) :
    p.setUp {} = (.ok (), { p.styled {} with target := some ⟨20, showsConsole p.host {}, none⟩ }) := by
  have hlevel : severity? ({} : LogOptions).level = some 20 := by decide +kernel
  rw [setUp, hlevel]

-- ── what is left behind ───────────────────────────────────────────────────

/-- The logs of two processes are set up alike. -/
def SameSetup (p q : LogProcess) : Prop := p.style = q.style ∧ p.target = q.target

/-- A process that differs at most in its files and its logs. -/
structure SameElse (p q : LogProcess) : Prop where
  cache : p.cache = q.cache
  begun : p.begun = q.begun
  environment : p.host.environment = q.host.environment

theorem SameElse.setUp (p : LogProcess) (o : LogOptions) : SameElse (p.setUp o).2 p := by
  have hends := setUp_ends p o
  revert hends
  generalize p.setUp o = done
  intro hends
  cases hends <;> exact ⟨rfl, rfl, rfl⟩

/-- Where lines go and how they look by defaults depends on the environment alone. -/
theorem SameElse.sameSetup_default {q : LogProcess} (h : SameElse q p) : SameSetup (q.setUp {}).2 (p.setUp {}).2 := by
  have hvalue : q.host.valueOf? consoleVariable = p.host.valueOf? consoleVariable := by
    rw [Host.valueOf?, h.environment, Host.valueOf?]
  have hconsole (o : LogOptions) : showsConsole q.host o = showsConsole p.host o := by
    rw [showsConsole, hvalue, showsConsole]
  rw [setUp_default, setUp_default]
  refine ⟨?_, ?_⟩
  · show some (styleOf q.host {}) = some (styleOf p.host {})
    rw [styleOf, hconsole, styleOf]
  · show some (⟨20, showsConsole q.host {}, none⟩ : LogTarget) = some ⟨20, showsConsole p.host {}, none⟩
    rw [hconsole]

-- ── homes ─────────────────────────────────────────────────────────────────

/-- The log file that options name is in a home directory that is not known. -/
def Homeless (host : Host) (o : LogOptions) : Prop :=
  (severity? o.level).isSome ∧ ∃ path, o.file = some path ∧ path.expandHome host.homeOf? = .error .noHome

/-- A log file is refused for want of a home directory only where that is not known. -/
theorem expandHome_of_openFile {host : Host} {path : Path} (h : (openFile host path).1 = .error .noHome) :
    path.expandHome host.homeOf? = .error .noHome := by
  cases hpath : path.expandHome host.homeOf? with
  | error f =>
      rw [openFile, hpath] at h
      cases h
      rfl
  | ok q =>
      rw [openFile, hpath] at h
      dsimp only at h
      split at h
      · cases h
      · split at h
        · cases h
        · cases h
        · split at h <;> cases h
        · cases h

theorem openFile_of_expandHome {host : Host} {path : Path} (h : path.expandHome host.homeOf? = .error .noHome) :
    openFile host path = (.error .noHome, host.files) := by
  rw [openFile, h]

/-- Setting up fails for want of a home directory only where that of the log file is not known. -/
theorem homeless_of_setUp (h : (p.setUp o).1 = .error .noHome) : Homeless p.host o := by
  have hends := setUp_ends p o
  revert hends h
  generalize p.setUp o = done
  intro h hends
  cases hends with
  | unknownLevel _ => cases h
  | withoutFile _ _ => cases h
  | opened _ _ _ => cases h
  | notOpened hlevel hfile hopened =>
      refine ⟨by rw [hlevel]; rfl, _, hfile, expandHome_of_openFile ?_⟩
      rw [hopened, Except.error.inj h]

theorem Homeless.setUp (h : Homeless p.host o) : p.setUp o = (.error .noHome, p.styled o) := by
  obtain ⟨hlevel, path, hfile, hhome⟩ := h
  obtain ⟨threshold, hlevel⟩ := Option.isSome_iff_exists.mp hlevel
  rw [LogProcess.setUp, hlevel, hfile]
  dsimp only
  rw [openFile_of_expandHome hhome]
  rfl

-- ── first uses ────────────────────────────────────────────────────────────

variable {s : Settings} {f : Failure}

/-- The settings that a process keeps, or that its host gives. -/
def settings (p : LogProcess) : Except Failure Settings := (p.cache.get p.host).1

/-- A process that uses its logs and has asked for its settings. -/
def asked (p : LogProcess) : LogProcess := { p with begun := true, cache := (p.cache.get p.host).2 }

theorem recovers_of_ne (h : f ≠ .noHome) : recovers f = true := by
  cases f
  case noHome => exact absurd rfl h
  all_goals rfl

theorem setUpFromSettings_of_ok (hs : p.settings = .ok s) :
    setUpFromSettings { p with begun := true } = p.asked.setUp (optionsOf s) := by
  have hget : p.cache.get p.host = (.ok s, (p.cache.get p.host).2) := Prod.ext hs rfl
  rw [setUpFromSettings, hget]
  rfl

theorem setUpFromSettings_of_error (hs : p.settings = .error f) :
    setUpFromSettings { p with begun := true } = (.error f, p.asked) := by
  have hget : p.cache.get p.host = (.error f, (p.cache.get p.host).2) := Prod.ext hs rfl
  rw [setUpFromSettings, hget]
  rfl

theorem use_of_begun (h : p.begun = true) : p.use = (.ok (), p) := by
  rw [use, if_pos h]

section

variable (hfresh : p.begun = false)

include hfresh

theorem use_of_ok (hs : p.settings = .ok s) (hok : (p.asked.setUp (optionsOf s)).1 = .ok ()) :
    p.use = p.asked.setUp (optionsOf s) := by
  have hdone : p.asked.setUp (optionsOf s) = (.ok (), (p.asked.setUp (optionsOf s)).2) := Prod.ext hok rfl
  rw [use, hfresh, setUpFromSettings_of_ok hs, hdone]
  rfl

theorem use_of_invalid (hs : p.settings = .error f) : p.use = p.asked.setUp {} := by
  have hne : f ≠ .noHome := by
    rintro rfl
    exact Settings.get_ne_noHome p.cache p.host hs
  rw [use, hfresh, setUpFromSettings_of_error hs]
  exact if_pos (recovers_of_ne hne)

theorem use_of_recovers (hs : p.settings = .ok s) (hf : (p.asked.setUp (optionsOf s)).1 = .error f)
    (hne : f ≠ .noHome) : p.use = (p.asked.setUp (optionsOf s)).2.setUp {} := by
  have hdone : p.asked.setUp (optionsOf s) = (.error f, (p.asked.setUp (optionsOf s)).2) := Prod.ext hf rfl
  rw [use, hfresh, setUpFromSettings_of_ok hs, hdone]
  exact if_pos (recovers_of_ne hne)

theorem use_of_homeless (hs : p.settings = .ok s) (h : Homeless p.host (optionsOf s)) :
    p.use = (.error .noHome, p.asked.styled (optionsOf s)) := by
  have hasked : Homeless p.asked.host (optionsOf s) := h
  rw [use, hfresh, setUpFromSettings_of_ok hs, hasked.setUp]
  rfl

/-- **A FAILURE THAT IS RECOVERED FROM** leaves nothing behind in the logs. -/
theorem sameSetup_of_recovers (hs : p.settings = .ok s) (hf : (p.asked.setUp (optionsOf s)).1 = .error f)
    (hne : f ≠ .noHome) : p.use.1 = .ok () ∧ SameSetup p.use.2 (p.asked.setUp {}).2 := by
  rw [use_of_recovers hfresh hs hf hne]
  refine ⟨?_, (SameElse.setUp p.asked (optionsOf s)).sameSetup_default⟩
  rw [setUp_default]

theorem begun_use : p.use.2.begun = true := by
  have hasked : p.asked.begun = true := rfl
  cases hs : p.settings with
  | error f =>
      rw [use_of_invalid hfresh hs, (SameElse.setUp _ _).begun, hasked]
  | ok s =>
      cases hdone : (p.asked.setUp (optionsOf s)).1 with
      | ok u => rw [use_of_ok hfresh hs hdone, (SameElse.setUp _ _).begun, hasked]
      | error f =>
          by_cases hf : f = .noHome
          · subst hf
            rw [use_of_homeless hfresh hs (homeless_of_setUp (p := p.asked) hdone)]
            rfl
          · rw [use_of_recovers hfresh hs hdone hf, (SameElse.setUp _ _).begun, (SameElse.setUp _ _).begun, hasked]

end

-- ── later uses ────────────────────────────────────────────────────────────

/-- What can happen in a process: its host changes, its settings are forgotten, its logs are set up by options,
    or they are used. -/
inductive Action
  | edit (change : Host → Host)
  | forget
  | setUp (o : LogOptions)
  | use

/-- The process after an action. -/
def step (p : LogProcess) : Action → LogProcess
  | .edit change => { p with host := change p.host }
  | .forget => { p with cache := .empty }
  | .setUp o => (p.setUp o).2
  | .use => p.use.2

/-- The process after actions. -/
def after (p : LogProcess) (actions : List Action) : LogProcess := actions.foldl step p

/-- **THE STEP OF A PROCESS** whose logs were used: they stay used, and unless they are set up by options they
    stay as they are. -/
theorem step_of_begun (h : p.begun = true) (a : Action) :
    (p.step a).begun = true ∧ ((∀ o, a ≠ .setUp o) → SameSetup (p.step a) p) := by
  cases a with
  | edit change => exact ⟨h, fun _ => ⟨rfl, rfl⟩⟩
  | forget => exact ⟨h, fun _ => ⟨rfl, rfl⟩⟩
  | setUp o => exact ⟨(SameElse.setUp p o).begun.trans h, fun hother => absurd rfl (hother o)⟩
  | use =>
      rw [step, use_of_begun h]
      exact ⟨h, fun _ => ⟨rfl, rfl⟩⟩

/-- **THE RUN OF A PROCESS** whose logs were used. The induction is on what happens. -/
theorem after_of_begun (h : p.begun = true) (actions : List Action) :
    (p.after actions).begun = true ∧
      ((∀ a ∈ actions, ∀ o, a ≠ .setUp o) → SameSetup (p.after actions) p) := by
  induction actions generalizing p with
  | nil => exact ⟨h, fun _ => ⟨rfl, rfl⟩⟩
  | cons a rest ih =>
      obtain ⟨hbegun, hsame⟩ := step_of_begun h a
      obtain ⟨hend, hrest⟩ := ih hbegun
      refine ⟨hend, fun hothers => ?_⟩
      have hfirst := hsame (hothers a List.mem_cons_self)
      have hlast := hrest fun b hb => hothers b (List.mem_cons_of_mem a hb)
      exact ⟨hlast.1.trans hfirst.1, hlast.2.trans hfirst.2⟩

-- ── the whole ─────────────────────────────────────────────────────────────

/-- What the first use of logs comes to in a process. -/
structure SetsUpOnce (p : LogProcess) : Prop where
  /-- By defaults the logs can be set up. -/
  plain : (p.asked.setUp {}).1 = .ok ()
  /-- They are set up as the settings want them, if that can be done. -/
  asWanted {s : Settings} (hs : p.settings = .ok s) (hok : (p.asked.setUp (optionsOf s)).1 = .ok ()) :
    p.use = p.asked.setUp (optionsOf s)
  /-- Invalid settings lead to the defaults. -/
  invalid {f : Failure} (hs : p.settings = .error f) : p.use.1 = .ok () ∧ SameSetup p.use.2 (p.asked.setUp {}).2
  /-- So does an unknown level. -/
  unknownLevel {s : Settings} (hs : p.settings = .ok s) (hlevel : severity? (optionsOf s).level = none) :
    p.use.1 = .ok () ∧ SameSetup p.use.2 (p.asked.setUp {}).2
  /-- So does a log file that cannot be used, if its home directory is known. -/
  unusable {s : Settings} {f : Failure} (hs : p.settings = .ok s)
    (hf : (p.asked.setUp (optionsOf s)).1 = .error f) (hhome : ¬ Homeless p.host (optionsOf s)) :
    p.use.1 = .ok () ∧ SameSetup p.use.2 (p.asked.setUp {}).2
  /-- Where the home directory of the log file is not known the use fails, and the logs are half set up. -/
  homeless {s : Settings} (hs : p.settings = .ok s) (h : Homeless p.host (optionsOf s)) :
    p.use = (.error .noHome, p.asked.styled (optionsOf s))
  /-- There is no other failure. -/
  succeeds : p.use.1 = .ok () ↔ ¬ ∃ s, p.settings = .ok s ∧ Homeless p.host (optionsOf s)
  /-- Later uses change nothing at all, whatever happens in between. -/
  once (actions : List Action) : (p.use.2.after actions).use = (.ok (), p.use.2.after actions)
  /-- The logs stay as the first use left them, unless they are set up by options. -/
  stays (actions : List Action) (h : ∀ a ∈ actions, ∀ o, a ≠ .setUp o) : SameSetup (p.use.2.after actions) p.use.2

/-- **THE FIRST USE SETS THE LOGS UP**, in every process whose logs were not used before, on every host and
    whatever its settings. -/
theorem first_use_sets_up (hfresh : p.begun = false) : SetsUpOnce p := by
  have hplain : (p.asked.setUp {}).1 = .ok () := by rw [setUp_default]
  have hinvalid {f : Failure} (hs : p.settings = .error f) :
      p.use.1 = .ok () ∧ SameSetup p.use.2 (p.asked.setUp {}).2 := by
    rw [use_of_invalid hfresh hs]
    exact ⟨hplain, rfl, rfl⟩
  have hunusable {s : Settings} {f : Failure} (hs : p.settings = .ok s)
      (hf : (p.asked.setUp (optionsOf s)).1 = .error f) (hhome : ¬ Homeless p.host (optionsOf s)) :
      p.use.1 = .ok () ∧ SameSetup p.use.2 (p.asked.setUp {}).2 := by
    refine sameSetup_of_recovers hfresh hs hf ?_
    rintro rfl
    exact hhome (homeless_of_setUp (p := p.asked) hf)
  refine ⟨hplain, use_of_ok hfresh, hinvalid, ?_, hunusable, use_of_homeless hfresh, ⟨?_, ?_⟩, ?_, ?_⟩
  · intro s hs hlevel
    have hdone : p.asked.setUp (optionsOf s) = (.error (.unknownLevel (optionsOf s).level), p.asked) := by
      rw [setUp, hlevel]
    refine hunusable hs (congrArg Prod.fst hdone) fun hhome => ?_
    rw [Homeless, hlevel] at hhome
    exact Bool.false_ne_true hhome.1
  · rintro hok ⟨s, hs, hhome⟩
    rw [use_of_homeless hfresh hs hhome] at hok
    cases hok
  · intro hhome
    cases hs : p.settings with
    | error f => exact (hinvalid hs).1
    | ok s =>
        cases hdone : (p.asked.setUp (optionsOf s)).1 with
        | ok u =>
            rw [use_of_ok hfresh hs hdone]
            exact hdone
        | error f => exact (hunusable hs hdone fun h => hhome ⟨s, hs, h⟩).1
  · intro actions
    exact use_of_begun (after_of_begun (begun_use hfresh) actions).1
  · intro actions hothers
    exact (after_of_begun (begun_use hfresh) actions).2 hothers

namespace Sample

/-- A process with an empty disk and one variable in its environment. -/
def fresh (name value : String) : LogProcess := { host := { files := ⟨[], []⟩, environment := [(name, value)] } }

/-- A process that wants a level which there is not. -/
def loud : LogProcess := fresh "UILOCATOR_LOG_LEVEL" "loud"

/-- A process that wants a file in the home of someone without one. -/
def elsewhere : LogProcess := fresh "UILOCATOR_LOG_FILE" "~nobody/uilocator.log"

theorem settings_loud : ∃ s, loud.settings = .ok s ∧ severity? (optionsOf s).level = none := by
  have hread : loud.settings.toOption.map (fun s => (severity? (optionsOf s).level).isNone) = some true := by
    decide +kernel
  cases hs : loud.settings with
  | ok s =>
      rw [hs] at hread
      exact ⟨s, rfl, Option.isNone_iff_eq_none.mp (Option.some.inj hread)⟩
  | error f =>
      rw [hs] at hread
      cases hread

end Sample

/-- An unknown level leads to the defaults, and a second use changes nothing. -/
theorem loud_is_set_up_by_default :
    Sample.loud.begun = false ∧ Sample.loud.use.1 = .ok () ∧
      SameSetup Sample.loud.use.2 (Sample.loud.asked.setUp {}).2 ∧
      Sample.loud.use.2.use = (.ok (), Sample.loud.use.2) := by
  have honce := first_use_sets_up (p := Sample.loud) rfl
  obtain ⟨s, hs, hlevel⟩ := Sample.settings_loud
  exact ⟨rfl, (honce.unknownLevel hs hlevel).1, (honce.unknownLevel hs hlevel).2, honce.once []⟩

/-- The first use need not succeed: a log file in a home directory that is not known ends it. -/
theorem unknown_home_is_not_recovered : ¬ ∀ host : Host, (use { host := host }).1 = .ok () := by
  intro h
  have hfails : Sample.elsewhere.use.1.isOk = false := by decide +kernel
  have hok : Sample.elsewhere.use.1 = .ok () := h Sample.elsewhere.host
  rw [hok] at hfails
  cases hfails

end LogProcess

end ElementLocator
