import ElementLocator.Settings

/-! # Settings where none are given

    * `Settings.Absent` — a machine on which nothing gives a setting;
    * `Settings.Absent.read` — there every field has its default. -/

namespace ElementLocator.Settings

/-- A host gives no settings: no variable of its environment is one, and there is no file of
    variables. -/
structure Absent (host : Host) : Prop where
  environment : ∀ v ∈ host.environment, ∀ field ∈ fieldNames, lowered v.1 ≠ variableStart ++ field
  file : ∃ f, host.files.read (.ofString variableFile) = .error f

theorem given?_eq_none {vars : List (String × Option String)} {field : String}
    (h : ∀ v ∈ vars, lowered v.1 ≠ variableStart ++ field) : given? vars field = none := by
  rw [given?, List.find?_eq_none.mpr]
  · rfl
  · intro v hv
    rw [beq_iff_eq]
    exact h v (List.mem_reverse.mp hv)

/-- Variables that are no settings give no fields. -/
theorem fromVariables_eq_nil {source : String} {vars : List (String × Option String)} :
    ∀ {fields : List String}, (∀ field ∈ fields, ∀ v ∈ vars, lowered v.1 ≠ variableStart ++ field) →
      fromVariables source vars fields = .ok []
  | [], _ => rfl
  | field :: rest, h => by
      rw [fromVariables, given?_eq_none (h field List.mem_cons_self),
        fromVariables_eq_nil fun other hother => h other (List.mem_cons_of_mem field hother)]
      rfl

/-- The depth limit where none is given. -/
def standardLevels : Nat := 200

/-- The settings where none are given. -/
def standard : Settings where
  configName := "ui_config"
  configFile := none
  searchPaths := []
  maxTreeDepth := ⟨standardLevels, by decide, by decide⟩
  logLevel := "INFO"
  logFile := none
  structuredLogs := false
  debugMode := false

/-- **WITHOUT SETTINGS** every field has its default. -/
theorem Absent.read {host : Host} (h : Absent host) : Settings.read host [] = .ok standard := by
  have hfile : fileVariables host = .ok [] := by
    obtain ⟨f, hf⟩ := h.file
    simp only [fileVariables]
    rw [hf]
  have henvironment : fromVariables "EnvSettingsSource" (host.environment.map fun v => (v.1, some v.2))
      fieldNames = .ok [] := by
    refine fromVariables_eq_nil ?_
    intro field hfield v hv
    obtain ⟨own, hown, rfl⟩ := List.mem_map.mp hv
    exact h.environment own hown field hfield
  rw [Settings.read, hfile, henvironment]
  rfl

/-- Nor is there another depth limit than the standard one. -/
theorem Absent.depthLimit {host : Host} (h : Absent host) :
    (SettingsCache.empty.depthLimit host none).1 = .ok standard.maxTreeDepth := by
  simp only [SettingsCache.depthLimit, SettingsCache.get, SettingsCache.empty]
  rw [h.read]
  rfl

end ElementLocator.Settings
