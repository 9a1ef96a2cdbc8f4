import ElementLocator.Host
import ElementLocator.Json.Reader
import ElementLocator.Report
import ElementLocator.Settings.VariableFile

/-! # Settings

    Settings come from three places: values given directly, variables of the environment whose
    names start with `UILOCATOR_`, and the variables in a file `.env` of the working
    directory. The first place that gives a field wins, and what no place gives has a default.
    The spelling of names in capitals or small letters does not matter.

    Settings are read once and kept until they are forgotten; what fails is not kept. -/

namespace ElementLocator

/-- The settings of the library. -/
structure Settings where
  configName : String
  configFile : Option Path
  searchPaths : List Path
  maxTreeDepth : DepthLimit
  logLevel : String
  logFile : Option Path
  structuredLogs : Bool
  debugMode : Bool

namespace Settings

/-- The start of the names of variables that hold settings. -/
def variableStart : String := "uilocator_"

/-- The file of variables. -/
def variableFile : String := ".env"

/-- The field whose values are written as lists. -/
def listField : String := "config_search_paths"

/-- The names of the fields, in order. -/
def fieldNames : List String :=
  ["config_name", "config_file", listField, "max_tree_depth", "log_level", "log_file",
    "structured_logs", "debug_mode"]

/-- A text in small letters. -/
def lowered (s : String) : String := String.ofList (s.toList.map Char.toLower)

/-- The value that variables give for a field; of several spellings of its name the last
    counts. -/
def given? (vars : List (String × Option String)) (field : String) : Option String :=
  (vars.reverse.find? fun v => lowered v.1 == variableStart ++ field).bind (·.2)

/-- The fields that variables give, each with its value. -/
def fromVariables (source : String) (vars : List (String × Option String)) :
    List String → Except Failure (List (String × Value))
  | [] => .ok []
  | field :: rest => do
    let own : List (String × Value) ← match given? vars field with
      | none => .ok []
      | some s =>
        if field == listField then
          match Json.parse? s with
          | none => .error (.settingUnreadable field source)
          | some .null => .ok []
          | some j => .ok [(field, .ofJson j)]
        else .ok [(field, .text s)]
    let others ← fromVariables source vars rest
    return own ++ others

/-- The variables in the file of the working directory, if it is there. -/
def fileVariables (host : Host) : Except Failure (List (String × Option String)) :=
  match host.files.read (.ofString variableFile) with
  | .error _ => .ok []
  | .ok content =>
    match textOfBytes (Text.Utf8.withoutMark content) with
    | .error f => .error (.undecodable f)
    | .ok text => .ok (VariableFile.read host.valueOf? text)

/-- The fields given directly; of several spellings of a name the first counts. -/
def fromDirect (direct : List (String × Value)) : List (String × Value) :=
  fieldNames.filterMap fun field =>
    (direct.find? fun e => lowered e.1 == field).map fun e => (field, e.2)

-- ── checks ────────────────────────────────────────────────────────────────

/-- A path written as a text. -/
def path : Value → Checked Path
  | .text s => .ok (.ofString s)
  | _ => .refuse "Input is not a valid path for <class 'pathlib.Path'>"

/-- Paths from position `i` on. -/
def pathItems (i : Nat) : List Value → Checked (List Path)
  | [] => .ok []
  | v :: rest => ((path v).below (toString i)).cons (pathItems (i + 1) rest)

/-- A list of paths. -/
def paths : Value → Checked (List Path)
  | .list items => pathItems 0 items
  | _ => .refuse "Input should be a valid list"

/-- A depth limit within the permitted range. -/
def depth (v : Value) : Checked DepthLimit :=
  match Validation.whole v with
  | .error es => .error es
  | .ok n =>
    match DepthLimit.ofInt n with
    | .ok limit => .ok limit
    | .error _ =>
      if n < 1 then .refuse "Input should be greater than or equal to 1"
      else .refuse s!"Input should be less than or equal to {deepestLimit}"

/-- The message for what cannot be understood as a truth value. -/
def notTruth : String := "Input should be a valid boolean, unable to interpret input"

/-- The message for values of a kind that is never a truth value. -/
def neverTruth : String := "Input should be a valid boolean"

/-- The truth value of a number, if it is 0 or 1. -/
def truthOfInt (n : Int) : Checked Bool :=
  if n = 1 then .ok true else if n = 0 then .ok false else .refuse notTruth

/-- The words for true. -/
def trueWords : List String := ["1", "on", "t", "true", "y", "yes"]

/-- The words for false. -/
def falseWords : List String := ["0", "off", "f", "false", "n", "no"]

/-- A truth value: one itself, one of the words for it, or the numbers 0 and 1. Whole numbers
    beyond 64 bits, and fractions from 2^63 on, are of a kind that is never a truth value. -/
def truth : Value → Checked Bool
  | .bool b => .ok b
  | .text s =>
    if trueWords.contains (lowered s) then .ok true
    else if falseWords.contains (lowered s) then .ok false
    else .refuse notTruth
  | .int n =>
    if -(Nat.pow 2 63 : Int) ≤ n ∧ n < (Nat.pow 2 63 : Int) then truthOfInt n else .refuse neverTruth
  | .float x =>
    match x.toInt? with
    | some n => if n.natAbs < Nat.pow 2 63 then truthOfInt n else .refuse neverTruth
    | none => .refuse neverTruth
  | _ => .refuse neverTruth

/-- The value of a field, checked, or its default. -/
def readField {α : Type} (fields : List (String × Value)) (name : String) (default : α)
    (check : Value → Checked α) : Checked α :=
  match fields.find? (·.1 == name) with
  | some e => (check e.2).below name
  | none => .ok default

/-- The settings of given fields. -/
def ofFields (fields : List (String × Value)) : Checked Settings :=
  let configName := readField fields "config_name" "ui_config" Validation.text
  let configFile := readField fields "config_file" none (Validation.optional path)
  let searchPaths := readField fields listField [] paths
  let maxTreeDepth := readField fields "max_tree_depth" ⟨200, by omega, by decide⟩ depth
  let logLevel := readField fields "log_level" "INFO" Validation.text
  let logFile := readField fields "log_file" none (Validation.optional path)
  let structuredLogs := readField fields "structured_logs" false truth
  let debugMode := readField fields "debug_mode" false truth
  let errors := configName.errors ++ configFile.errors ++ searchPaths.errors ++ maxTreeDepth.errors ++
    logLevel.errors ++ logFile.errors ++ structuredLogs.errors ++ debugMode.errors
  Checked.orErrors
    ⟨configName.getD "", configFile.getD none, searchPaths.getD [],
      maxTreeDepth.getD ⟨200, by omega, by decide⟩, logLevel.getD "", logFile.getD none,
      structuredLogs.getD false, debugMode.getD false⟩ errors

/-- Fields of two places: those of the first count. -/
def before (first second : List (String × Value)) : List (String × Value) :=
  first ++ second.filter fun e => !first.any (·.1 == e.1)

/-- Reads the settings on a host, with values given directly. -/
def read (host : Host) (direct : List (String × Value)) : Except Failure Settings := do
  let inFile ← fileVariables host
  let fromEnvironment ← fromVariables "EnvSettingsSource"
    (host.environment.map fun v => (v.1, some v.2)) fieldNames
  let fromFile ← fromVariables "DotEnvSettingsSource" inFile fieldNames
  let fields := before (fromDirect direct) (before fromEnvironment fromFile)
  (ofFields fields).mapError .settingsInvalid

end Settings

/-- The settings of a process, once they are read. -/
structure SettingsCache where
  known : Option Settings

namespace SettingsCache

/-- A cache before anything is read, or after it was told to forget. -/
def empty : SettingsCache := ⟨none⟩

/-- The settings: those kept, or those that the host gives now, which are then kept. -/
def get (cache : SettingsCache) (host : Host) : Except Failure Settings × SettingsCache :=
  match cache.known with
  | some s => (.ok s, cache)
  | none =>
    match Settings.read host [] with
    | .ok s => (.ok s, ⟨some s⟩)
    | .error f => (.error f, cache)

/-- The depth limit asked for, or else that of the settings. -/
def depthLimit (cache : SettingsCache) (host : Host) (asked : Option Int) :
    Except Failure DepthLimit × SettingsCache :=
  match asked with
  | some n => (DepthLimit.ofInt n, cache)
  | none =>
    let (settings, cache) := cache.get host
    (settings.map (·.maxTreeDepth), cache)

end SettingsCache

end ElementLocator
