import ElementLocator.FileSystem
import ElementLocator.Log.Line

/-! # Logs that are set up

    Where log lines go and how they look: which levels are written, to the console and to a
    file or neither, as text or as plain data. -/

namespace ElementLocator

/-- What is wanted of the logs. -/
structure LogOptions where
  level : String := "INFO"
  file : Option Path := none
  structured : Bool := false
  console : Bool := true
  timestamps : Bool := true
  callerInfo : Bool := false
  colors : Bool := false

/-- Why options of any kind cannot be used. -/
inductive LogOptions.Fault
  /-- There is no option of a name. -/
  | misfit (f : Signature.Fault)
  /-- The level is no text. -/
  | noLevel (kind : String)
  /-- The file is no path. -/
  | noPath (kind : String)

/-- Where lines go: the least severity written, and whether to the console and to a file. The file is
    the names that lead to it. -/
structure LogTarget where
  threshold : Nat
  console : Bool
  file : Option (List String)

/-- How lines look. -/
structure LogStyle where
  structured : Bool
  timestamps : Bool
  callerInfo : Bool
  colors : Bool

/-- Logs that are set up. -/
structure LogSetup extends LogTarget, LogStyle

namespace LogSetup

/-- The levels by name. -/
def levels : List (String × Nat) :=
  [("CRITICAL", 50), ("FATAL", 50), ("ERROR", 40), ("WARN", 30), ("WARNING", 30), ("INFO", 20),
    ("DEBUG", 10), ("NOTSET", 0)]

/-- The capital form of a letter, as far as it is a capital of ASCII. -/
def capital (c : Char) : Char :=
  if c == 'ı' then 'I' else if c == 'ſ' then 'S' else c.toUpper

/-- The severity of a level by its name, in capitals or not. -/
def severity? (name : String) : Option Nat :=
  let capitals := String.ofList (name.toList.map capital)
  (levels.find? (·.1 == capitals)).map (·.2)

/-- The name of the least severity written. -/
def thresholdName (s : LogSetup) : String :=
  ((levels.find? (·.2 == s.threshold)).map fun (name, n) => if n = 30 then "WARNING" else name).getD ""

end LogSetup

namespace LogOptions

/-- The options by name. -/
def signature : Signature where
  operation := "setup_logging"
  receiver := []
  required := []
  optional := ["level", "log_file", "structured", "console", "add_timestamp", "add_caller_info", "colorize"]
  further := false

/-- The wording of a fault. -/
def Fault.message : Fault → String
  | misfit f => signature.message f
  | noLevel kind => s!"'{kind}' object has no attribute 'upper'"
  | noPath kind => s!"expected str, bytes or os.PathLike object, not {kind}"

/-- The options given by name, of values of any kind. A level that is not known goes before a file
    that is no path. -/
def ofFields (fields : List (String × Json)) : Except Fault LogOptions := do
  let given ← (signature.bind [] fields).mapError .misfit
  let standard : LogOptions := {}
  let flag (name : String) (other : Bool) : Bool := if given.has name then !(given.get name).isNothing else other
  let level ← match given.has "level", given.get "level" with
    | false, _ => .ok standard.level
    | true, .str s => .ok s
    | true, v => .error (.noLevel v.kind)
  let file ← match given.get "log_file" with
    | .null => .ok none
    | .str s => .ok (some (Path.ofString s))
    | v => if (LogSetup.severity? level).isNone then .ok none else .error (.noPath v.kind)
  return {
    level := level
    file := file
    structured := flag "structured" standard.structured
    console := flag "console" standard.console
    timestamps := flag "add_timestamp" standard.timestamps
    callerInfo := flag "add_caller_info" standard.callerInfo
    colors := flag "colorize" standard.colors }

end LogOptions

namespace LogSetup

/-- What is written after the line of a call that shows the failure being handled, since there is
    none. -/
def noFailure : String := "\nNoneType: None"

/-- The text of an entry: its line, and what follows it. -/
def text (s : LogSetup) (e : LogEntry) (stamp : LogStamp) : Except LogFault String :=
  if s.structured then .ok (e.jsonLine stamp)
  else e.following.map fun t => e.textLine (if s.colors then .colored else .plain) stamp ++ t

/-- What a call of a logger writes, if it is severe enough for that. -/
def written? (s : LogSetup) (c : LogCall) (time : String) (place : String × Nat) :
    Except LogFault (Option String) := do
  let (logger, e) ← c.entry
  if e.level.severity < s.threshold then return none
  else
    match e.field "_record" with
    | .null => pure ()
    | record => throw (.noRecord record.kind)
    let e ← e.filled
    let stamp : LogStamp :=
      ⟨logger, if s.timestamps then some time else none, if s.callerInfo then some place else none⟩
    let text ← s.text e.settled stamp
    return some (text ++ if c.method == LogCall.failureMethod then noFailure else "")

/-- Writes a text at the end of the log file, if there is one. -/
def append (s : LogSetup) (files : FileSystem) (line : String) : FileSystem :=
  match s.file with
  | none => files
  | some names =>
    let before := match files.entry? names with
      | some (.file bytes) => bytes
      | _ => []
    files.put names (.file (before ++ Text.Utf8.encode (line ++ "\n").toList))

end LogSetup

end ElementLocator
