import ElementLocator.Log.Setup
import ElementLocator.Settings

/-! # Setting logs up

    The logs of a process are set up on first use as the settings want them; if that cannot be done,
    they are set up with nothing but defaults. The look of lines is set before the file is opened that
    they go to, so that what fails may be half done. -/

namespace ElementLocator

/-- A process with its logs: before they are set up lines have no look and no target. -/
structure LogProcess where
  host : Host
  cache : SettingsCache := .empty
  /-- Whether the logs were used before. -/
  begun : Bool := false
  style : Option LogStyle := none
  target : Option LogTarget := none

namespace LogProcess

/-- The variable that keeps lines away from the console. -/
def consoleVariable : String := "UILOCATOR_DISABLE_CONSOLE_LOGGING"

/-- Whether lines go to the console. -/
def showsConsole (host : Host) (o : LogOptions) : Bool := o.console && host.valueOf? consoleVariable != some "1"

/-- Opens a log file, with the directories around it: the names that lead to it, and the files
    afterwards. What stands in the file stays, and so do directories where the file cannot be opened. -/
def openFile (host : Host) (path : Path) : Except Failure (List String) × FileSystem :=
  match path.expandHome host.homeOf? with
  | .error f => (.error f, host.files)
  | .ok path =>
    match host.files.makeDirectories path.parent with
    | (.error e, files) => (.error (.file e), files)
    | (.ok (), files) =>
      let names := path.namesFrom files.workingDirectory
      let place := Path.absolute names
      match files.status place with
      | .ok (.file _) => (.ok names, files)
      | .ok .directory => (.error (.file ⟨.isDirectory, place.text⟩), files)
      | .error .missing =>
        match files.write place [] with
        | .ok files => (.ok names, files)
        | .error e => (.error (.file e), files)
      | .error e => (.error (.file ⟨e, place.text⟩), files)

/-- The look of lines that options ask for. -/
def styleOf (host : Host) (o : LogOptions) : LogStyle :=
  ⟨o.structured, o.timestamps, o.callerInfo, o.colors && showsConsole host o⟩

/-- The process with other files. -/
def withFiles (p : LogProcess) (files : FileSystem) : LogProcess := { p with host := { p.host with files := files } }

/-- The process with the look of lines that options ask for. -/
def styled (p : LogProcess) (o : LogOptions) : LogProcess := { p with style := some (styleOf p.host o) }

/-- Sets the logs up as wanted. An unknown level changes nothing; a file that cannot be opened leaves the
    target as it was, but not the look. -/
def setUp (p : LogProcess) (o : LogOptions) : Except Failure Unit × LogProcess :=
  match LogSetup.severity? o.level with
  | none => (.error (.unknownLevel o.level), p)
  | some threshold =>
    match o.file with
    | none => (.ok (), { p.styled o with target := some ⟨threshold, showsConsole p.host o, none⟩ })
    | some path =>
      match openFile p.host path with
      | (.error f, files) => (.error f, (p.styled o).withFiles files)
      | (.ok names, files) =>
        (.ok (), { (p.styled o).withFiles files with
          target := some ⟨threshold, showsConsole p.host o, some names⟩ })

/-- What the settings want of the logs. -/
def optionsOf (s : Settings) : LogOptions where
  level := if s.debugMode then "DEBUG" else s.logLevel
  file := s.logFile
  structured := s.structuredLogs
  callerInfo := s.debugMode
  colors := s.debugMode

/-- Whether a failure to set logs up from the settings leads back to the defaults. -/
def recovers : Failure → Bool
  | .noHome => false
  | _ => true

/-- Sets the logs up from the settings. -/
def setUpFromSettings (p : LogProcess) : Except Failure Unit × LogProcess :=
  let (settings, cache) := p.cache.get p.host
  let p := { p with cache := cache }
  match settings with
  | .error f => (.error f, p)
  | .ok s => p.setUp (optionsOf s)

/-- Uses the logs, which sets them up the first time. -/
def use (p : LogProcess) : Except Failure Unit × LogProcess :=
  if p.begun then (.ok (), p)
  else
    match setUpFromSettings { p with begun := true } with
    | (.ok (), p) => (.ok (), p)
    | (.error f, p) => if recovers f then p.setUp {} else (.error f, p)

/-- The logs as they are set up, if they are. -/
def setup? (p : LogProcess) : Option LogSetup :=
  match p.target, p.style with
  | some target, some style => some { toLogTarget := target, toLogStyle := style }
  | _, _ => none

end LogProcess

end ElementLocator
