import ElementLocator.Config.File
import ElementLocator.Settings

/-! # Where configurations are found

    A configuration has a name, and may lie in several places: the file that the settings
    name, then for each directory, from the working directory over the search paths to the
    user's own, the name with either ending. The first place that holds a file counts. -/

namespace ElementLocator.Config

variable {ν : Type}

/-- The endings of configuration files, in order. -/
def endings : List String := [".yaml", ".yml"]

/-- The directory of the user's own configurations. -/
def userDirectory : Path := .ofString "~/.config/uilocator"

/-- The name looked for: the one given, unless it is empty, or else that of the settings. -/
def chosenName (settings : Settings) (name : Option String) : String :=
  (name.filter (!·.isEmpty)).getD settings.configName

/-- The places in a directory. -/
def placesIn (homeOf : Option String → Option String) (name : String) (directory : Path) : Except Failure (List Path) :=
  (directory.expandHome homeOf).map fun d => endings.map fun ending => d.join (.ofString (name ++ ending))

/-- The places in several directories. -/
def placesInAll (homeOf : Option String → Option String) (name : String) : List Path → Except Failure (List Path)
  | [] => .ok []
  | d :: rest => do
    let first ← placesIn homeOf name d
    let others ← placesInAll homeOf name rest
    return first ++ others

/-- All places where a configuration may lie, in order. -/
def candidatePaths (host : Host) (settings : Settings) (name : Option String)
    (searchPaths : Option (List Path)) : Except Failure (List Path) := do
  let own : List Path ← match settings.configFile with
    | some p => (p.expandHome host.homeOf?).map fun p => [p]
    | none => .ok []
  let directories := host.workingDirectory :: (searchPaths.getD settings.searchPaths ++ [userDirectory])
  let others ← placesInAll host.homeOf? (chosenName settings name) directories
  return own ++ others

/-- The first of several paths where a file stands. -/
def firstFile (files : FileSystem) : List Path → Except FileFault (Option Path)
  | [] => .ok none
  | p :: rest =>
    match files.isFile p with
    | .error f => .error f
    | .ok true => .ok (some p)
    | .ok false => firstFile files rest

/-- The file of a configuration. -/
def find (host : Host) (settings : Settings) (name : Option String) (searchPaths : Option (List Path)) :
    Task ν Path := do
  let candidates ← Report.ofExcept (candidatePaths host settings name searchPaths)
  let found ← Report.ofExcept ((firstFile host.files candidates).mapError Failure.file)
  match found with
  | some p => do
    Task.log .debug "config_file_found" [("path", .str p.text)]
    return p
  | none => do
    let name := chosenName settings name
    let searched := candidates.map (·.text)
    Task.log .error "config_file_not_found"
      [("name", .str name), ("searched", .list (searched.map .str))]
    Task.refuse (.configMissing name searched)

/-- Finds a configuration and loads it. -/
def locate (host : Host) (settings : Settings) (name : Option String) (searchPaths : Option (List Path)) :
    Task ν Config := do
  let path ← find host settings name searchPaths
  load host.files path

/-- Finds a configuration by the settings kept, or those that the host gives now, and loads
    it. -/
def locateKept (cache : SettingsCache) (host : Host) (name : Option String)
    (searchPaths : Option (List Path)) : Task ν Config × SettingsCache :=
  let (settings, cache) := cache.get host
  match settings with
  | .error f => (Report.fail f, cache)
  | .ok settings => (locate host settings name searchPaths, cache)

end ElementLocator.Config
