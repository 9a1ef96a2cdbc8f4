import ElementLocator.CommandLine
import ElementLocator.Log.Process

/-! # The program

    Carries a command line out on this machine: takes notice of the files that its words may
    mean, lets the library decide, and writes back what changed. -/

namespace ElementLocator.Main

/-- The paths that a word of a command line may mean: itself, and what is attached to an
    option in it. -/
def pathsIn (word : String) : List String :=
  let attached := (CommandLine.splitValue word).2.toList
  let short := if word.startsWith "-" then [String.ofList (word.toList.drop 2)] else []
  (word :: attached ++ short).filter (!·.isEmpty)

/-- The places on the way along a path, from the top of the machine. -/
def placesOn (workingDirectory : List String) (p : Path) : List (List String) :=
  let ways (names : List String) := (List.range names.length).map fun n => names.take (n + 1)
  let steps := (List.range p.parts.length).map fun n => (⟨p.root, p.parts.take (n + 1)⟩ : Path)
  ways workingDirectory ++ steps.flatMap fun q => ways (q.namesFrom workingDirectory)

/-- Takes notice of what stands at a place. -/
def notice (files : FileSystem) (names : List String) : IO FileSystem := do
  let path := (Path.absolute names).text
  try
    let bytes ← IO.FS.readBinFile path
    return files.put names (.file bytes.toList)
  catch _ =>
    try
      let entry ← IO.FS.realPath path
      if ← entry.isDir then return files.put names .directory else return files
    catch _ => return files

/-- The files that paths may mean, and the directories around them. -/
def survey (workingDirectory : List String) (paths : List String) : IO FileSystem := do
  let mut files : FileSystem := ⟨[], workingDirectory⟩
  for p in paths do
    for names in placesOn workingDirectory (.ofString p) do
      if (files.entry? names).isNone then files ← notice files names
  return files

/-- The variables that settings are read from. -/
def variableNames : List String :=
  let own := Settings.fieldNames.map (Settings.variableStart ++ ·)
  ["HOME", LogProcess.consoleVariable] ++ own ++ own.map (·.toUpper)

/-- The names of variables that a text may refer to. -/
def referred (text : String) : List String :=
  (text.splitOn "$\x7b").map fun s => String.ofList (s.toList.takeWhile fun c => c != '\x7d' && c != ':')

/-- The variables of the environment among some names. -/
def environment (names : List String) : IO (List (String × String)) := do
  let mut found : List (String × String) := []
  for name in names.eraseDups do
    match ← IO.getEnv name with
    | some v => found := found ++ [(name, v)]
    | none => pure ()
  return found

/-- The file of accounts. -/
def accountFile : String := "/etc/passwd"

/-- The people of a text of accounts with their homes: each line has the name first and the home
    sixth. -/
def peopleIn (text : String) : List (String × String) :=
  (text.splitOn "\n").filterMap fun line =>
    match line.splitOn ":" with
    | name :: _ :: _ :: _ :: _ :: home :: _ => some (name, home)
    | _ => none

/-- The people of this machine. -/
def people : IO (List (String × String)) := do
  try return peopleIn (← IO.FS.readFile accountFile)
  catch _ => return []

/-- The home of the one who runs the program, among those of all people. -/
def ownHome (people : List (String × String)) : IO (Option String) := do
  let user ← IO.getEnv "USER"
  return user.bind fun name => (people.find? (·.1 == name)).map (·.2)

/-- Writes what changed back. -/
def store (before after : FileSystem) : IO Unit := do
  for (names, entry) in after.entries.reverse do
    match entry, before.entry? names with
    | .directory, none => IO.FS.createDirAll (Path.absolute names).text
    | .file bytes, some (.file old) =>
      if bytes != old then IO.FS.writeBinFile (Path.absolute names).text ⟨bytes.toArray⟩
    | .file bytes, none => IO.FS.writeBinFile (Path.absolute names).text ⟨bytes.toArray⟩
    | _, _ => pure ()

/-- The line of an event on the console. -/
def eventLine (e : LogEvent) : String := e.entry.textLine .plain ⟨CommandLine.programName, none, none⟩

/-- Carries a command line out on this machine and answers the exit status. -/
def run (words : List String) : IO UInt32 := do
  let here ← IO.currentDir
  let workingDirectory := (Path.ofString here.toString).parts
  let files ← survey workingDirectory (Settings.variableFile :: words.flatMap pathsIn)
  let names := match files.read (.ofString Settings.variableFile) with
    | .ok bytes => referred (String.ofList ((textOfBytes bytes).toOption.getD []))
    | .error _ => []
  let known ← people
  let host : Host := ⟨files, ← environment (variableNames ++ names), known, ← ownHome known⟩
  let done := CommandLine.run .elsewhere host words
  store files done.files
  if host.valueOf? LogProcess.consoleVariable != some "1" then
    for e in done.events do IO.eprintln (eventLine e)
  IO.eprint done.errors
  IO.print done.output
  match done.uncaught with
  | some f => IO.eprintln f.text
  | none => pure ()
  return done.code.toUInt32

end ElementLocator.Main

/-- The program. -/
def main (words : List String) : IO UInt32 := ElementLocator.Main.run words
