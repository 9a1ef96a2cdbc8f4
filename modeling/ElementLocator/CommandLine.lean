import ElementLocator.CommandLine.Help
import ElementLocator.Config.File
import ElementLocator.Macos
import ElementLocator.Outline.Saving
import ElementLocator.Settings
import ElementLocator.Tree.Saved

/-! # The command line

    What a command line does, as a function of the machine: what is written to the two
    outputs, the files afterwards, and the exit status. The status tells success, elements
    that were not found, faults of configurations, and faults of access to trees apart. A
    failure that is none of the library's own errors ends the command uncaught. -/

namespace ElementLocator.CommandLine

/-- The exit statuses. -/
inductive Exit
  | success
  | checkFailed
  | configFault
  | accessFault
  deriving DecidableEq, Repr

/-- The number of a status. -/
def Exit.code : Exit → Nat
  | success => 0
  | checkFailed => 1
  | configFault => 2
  | accessFault => 3

/-- What a command line did. -/
structure Outcome where
  code : Nat
  output : String
  errors : String
  /-- The events to be shown, in order. -/
  events : List LogEvent
  /-- The files afterwards. -/
  files : FileSystem
  /-- The failure that ended the command, if it is none that commands report. -/
  uncaught : Option Failure

/-- The version of the program. -/
def version : String := "0.1.0"

/-- The status of a reported error: errors of trees and of their access are told from errors
    of configurations and of names in them. -/
def exitOf (e : LocatorError) : Exit :=
  match e.cause with
  | .access .. | .indexOutOfRange .. | .tooDeep _ | .stated .locating .. => .accessFault
  | _ => .configFault

/-- The events that a command shows: warnings and worse, or all of them. -/
def shownEvents (verbose : Bool) (events : List LogEvent) : List LogEvent :=
  if verbose then events else events.filter fun e => decide (LogLevel.warning.severity ≤ e.level.severity)

/-- The outcome of a task that answers a status and the text for the output; `label` stands
    before the text of an error. -/
def conclude {ν : Type} (label : String) (verbose : Bool) (files : FileSystem)
    (task : Task ν (Exit × String)) : Outcome :=
  let events := shownEvents verbose (loggedEvents task.notes)
  match task.outcome with
  | .ok (exit, output) => ⟨exit.code, output, "", events, files, none⟩
  | .error (.error e) => ⟨(exitOf e).code, "", label ++ ": " ++ e.text ++ "\n", events, files, none⟩
  | .error f => ⟨1, "", "", events, files, some f⟩

/-- The outcome of a command that is not carried out. -/
def refused (files : FileSystem) (message : String) : Outcome :=
  ⟨Exit.configFault.code, "", message ++ "\n", [], files, none⟩

/-- Refuses a command that needs one source of a tree and was given none or two. -/
def withoutSource (files : FileSystem) : Outcome :=
  refused files "Error: exactly one of --pid or --from-dump is required"

-- ── configurations ────────────────────────────────────────────────────────

/-- What is told of one application: a line about it, and one for each element. -/
def appLines (name : String) (a : AppConfig) : List String :=
  s!"  - {name} ({a.processIdentifier}, {a.elements.length} elements)" ::
    a.elementNames.map ("      " ++ ·)

/-- What is told of a valid configuration. -/
def configReport (path : String) (verbose : Bool) (c : Config) : List String :=
  let details := ["", s!"Apps: {c.apps.length}"] ++ c.apps.flatMap fun (name, a) => appLines name a
  s!"Configuration is valid: {path}" :: if verbose then details else []

/-- Validates a configuration. -/
def validate {ν : Type} (files : FileSystem) (path : String) (verbose : Bool) : Task ν (Exit × String) := do
  let c ← Config.load files (.ofString path)
  return (.success, Outline.fileText (configReport path verbose c))

/-- What is written of the pattern of an element, and the failure if the pattern cannot be shown: a
    heading comes before the pattern is put into lines. -/
def patternReport (app element : String) (p : Pattern) : String × Option Failure :=
  let heading := s!"{app}.{element}:"
  match p.format 1 with
  | .ok text => (Outline.fileText [heading, text], none)
  | .error i => (Outline.fileText [heading], some (.interrupted i))

/-- Shows the pattern of an element. -/
def display (files : FileSystem) (path app element : String) : Outcome :=
  let found : Task Unit Pattern := do
    let c ← Config.load files (.ofString path)
    c.requirePattern app element
  let done := conclude "Error" false files (do
    let p ← found
    return (.success, (patternReport app element p).1))
  match found.outcome.toOption.bind fun p => (patternReport app element p).2 with
  | none => done
  | some f => { done with code := 1, uncaught := some f }

-- ── trees ─────────────────────────────────────────────────────────────────

/-- The tree of an outline in a file. -/
def savedTree {ν : Type} (files : FileSystem) (path : String) : Task ν Tree :=
  match files.read (.ofString path) with
  | .error f => Report.fail (.file f)
  | .ok bytes =>
    match textOfBytes bytes with
    | .error f => Report.fail (.undecodable f)
    | .ok text => Tree.ofOutline path text

/-- Uses the tree of a source: its backend, and the task that answers its root. -/
def TreeSource.use {α : Type} (platform : Macos.Platform) (files : FileSystem)
    (f : ∀ {ν : Type}, TreeAccess ν → Task ν ν → α) : TreeSource → α
  | .process number => f (Macos.access platform) (Macos.applicationElement platform (.int number))
  | .saved path => f (Tree.access fun _ => none) (do
      let t ← savedTree files path
      return Located.root t)

/-- Writes the outline of a tree to the output, or to a file. -/
def outline {ν : Type} (host : Host) (output : Option String) (depth : Option Int) (verbose : Bool)
    (access : TreeAccess ν) (root : Task ν ν) : Outcome :=
  let limit (files : FileSystem) : Except Failure DepthLimit :=
    (SettingsCache.empty.depthLimit { host with files := files } depth).1
  match output, root.outcome with
  | some path, .ok node =>
    let (saving, files) := Outline.save access host.files (.ofString path) limit node
    conclude "Error" verbose files (do
      let _ ← root
      let count ← saving
      return (.success, s!"Wrote {count} lines to {path}\n"))
  | _, _ =>
    conclude "Error" verbose host.files (do
      let node ← root
      let text ← Outline.text access (limit host.files) node
      return (.success, text))

/-- Checks elements of a configuration in a tree. Without names all elements are checked. -/
def check {ν : Type} (host : Host) (config app : String) (elements : List String) (format : String)
    (access : TreeAccess ν) (root : Task ν ν) : Task ν (Exit × String) := do
  let c ← Config.load host.files (.ofString config)
  if (c.app? app).isNone then Task.refuse (.appUnknown app)
  else do
    let node ← root
    let limit ← Report.ofExcept (SettingsCache.empty.depthLimit host none).1
    let names := if elements.isEmpty then none else some elements
    let results ← access.checkElements limit c app node names
    let written ← Report.ofExcept (CheckFormat.ofName format)
    let exit := if results.all (·.found) then Exit.success else .checkFailed
    return (exit, written.write results ++ "\n")

-- ── the whole ─────────────────────────────────────────────────────────────

/-- Carries a command out. -/
def perform (platform : Macos.Platform) (host : Host) : Command → Outcome
  | .validate config verbose =>
    conclude "Validation error" false host.files (validate (ν := Unit) host.files config verbose)
  | .display config app element => display host.files config app element
  | .outline none .. | .check _ _ _ none .. => withoutSource host.files
  | .outline (some source) output depth verbose =>
    source.use platform host.files (outline host output depth verbose)
  | .check config app elements (some source) format verbose =>
    source.use platform host.files fun access root =>
      conclude "Error" verbose host.files (check host config app elements format access root)

/-- The outcome of a command line that leads to no command. -/
def Refusal.outcome (files : FileSystem) (r : Refusal) : Outcome :=
  match r.stop with
  | .help => ⟨Exit.success.code, helpPage r.command ++ "\n", "", [], files, none⟩
  | .version => ⟨Exit.success.code, programName ++ ", version " ++ version ++ "\n", "", [], files, none⟩
  | .nothingAsked => refused files (helpPage r.command)
  | .misuse m =>
    refused files (String.intercalate "\n"
      [usageLine r.command, hint r.command, "", "Error: " ++ m.message])
  | .unusable f => ⟨1, "", "", [], files, some (.file f)⟩

/-- Carries a command line out on a machine. -/
def run (platform : Macos.Platform) (host : Host) (words : List String) : Outcome :=
  match read host.files words with
  | .error r => r.outcome host.files
  | .ok command => perform platform host command

end ElementLocator.CommandLine
