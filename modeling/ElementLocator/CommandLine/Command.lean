import ElementLocator.CommandLine.Reader
import ElementLocator.Check

/-! # The commands

    What can be asked for on the command line: to validate a configuration, to show a pattern,
    to write the outline of a tree, and to check configured elements in a tree. -/

namespace ElementLocator.CommandLine

/-- Where the tree of a command comes from. -/
inductive TreeSource
  /-- The application of a process. -/
  | process (number : Int)
  /-- An outline in a file. -/
  | saved (path : String)

/-- A command with its values. Of the two sources of a tree exactly one must be given. -/
inductive Command
  | validate (config : String) (verbose : Bool)
  | display (config app element : String)
  | outline (source : Option TreeSource) (output : Option String) (depth : Option Int) (verbose : Bool)
  | check (config app : String) (elements : List String) (source : Option TreeSource) (format : String)
      (verbose : Bool)

/-- Every command has this option. -/
def helpOption : OptionRule := ⟨["--help"], .help, "Show this message and exit."⟩

/-- The option for more output. -/
def verboseOption (help : String) : OptionRule := ⟨["--verbose", "-v"], .switch, help⟩

/-- The option for the number of a process. -/
def processOption : OptionRule :=
  ⟨["--pid"], .value .whole, "Process ID of a running macOS application"⟩

/-- The option for an outline in a file. -/
def savedOption (help : String) : OptionRule := ⟨["--from-dump"], .value .existingFile, help⟩

/-- The argument for a configuration. -/
def configArgument : ArgumentRule := { name := "CONFIG_PATH", rule := .existingFile }

/-- The argument for an application. -/
def appArgument : ArgumentRule := { name := "APP_NAME", rule := .text }

/-- The argument for one element. -/
def elementArgument : ArgumentRule := { name := "ELEMENT_NAME", rule := .text }

/-- The argument for any number of elements. -/
def elementsArgument : ArgumentRule := { name := "ELEMENT_NAMES", rule := .text, many := true }

/-- What `validate` takes. -/
def validateRule : CommandRule where
  name := "validate"
  description := ["Validate a locator configuration file.", "CONFIG_PATH: Path to the YAML configuration file"]
  options := [verboseOption "List apps and elements", helpOption]
  arguments := [configArgument]

/-- What `show` takes. -/
def displayRule : CommandRule where
  name := "show"
  description := ["Show the pattern configured for an element.", "CONFIG_PATH: Path to the YAML configuration file"]
  options := [helpOption]
  arguments := [configArgument, appArgument, elementArgument]

/-- What `dump` takes. -/
def outlineRule : CommandRule where
  name := "dump"
  description := ["Dump an accessibility tree as a configuration-ready YAML outline."]
  options := [processOption, savedOption "Re-render a saved dump instead of a live process",
    ⟨["--output", "-o"], .value .outputFile, "Write dump to file"⟩,
    ⟨["--max-depth"], .value (.wholeBetween 1 deepestLimit), "Deepest tree level to render"⟩,
    verboseOption "Enable verbose output", helpOption]
  arguments := []

/-- The formats of reports by name; the first is the standard. -/
def formatNames : List String := ["text", "json"]

/-- What `check` takes. -/
def checkRule : CommandRule where
  name := "check"
  description := ["Check that configured elements resolve in a running application.",
    "CONFIG_PATH: Path to the YAML configuration file APP_NAME: Application name in the configuration ELEMENT_NAMES: Elements to check (all configured elements if omitted)"]
  options := [processOption, savedOption "Check against a saved dump instead of a live process",
    ⟨["--format"], .value (.oneOf formatNames), "Output format"⟩,
    verboseOption "Enable verbose output", helpOption]
  arguments := [configArgument, appArgument, elementsArgument]

/-- All commands, in the order of their names. -/
def commandRules : List CommandRule := [checkRule, outlineRule, displayRule, validateRule]

/-- The name of the program. -/
def programName : String := "uilocator"

/-- What the program takes before the name of a command. -/
def programRule : CommandRule where
  name := programName
  description := ["uilocator CLI - Declarative accessibility-tree locators.",
    "Validate configurations, dump live trees, and check elements."]
  options := [⟨["--version"], .version, "Show the version and exit."⟩, helpOption]
  arguments := []

/-- The source of a tree, if exactly one is given. -/
def Given.source (g : Given) : Option TreeSource :=
  match g.number? processOption.name, g.text? "--from-dump" with
  | some n, none => some (.process n)
  | none, some path => some (.saved path)
  | _, _ => none

/-- The command that values stand for. -/
def Command.ofGiven (name : String) (g : Given) : Command :=
  let verbose := g.has "--verbose"
  let argument (a : ArgumentRule) : String := (g.text? a.name).getD ""
  if name == validateRule.name then .validate (argument configArgument) verbose
  else if name == displayRule.name then
    .display (argument configArgument) (argument appArgument) (argument elementArgument)
  else if name == outlineRule.name then
    .outline g.source ((g.text? "--output").filter (!·.isEmpty)) (g.number? "--max-depth") verbose
  else
    .check (argument configArgument) (argument appArgument) (g.texts elementsArgument.name) g.source
      ((g.text? "--format").getD "text") verbose

/-- Why a command line leads to no command, and the command it concerns, if any. -/
structure Refusal where
  command : Option CommandRule
  stop : Stop

/-- Reads a command line. A word in the place of a command that is none is read once more as an
    option of the program. -/
def read (files : FileSystem) (words : List String) : Except Refusal Command :=
  match readWords programRule.options false none words with
  | .error m => .error ⟨none, .misuse m⟩
  | .ok own =>
    match asked own.uses, own.others with
    | some stop, _ => .error ⟨none, stop⟩
    | none, [] => .error ⟨none, if words.isEmpty then .nothingAsked else .misuse .missingCommand⟩
    | none, name :: rest =>
      match commandRules.find? (·.name == name) with
      | some rule =>
        match rule.read files rest with
        | .error stop => .error ⟨some rule, stop⟩
        | .ok g => .ok (Command.ofGiven name g)
      | none =>
        let unknown := Misuse.unknownCommand name
          (Text.Similar.suggestions name (commandRules.map (·.name)))
        match readWords programRule.options false none (name :: rest) with
        | .error m => .error ⟨none, .misuse m⟩
        | .ok again => .error ⟨none, (asked again.uses).getD (.misuse unknown)⟩

end ElementLocator.CommandLine
