import ElementLocator.Text.Literal
import ElementLocator.Text.Similar

/-! # Usage of commands

    What a command takes: options by their names, then arguments by their positions, each with
    a rule for the words it admits. What is against the rules is a misuse, told in one
    sentence. -/

namespace ElementLocator.CommandLine

/-- The words that a value admits. -/
inductive ValueRule
  | text
  | whole
  | wholeBetween (least greatest : Nat)
  /-- The path of a file that is there. -/
  | existingFile
  /-- The path of a file to be written. -/
  | outputFile
  | oneOf (words : List String)

/-- What an option does. -/
inductive OptionKind
  /-- It is on if it is given. -/
  | switch
  /-- A value follows it. -/
  | value (rule : ValueRule)
  /-- It asks for the help page. -/
  | help
  /-- It asks for the version. -/
  | version

/-- An option: its names, what it does, and the line about it on the help page. -/
structure OptionRule where
  names : List String
  kind : OptionKind
  help : String

/-- Whether a value follows an option. -/
def OptionRule.takesValue (o : OptionRule) : Bool :=
  match o.kind with
  | .value _ => true
  | _ => false

/-- The name that stands for an option. -/
def OptionRule.name (o : OptionRule) : String := o.names.headD ""

/-- An argument: its name, the words it admits, and whether it takes all that are left. -/
structure ArgumentRule where
  name : String
  rule : ValueRule
  many : Bool := false

/-- How an argument is shown. -/
def ArgumentRule.shown (a : ArgumentRule) : String := if a.many then "[" ++ a.name ++ "]..." else a.name

/-- A command: its name, the paragraphs about it, and what it takes. -/
structure CommandRule where
  name : String
  description : List String
  options : List OptionRule
  arguments : List ArgumentRule

/-- What is wrong with a command line. -/
inductive Misuse
  | unknownOption (name : String) (similar : List String)
  | unwantedValue (option : String)
  | missingValue (option : String)
  | missingCommand
  | unknownCommand (name : String) (similar : List String)
  | missingArgument (argument : String)
  /-- A value is against its rule. -/
  | refusedValue (owner reason : String)
  | furtherArguments (words : List String)

/-- A word between quotes. -/
def quoted (s : String) : String := Text.Literal.ofString s

/-- A question about words that are similar to a wrong one, if there are any. -/
def question (similar : List String) : String :=
  let words := String.intercalate ", " (similar.map quoted)
  match similar with
  | [] => ""
  | [_] => " Did you mean " ++ words ++ "?"
  | _ => " (Did you mean one of: " ++ words ++ "?)"

/-- What is wrong, in one sentence. -/
def Misuse.message : Misuse → String
  | unknownOption name similar => "No such option " ++ quoted name ++ "." ++ question similar
  | unwantedValue option => "Option " ++ quoted option ++ " does not take a value."
  | missingValue option => "Option " ++ quoted option ++ " requires an argument."
  | missingCommand => "Missing command."
  | unknownCommand name similar => "No such command " ++ quoted name ++ "." ++ question similar
  | missingArgument argument => s!"Missing argument '{argument}'."
  | refusedValue owner reason => s!"Invalid value for {owner}: {reason}"
  | furtherArguments words =>
    let noun := if words.length = 1 then "argument" else "arguments"
    let shown := String.intercalate " " words
    s!"Got unexpected extra {noun} ({shown})"

end ElementLocator.CommandLine
