import ElementLocator.CommandLine.Command

/-! # Help pages

    The page about a command: how to call it, what it does, and its options, in two columns.
    Pages are made from the rules that command lines are read by. -/

namespace ElementLocator.CommandLine

/-- The width that paragraphs are filled to. -/
def pageWidth : Nat := 76

/-- Puts words into lines of a page, each as long as fits; `line` is the line in progress. -/
def fill (line : String) : List String → List String
  | [] => if line.isEmpty then [] else [line]
  | word :: rest =>
    if line.isEmpty then fill word rest
    else if line.length + 1 + word.length ≤ pageWidth then fill (line ++ " " ++ word) rest
    else line :: fill word rest

/-- A paragraph as lines. -/
def paragraph (text : String) : List String := (fill "" (text.splitOn " ")).map ("  " ++ ·)

/-- How the value of a rule is shown. -/
def ValueRule.shown : ValueRule → String
  | text => "TEXT"
  | whole => "INTEGER"
  | wholeBetween .. => "INTEGER RANGE"
  | existingFile | outputFile => "FILE"
  | oneOf words => "[" ++ String.intercalate "|" words ++ "]"

/-- What the page adds about the values of a rule. -/
def ValueRule.bounds : ValueRule → String
  | wholeBetween least greatest => s!"  [{least}<=x<={greatest}]"
  | _ => ""

/-- The two columns of an option: its names, the shortest first, and what it does. -/
def OptionRule.columns (o : OptionRule) : String × String :=
  let names := String.intercalate ", " ((o.names.filter (!isLong ·)) ++ o.names.filter (isLong ·))
  match o.kind with
  | .value rule => (names ++ " " ++ rule.shown, o.help ++ rule.bounds)
  | _ => (names, o.help)

/-- Rows of two columns under a heading. -/
def table (heading : String) (rows : List (String × String)) : List String :=
  let width := rows.foldl (fun n r => max n r.1.length) 0
  heading :: rows.map fun (left, right) =>
    "  " ++ left ++ String.ofList (List.replicate (width - left.length) ' ') ++ "  " ++ right

/-- How a command is called. -/
def usageLine : Option CommandRule → String
  | none => "Usage: " ++ programName ++ " [OPTIONS] COMMAND [ARGS]..."
  | some rule =>
    String.intercalate " " (["Usage:", programName, rule.name, "[OPTIONS]"] ++ rule.arguments.map (·.shown))

/-- The table of all commands. -/
def commandTable : List String :=
  table "Commands:" (commandRules.map fun r => (r.name, r.description.headD ""))

/-- The help page of a command, or of the program. -/
def helpPage (command : Option CommandRule) : String :=
  let rule := command.getD programRule
  let about := rule.description.flatMap fun text => "" :: paragraph text
  let options := "" :: table "Options:" (rule.options.map (·.columns))
  let commands := if command.isNone then "" :: commandTable else []
  String.intercalate "\n" (usageLine command :: about ++ options ++ commands)

/-- Where the help page of a command is found. -/
def hint (command : Option CommandRule) : String :=
  let called := String.intercalate " " (programName :: (command.map (·.name)).toList)
  s!"Try '{called} --help' for help."

end ElementLocator.CommandLine
