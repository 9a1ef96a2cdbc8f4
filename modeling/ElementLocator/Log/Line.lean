import ElementLocator.Log.Entry

/-! # Lines of a log

    An entry of a log as one line: as an object of plain data, or as text with the name of the
    event in a column of its own and the fields after it in the order of their names. Two fields
    are texts of several lines, which follow the line. -/

namespace ElementLocator

/-- What a line shows besides its event: the logger, and the time and the place of the call if
    they are wanted. -/
structure LogStamp where
  logger : String
  time : Option String
  place : Option (String × Nat)

namespace LogEntry

open LogEvent (setField)

/-- All fields of a line, those of the entry first. -/
def allFields (e : LogEntry) (stamp : LogStamp) : List (String × Json) :=
  let fields := match e.event with
    | .null => e.fields
    | event => setField e.fields "event" event
  let fields := setField fields "logger" (.str stamp.logger)
  let fields := setField fields "level" (.str e.level.name)
  let fields := match stamp.time with
    | some t => setField fields "timestamp" (.str t)
    | none => fields
  match stamp.place with
  | some (file, line) => setField (setField fields "module" (.str file)) "lineno" (.int line)
  | none => fields

/-- The line as an object of plain data. -/
def jsonLine (e : LogEntry) (stamp : LogStamp) : String := (Json.object (e.allFields stamp)).line

/-- The text with blanks at its end up to a width. -/
def padded (width : Nat) (s : String) : String :=
  s ++ String.ofList (List.replicate (width - s.length) ' ')

/-- Whether a text is shown in quotes among the fields. -/
def needsQuotes (s : String) : Bool := s.toList.any fun c => [' ', '\t', '=', '\r', '\n', '"', '\''].contains c

/-- A value as a field of a text line shows it. -/
def fieldText : Json → String
  | .str s => if needsQuotes s then Text.Literal.ofString s else s
  | j => j.literal

/-- The styles of a text line: switched on before a part, and back to none after it. -/
structure Styles where
  reset : String
  bright : String
  time : String
  logger : String
  name : String
  value : String
  level : String → String

/-- No styles. -/
def Styles.plain : Styles := ⟨"", "", "", "", "", "", fun _ => ""⟩

/-- The control sequence of a number for terminals. -/
def control (n : Nat) : String := "\x1b[" ++ toString n ++ "m"

/-- Styles for terminals. -/
def Styles.colored : Styles :=
  ⟨control 0, control 1, control 2, control 34, control 36, control 35, fun level =>
    let color := match level with
      | "critical" | "error" | "exception" => control 31
      | "warning" | "warn" => control 33
      | "info" | "debug" => control 32
      | "notset" => control 41
      | _ => ""
    if color.isEmpty then "" else color ++ control 1⟩

/-- The width of the column of levels. -/
def levelWidth : Nat := 9

/-- The width of the column of event names. -/
def nameWidth : Nat := 30

/-- Fields in the order of their names. -/
def sorted (fields : List (String × Json)) : List (String × Json) :=
  fields.mergeSort fun a b => decide (a.1 ≤ b.1)

/-- The names of the fields that have columns of their own. -/
def columnNames : List String := ["timestamp", "level", "event", "logger", "logger_name"]

/-- The names of the fields that follow a line of text. -/
def followingNames : List String := ["stack", "exception"]

/-- The line as text, without the fields that follow it. -/
def textLine (styles : Styles) (e : LogEntry) (stamp : LogStamp) : String :=
  let fields := e.allFields stamp
  let column (name : String) (styled : String → String) : List String :=
    match fields.find? (·.1 == name) with
    | some f => [styled f.2.text]
    | none => []
  let columns :=
    column "timestamp" (fun s => styles.time ++ s ++ styles.reset) ++
    column "level" (fun s => "[" ++ styles.level s ++ padded levelWidth s ++ styles.reset ++ "]") ++
    column "event" (fun s => styles.bright ++ padded nameWidth s ++ styles.reset) ++
    column "logger" (fun s => "[" ++ styles.reset ++ styles.bright ++ styles.logger ++ s ++ styles.reset ++
      "]" ++ styles.reset) ++
    column "logger_name" (fun s => "[" ++ styles.reset ++ styles.bright ++ styles.logger ++ s ++ styles.reset ++
      "]" ++ styles.reset)
  let others := fields.filter fun f => !columnNames.contains f.1 && !followingNames.contains f.1
  let shown := (sorted others).map fun f =>
    styles.name ++ f.1 ++ styles.reset ++ "=" ++ styles.value ++ fieldText f.2 ++ styles.reset
  let line := String.intercalate " " ((columns ++ shown).filter (!·.isEmpty))
  String.ofList (line.toList.reverse.dropWhile (· == ' ')).reverse

/-- A text on lines of its own. -/
def onOwnLine : Json → Except LogFault String
  | .str s => .ok ("\n" ++ s)
  | j => .error (.notText j.kind)

/-- What stands between the two fields that follow a line. -/
def divider : String := "\n\n" ++ String.ofList (List.replicate 79 '=') ++ "\n"

/-- The fields that follow a line of text. -/
def following (e : LogEntry) : Except LogFault String :=
  match e.field "stack", e.field "exception" with
  | .null, .null => .ok ""
  | .null, exception => onOwnLine exception
  | stack, .null => onOwnLine stack
  | stack, exception => do
    let first ← onOwnLine stack
    let second ← onOwnLine exception
    return first ++ divider ++ second

end LogEntry

end ElementLocator
