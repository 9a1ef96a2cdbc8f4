import ElementLocator.Log
import ElementLocator.Log.Template
import ElementLocator.Signature

/-! # Entries of a log

    A call of a logger gives an event, mostly a text, and fields. Some fields are not shown but
    used: values to fill the event with, if it is a template, and whether the failure being
    handled or the calls around are wanted, of which there are none here. What remains is an entry
    of the log. -/

namespace ElementLocator

/-- A call of a logger. -/
structure LogCall where
  logger : Json
  /-- The name of the method called. -/
  method : String
  event : Json
  fields : List (String × Json)

/-- Why a call of a logger fails. -/
inductive LogFault
  /-- The name of the logger is no text. -/
  | loggerName
  /-- Loggers have no method of this name. -/
  | unknownMethod (name : String)
  /-- The values given do not fit. -/
  | misfit (s : Signature) (f : Signature.Fault)
  /-- The record of a log is plain data. -/
  | noRecord (kind : String)
  /-- The values for a template have no length. -/
  | noLength (kind : String)
  /-- The one value for a template is not found by its number. -/
  | noFirst
  /-- There is no event to be filled. -/
  | noEvent
  /-- The event is no template. -/
  | noTemplate (event values : String)
  /-- The event cannot be filled. -/
  | template (f : Template.Fault)
  /-- What should follow the line is no text. -/
  | notText (kind : String)

/-- The wording of a fault. -/
def LogFault.message : LogFault → String
  | loggerName => "A logger name must be a string"
  | unknownMethod name => s!"'BoundLogger' object has no attribute '{name}'"
  | misfit s f => s.message f
  | noRecord kind => s!"'{kind}' object has no attribute 'name'"
  | noLength kind => s!"object of type '{kind}' has no len()"
  | noFirst => "0"
  | noEvent => "'event'"
  | noTemplate event values => s!"unsupported operand type(s) for %=: '{event}' and '{values}'"
  | template f => f.message
  | notText kind => s!"can only concatenate str (not \"{kind}\") to str"

/-- What a log shows: the level, the event (null if there is none) and fields. -/
structure LogEntry where
  level : LogLevel
  event : Json
  fields : List (String × Json)

/-- The entry of an event of the library. -/
def LogEvent.entry (e : LogEvent) : LogEntry := ⟨e.level, .str e.name, e.fields⟩

namespace LogEntry

/-- The value of a field; null if it is not there. -/
def field (e : LogEntry) (name : String) : Json :=
  ((e.fields.find? (·.1 == name)).map (·.2)).getD .null

/-- The entry without a field. -/
def without (e : LogEntry) (name : String) : LogEntry :=
  { e with fields := e.fields.filter (·.1 != name) }

/-- The field with the values that the event is filled with. -/
def valuesField : String := "positional_args"

/-- What a template is filled with, from the values given: the only value, if it has values by
    name, or else all of them together. -/
def filling : Json → Except LogFault Json
  | .list [.object (m :: ms)] => .ok (.object (m :: ms))
  | .object [_] => .error .noFirst
  | .list items => .ok (.list items)
  | .object members => .ok (.object members)
  | .str s => .ok (.str s)
  | j => .error (.noLength j.kind)

/-- Fills the event with the values given for it, if there are any. -/
def filled (e : LogEntry) : Except LogFault LogEntry :=
  match e.field valuesField with
  | .null => .ok e
  | values =>
    if values.isNothing then .ok (e.without valuesField)
    else do
      let values ← filling values
      match e.event with
      | .null => .error .noEvent
      | .str template =>
        match Template.fill template values with
        | .ok text => return { e.without valuesField with event := .str text }
        | .error f => .error (.template f)
      | event => .error (.noTemplate event.kind values.kind)

/-- The entry without the fields that only ask for something. -/
def settled (e : LogEntry) : LogEntry := (e.without "stack_info").without "exc_info"

end LogEntry

namespace LogCall

/-- The methods of loggers by name, each with the name that messages use and its level. -/
def methods : List (String × String × LogLevel) := [
  ("debug", "debug", .debug), ("info", "info", .info), ("warning", "warning", .warning),
  ("warn", "warning", .warning), ("error", "error", .error), ("critical", "critical", .critical),
  ("fatal", "fatal", .critical), ("exception", "exception", .error)]

/-- The method that also shows the failure being handled. -/
def failureMethod : String := "exception"

/-- The name of a logger; the one that has none is at the root. -/
def loggerName : Json → Except LogFault String
  | .str s => .ok (if s.isEmpty then "root" else s)
  | j => if j.isNothing then .ok "root" else .error .loggerName

/-- The values that a method takes. -/
def signature (method : String) : Signature :=
  { operation := "BoundLogger." ++ method, required := [], optional := ["event"] }

/-- The values that methods hand on. -/
def innerSignature : Signature :=
  { operation := "BoundLogger._proxy_to_logger", required := ["method_name"], optional := ["event"] }

/-- Checks that fields do not give again what a method takes itself. -/
def checkFields (method : String) (event : Json) (fields : List (String × Json)) : Except LogFault Unit := do
  let s := signature method
  let _ ← (s.bind [event] fields).mapError (.misfit s)
  let _ ← (innerSignature.bind [.str method, event] fields).mapError (.misfit innerSignature)

/-- The name of the logger and the entry of a call, before anything is made of its fields. -/
def entry (c : LogCall) : Except LogFault (String × LogEntry) := do
  let name ← loggerName c.logger
  match methods.find? (·.1 == c.method) with
  | none => .error (.unknownMethod c.method)
  | some (_, method, level) =>
    checkFields method c.event c.fields
    return (name, ⟨level, c.event, c.fields⟩)

end LogCall

end ElementLocator
