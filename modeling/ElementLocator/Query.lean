import ElementLocator.Config
import ElementLocator.Log.Entry
import ElementLocator.Search

/-! # Queries

    A query asks for a configured element of an application in a tree. However it ends, it is
    reported once, as the last event: the element was resolved, it was not found, or the query
    failed. A failure that is none of the library's own errors goes unreported. -/

namespace ElementLocator

/-- What identifies a query: fields in order, among them the time it started. -/
structure Query where
  fields : List (String × Json)

namespace Query

/-- The name of the field with the time a query started. -/
def startField : String := "started"

/-- The time at which a query starts. Times are kept by the clock and not here. -/
def startTime : Json := .int 0

/-- A query for an element, with further fields. -/
def start (app element : Json) (further : List (String × Json)) : Query :=
  ⟨further.foldl (fun fields f => LogEvent.setField fields f.1 f.2)
    [("app", app), ("element", element), (startField, startTime)]⟩

/-- The fields that events about the query show. -/
def context (q : Query) : List (String × Json) := q.fields.filter (·.1 != startField)

/-- An error that a query ended in: its type and its text. -/
structure End where
  typeName : String
  text : String

/-- The event that reports how a query ended. -/
def finish (q : Query) (found : Bool) (error : Option End) : LogEvent :=
  match error with
  | some e =>
    ⟨.error, "element_query_failed",
      ("error", .str e.text) :: ("error_type", .str e.typeName) :: q.context⟩
  | none => ⟨.info, if found then "element_resolved" else "element_not_found", q.context⟩

-- ── queries with fields of any name ───────────────────────────────────────

/-- The values that a query is started with. -/
def signature : Signature :=
  { operation := "QueryLogger.start", required := ["app_name", "element_name"] }

/-- Why a query with fields of any name cannot be started or finished. -/
inductive Fault
  /-- The values given do not fit. -/
  | misfit (s : Signature) (f : Signature.Fault)
  /-- The time of the start is no number. -/
  | noTime (kind : String)
  /-- The time of the start is a number out of all bounds. -/
  | timeTooLarge
  /-- A field is named like one that the event has itself. -/
  | repeatedField (name : String)
  /-- The event cannot be logged. -/
  | log (f : LogFault)

/-- The wording of a fault. -/
def Fault.message : Fault → String
  | misfit s f => s.message f
  | noTime kind => s!"unsupported operand type(s) for -: 'float' and '{kind}'"
  | timeTooLarge => "int too large to convert to float"
  | repeatedField name =>
    s!"structlog.stdlib.BoundLogger.error() got multiple values for keyword argument '{name}'"
  | log f => f.message

/-- A query with fields of any name. -/
def build (app element : Json) (further : List (String × Json)) : Except Fault Query := do
  let _ ← (signature.bind [app, element] further).mapError (.misfit signature)
  return start app element further

/-- The name of the field with the time a query took. It is kept by the clock and not shown. -/
def durationField : String := "duration_ms"

/-- Checks that the start of a query is a time. -/
def checkStart (q : Query) : Except Fault Unit :=
  let time : Json := ((q.fields.find? (·.1 == startField)).map (·.2)).getD startTime
  match time with
  | .float _ => .ok ()
  | v =>
    match v.int? with
    | some n => if (Binary64.ofInt n).isFinite then .ok () else .error .timeTooLarge
    | none => .error (.noTime v.kind)

/-- The report of a query with fields of any name. -/
def close (q : Query) (found : Bool) (error : Option End) : Except Fault LogEvent := do
  q.checkStart
  let e := ({ q with fields := q.fields.filter (·.1 != durationField) } : Query).finish found error
  if error.isSome then
    match q.context.find? fun f => f.1 == "error" || f.1 == "error_type" with
    | some f => throw (.repeatedField f.1)
    | none => pure ()
  (LogCall.checkFields e.level.name (.str e.name) e.fields).mapError .log
  return e

end Query

namespace TreeAccess

variable {ν : Type}

/-- Reports the end of a query after the notes of the task that answers it. -/
def reported (q : Query) (task : Task ν (Option ν)) : Task ν (Option ν) :=
  match task.outcome with
  | .ok node => ⟨task.notes ++ [.logged (q.finish node.isSome none)], .ok node⟩
  | .error (.error e) => ⟨task.notes ++ [.logged (q.finish false (some ⟨e.typeName, e.text⟩))], .error (.error e)⟩
  | .error f => ⟨task.notes, .error f⟩

/-- The node of a configured element below a root, if the tree has it. -/
def resolve (access : TreeAccess ν) (limit : DepthLimit) (config : Config) (app element : String)
    (root : ν) : Task ν (Option ν) :=
  reported (.start (.str app) (.str element) [("backend", .str access.backend)]) (do
    let pattern ← config.requirePattern app element
    access.resolvePattern limit pattern root)

end TreeAccess

end ElementLocator
