import ElementLocator.Json

/-! # Log events

    An event that the library reports about its own work: a level, a name and fields in the
    order they were given. -/

namespace ElementLocator

/-- How much an event matters. -/
inductive LogLevel
  | debug
  | info
  | warning
  | error
  | critical
  deriving DecidableEq, Repr

namespace LogLevel

/-- The name of a level. -/
def name : LogLevel → String
  | debug => "debug"
  | info => "info"
  | warning => "warning"
  | error => "error"
  | critical => "critical"

/-- How severe a level is. -/
def severity : LogLevel → Nat
  | debug => 10
  | info => 20
  | warning => 30
  | error => 40
  | critical => 50

end LogLevel

/-- A reported event. -/
structure LogEvent where
  level : LogLevel
  name : String
  fields : List (String × Json)

/-- Sets a field: a known one keeps its place. -/
def LogEvent.setField (fields : List (String × Json)) (name : String) (v : Json) : List (String × Json) :=
  if fields.any (·.1 == name) then fields.map fun f => if f.1 == name then (name, v) else f
  else fields ++ [(name, v)]

end ElementLocator
