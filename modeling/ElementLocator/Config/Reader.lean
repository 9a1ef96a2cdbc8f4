import ElementLocator.Config
import ElementLocator.Pattern.Reader

/-! # Reading configurations

    A configuration is read from a mapping of application names to records. A record has the
    keys `bundleId` (or `process_identifier`) and `elements`; the name of the application is
    the key that the record stands under, and the record itself must not set it.

    Applications are read in order, and the first that is not in order ends the reading with
    an error that lists everything wrong with its record. -/

namespace ElementLocator

namespace AppConfig

/-- The message for a value that is no mapping where a record should stand. -/
def notMapping : String := "Input should be a valid dictionary or instance of AppLocatorConfig"

/-- Puts an element under its name: a known name keeps its first place. -/
def putElement (elements : List (String × Pattern)) (name : String) (p : Pattern) : List (String × Pattern) :=
  if elements.any (·.1 == name) then
    elements.map fun e => if e.1 == name then (name, p) else e
  else elements ++ [(name, p)]

/-- Reads named patterns, after those of `done`. The errors of a name stand below it. -/
def readElements (done : List (String × Pattern)) (errors : List FieldError) :
    List (Value × Value) → Reading (List (String × Pattern))
  | [] => .ok (Checked.orErrors done errors)
  | (k, v) :: rest =>
    match Pattern.read [] (Validation.deepest - 1) v with
    | .error i => .error i
    | .ok p =>
      let step := Validation.keyStep k
      match (Validation.text k).below "[key]", p with
      | .ok name, .ok p => readElements (putElement done name p) errors rest
      | name, p => readElements done (errors ++ (name.errors ++ p.errors).map (·.below step)) rest

/-- Reads the value of the elements field. -/
def readElementMap (v : Value) : Reading (List (String × Pattern)) :=
  match v.entries? with
  | some entries => readElements [] [] entries
  | none => .ok (.refuse "Input should be a valid dictionary")

/-- The configuration of an application from the entries of a record. -/
def ofEntries (entries : List (Value × Value)) : Reading AppConfig :=
  let required {α : Type} (name : String) : Checked α := .error [⟨[name], "Field required"⟩]
  let (nameKey, name) := Criteria.readField entries ["app_name"] (required "app_name") Validation.text
  let (processKey, process) := Criteria.readField entries ["bundleId", "process_identifier"]
    (required "bundleId") Validation.nonemptyText
  let given := Validation.field? entries ["elements"]
  match given.elim (.ok (.ok [])) fun g => readElementMap g.2 with
  | .error i => .error i
  | .ok elements =>
    let elements := elements.below "elements"
    let used := [nameKey, processKey, given.map (·.1)].filterMap id
    let errors := name.errors ++ process.errors ++ elements.errors ++ Validation.extraErrors used entries
    .ok (Checked.orErrors ⟨name.getD "", process.getD "", elements.getD []⟩ errors)

/-- The configuration of an application from a document value. -/
def ofValue (v : Value) : Reading AppConfig :=
  match v.entries? with
  | some entries => ofEntries entries
  | none => .ok (.refuse notMapping)

end AppConfig

namespace Config

variable {ν : Type}

/-- All field errors of a record in one line. -/
def summary (app : String) (errors : List FieldError) : String :=
  String.intercalate "; " (errors.map fun e => s!"{(e.below app).location}: {e.message}")

/-- Reads the record of one application. -/
def readApp (source : String) (key record : Value) : Task ν (String × AppConfig) :=
  match key with
  | .text app =>
    match record.entries? with
    | none => Task.malformed source s!"config for '{app}' must be a mapping" []
    | some entries =>
      if (Validation.field? entries ["app_name"]).isSome then
        Task.malformed source s!"config for '{app}' must not set app_name" [("app_name", .str app)]
      else
        match AppConfig.ofEntries (entries ++ [(.text "app_name", .text app)]) with
        | .error i => Report.fail (.interrupted i)
        | .ok (.ok config) => Report.ok (app, config)
        | .ok (.error errors) => do
          let reason := summary app errors
          Task.log .error "config_app_invalid"
            [("source", .str source), ("app", .str app), ("reason", .str reason)]
          Task.malformed source reason [("app_name", .str app)]
  | other =>
    if other.isTooLong then Report.fail (.interrupted .numberTooLong)
    else Task.malformed source ("application name must be a string: " ++ other.literal) []

/-- Reads the records of applications in order. -/
def readApps (source : String) : List (Value × Value) → Task ν (List (String × AppConfig))
  | [] => Report.ok []
  | (k, v) :: rest => do
    let first ← readApp source k v
    let others ← readApps source rest
    return first :: others

/-- The configuration that a document value describes; `source` names the document in errors. -/
def ofValue (source : String) (document : Value) : Task ν Config :=
  match document.unmarked with
  | .null => Task.malformed source "document is empty" []
  | .mapping entries => do
    let apps ← readApps source entries
    return ⟨apps⟩
  | _ => Task.malformed source "top level must map application names to app configs" []

/-- How a document without a name of its own is named. -/
def unnamedSource : String := "<memory>"

end Config

end ElementLocator
