import ElementLocator.Query

/-! # Checks of configurations

    A check resolves configured elements in a tree and tells for each whether it was found,
    and if not, why. The library's own errors become part of the result; other failures end
    the check. -/

namespace ElementLocator

/-- How the check of one element ended. -/
structure CheckResult where
  elementPath : String
  found : Bool
  error : Option String
  errorCode : Option String
  deriving DecidableEq, Repr

/-- What is said of an element that nothing in the tree matches. -/
def notFoundMessage : String := "element not found"

namespace TreeAccess

variable {ν : Type}

/-- Checks one element. -/
def checkElement (access : TreeAccess ν) (limit : DepthLimit) (config : Config) (app element : String)
    (root : ν) : Task ν CheckResult := do
  let path := s!"{app}.{element}"
  let answer ← Report.attempt (access.resolve limit config app element root)
  match answer with
  | .ok (some _) => return ⟨path, true, none, none⟩
  | .ok none => return ⟨path, false, some notFoundMessage, none⟩
  | .error (.error e) => do
    Task.log .warning "element_check_failed" [("element", .str path), ("error", .str e.text)]
    return ⟨path, false, some e.message, e.code⟩
  | .error f => Report.fail f

/-- Checks elements in order. -/
def checkEach (access : TreeAccess ν) (limit : DepthLimit) (config : Config) (app : String) (root : ν) :
    List String → Task ν (List CheckResult)
  | [] => Report.ok []
  | element :: rest => do
    let first ← checkElement access limit config app element root
    let others ← checkEach access limit config app root rest
    return first :: others

/-- Checks the named elements of an application, or without names all of them. -/
def checkElements (access : TreeAccess ν) (limit : DepthLimit) (config : Config) (app : String)
    (root : ν) (names : Option (List String)) : Task ν (List CheckResult) := do
  let names ← match names with
    | some names => Report.ok names
    | none => config.elementNames app
  let results ← checkEach access limit config app root names
  Task.log .info "element_check_completed"
    [("app", .str app), ("checked", .int results.length),
      ("found", .int (results.countP (·.found)))]
  return results

end TreeAccess

/-! ## Reports of results -/

namespace CheckResult

/-- A result as plain data. -/
def toJson (r : CheckResult) : Json :=
  let text (s : Option String) : Json := (s.map Json.str).getD .null
  .object [("element_path", .str r.elementPath), ("found", .bool r.found), ("error", text r.error),
    ("error_code", text r.errorCode)]

/-- The line of a result. -/
def line (r : CheckResult) : String :=
  let reason := r.error.getD "None"
  if r.found then s!"[OK]   {r.elementPath}" else s!"[FAIL] {r.elementPath}: {reason}"

end CheckResult

/-- How results are written. -/
inductive CheckFormat
  | text
  | json
  deriving DecidableEq, Repr

namespace CheckFormat

/-- The format of a name. -/
def ofName (name : String) : Except Failure CheckFormat :=
  if name == "json" then .ok json
  else if name == "text" then .ok text
  else .error (.unknownFormat name)

/-- The results written in a format. -/
def write (results : List CheckResult) : CheckFormat → String
  | text =>
    let found := results.countP (·.found)
    String.intercalate "\n" (results.map (·.line) ++ ["", s!"{found}/{results.length} elements found"])
  | json =>
    let found := results.countP (·.found)
    let number (n : Nat) : Json := .int n
    Json.indented 0 (.object
      [("summary", .object [("checked", number results.length), ("found", number found),
          ("missing", number (results.length - found))]),
        ("elements", .list (results.map (·.toJson)))])

end CheckFormat

end ElementLocator
