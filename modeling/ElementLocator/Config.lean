import ElementLocator.Pattern
import ElementLocator.Report

/-! # Configurations

    What a configuration says: for each application, in the order of the document, the
    identifier of its process and a pattern for each named element. A configuration never
    changes once it is loaded; a reload makes a new one. -/

namespace ElementLocator

/-- The configuration of one application. -/
structure AppConfig where
  name : String
  processIdentifier : String
  elements : List (String × Pattern)

/-- The pattern of an element, if there is one. -/
def AppConfig.pattern? (a : AppConfig) (element : String) : Option Pattern :=
  (a.elements.find? (·.1 == element)).map (·.2)

/-- The names of the elements, in order. -/
def AppConfig.elementNames (a : AppConfig) : List String := a.elements.map (·.1)

/-- A whole configuration, each application under its name. -/
structure Config where
  apps : List (String × AppConfig)

namespace Config

variable {ν : Type}

/-- A configuration without applications. -/
def empty : Config := ⟨[]⟩

/-- The names of the applications, in order. -/
def appNames (c : Config) : List String := c.apps.map (·.1)

/-- The configuration of an application, if there is one. -/
def app? (c : Config) (name : String) : Option AppConfig :=
  (c.apps.find? (·.1 == name)).map (·.2)

/-- The pattern of an element, if the application and the element are known. -/
def pattern? (c : Config) (app element : String) : Option Pattern :=
  match c.app? app with
  | some a => a.pattern? element
  | none => none

/-- The pattern of an element; an application or element that is not known is an error. -/
def requirePattern (c : Config) (app element : String) : Task ν Pattern :=
  match c.app? app with
  | none => do
    Task.log .error "app_config_not_found" [("app", .str app)]
    Task.refuse (.appUnknown app)
  | some a =>
    match a.pattern? element with
    | none => do
      Task.log .error "element_path_not_found" [("app", .str app), ("element", .str element)]
      Task.refuse (.elementUnknown app element)
    | some p => Report.ok p

/-- The identifier of an application's process, if the application is known. -/
def processIdentifier (c : Config) (app : String) : Task ν (Option String) := do
  let found := (c.app? app).map (·.processIdentifier)
  Task.log .debug "process_identifier_lookup" [("app", .str app)]
  Task.log .debug "process_identifier_found"
    [("app", .str app), ("identifier", (found.map Json.str).getD .null)]
  return found

/-- The names of an application's elements, in order; an application that is not known is an
    error. -/
def elementNames (c : Config) (app : String) : Task ν (List String) :=
  match c.app? app with
  | none => Task.refuse (.appUnknown app)
  | some a => Report.ok a.elementNames

end Config

end ElementLocator
