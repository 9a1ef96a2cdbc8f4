import ElementLocator.Access
import ElementLocator.Json.Plain

/-! # Live trees of macOS

    A backend over the accessibility interface of macOS. The interface is asked for one
    attribute of an element at a time and answers a code and a value: a code for success, codes
    that say that the element has no such attribute, and codes of failures. Away from macOS
    every read fails. Handles, codes and values are plain data. -/

namespace ElementLocator.Macos

/-- The code of success. -/
def success : Int := 0

/-- The codes of an element that has no such attribute: it does not support the attribute, or
    has no value for it. -/
def absentCodes : List Int := [-25205, -25212]

/-- The codes of failures that have a status of their own. -/
def failureCodes : List (Int × AccessStatus) :=
  [(-25211, .apiDisabled), (-25208, .notSupported), (-25204, .cannotComplete)]

/-- The whole number that a code is, if it is one. -/
def codeNumber? : Json → Option Int
  | .float x => x.toInt?
  | code => code.int?

/-- Whether a value can be looked up among codes: lists and objects cannot. -/
def isCode : Json → Bool
  | .list _ | .object _ => false
  | _ => true

/-- What a code says about a read. -/
def statusForCode (code : Json) : Except Failure AccessStatus :=
  if !isCode code then .error (.noCode code.kind)
  else
    match codeNumber? code with
    | none => .ok .other
    | some n => .ok (if n = success then .success else ((failureCodes.find? (·.1 == n)).map (·.2)).getD .other)

/-- The interface: the code and the value that it answers for an attribute of an element, the
    element of an application, and whether this process may use it. -/
structure Interface where
  copyAttribute : Json → String → Json × Json
  application : Json → Json
  trusted : Bool

/-- Where the backend runs. -/
inductive Platform
  /-- The reads of attributes are replaced; the rest of the interface is not there. -/
  | replaced (copyAttribute : Json → String → Json × Json)
  /-- On macOS, with bindings for its interface. -/
  | macos (interface : Interface)
  /-- On macOS, without bindings. -/
  | unbound
  /-- Away from macOS. -/
  | elsewhere

/-- The failure of every use away from macOS. -/
def elsewhereReason : String := "macOS accessibility access is only available on macOS"

/-- The failure of every use without bindings. -/
def unboundReason : String := "pyobjc ApplicationServices bindings are not installed"

/-- What is logged when there are no bindings. -/
def unboundEvent : String :=
  "pyobjc ApplicationServices not available. Install with: pip install pyobjc-framework-ApplicationServices"

/-- Fails since the interface is not there. -/
def unavailable {α : Type} (reason : String) : Task Json α :=
  Task.refuse (.access .notSupported .notSupported reason .null)

/-- The interface of a platform. -/
def interface : Platform → Task Json Interface
  | .macos i => Report.ok i
  | .unbound => do
    Task.log .error unboundEvent []
    unavailable unboundReason
  | .replaced _ | .elsewhere => unavailable elsewhereReason

/-- What reads the attributes on a platform. -/
def reader : Platform → Task Json (Json → String → Json × Json)
  | .replaced copyAttribute => Report.ok copyAttribute
  | p => do
    let i ← interface p
    return i.copyAttribute

/-- The value of an attribute, null if the element does not have it. -/
def copy (p : Platform) (element : Json) (field : String) : Task Json Json := do
  let read ← reader p
  Report.note (.asked element field)
  let (code, v) := read element field
  let status ← Report.ofExcept (statusForCode code)
  if status = .success then return v
  else if (codeNumber? code).any absentCodes.contains then return .null
  else do
    Task.log .error "ax_attribute_failed"
      [("attribute", .str field), ("code", code), ("status", .str status.spelling)]
    match LocatorError.ofStatus? status code [("attribute", .str field)] with
    | some e => Report.fail (.error e)
    | none => Report.fail .successStatus

/-- The text of an attribute; one without characters counts as none. -/
def copyText (p : Platform) (element : Json) (field : String) : Task Json (Option String) := do
  let v ← copy p element field
  match v with
  | .null => return none
  | v => return present (some v.text)

/-- The backend on a platform. -/
def access (p : Platform) : TreeAccess Json where
  backend := "macos"
  attributes := fun element => do
    let role ← copyText p element "AXRole"
    let identifier ← copyText p element "AXIdentifier"
    let className ← copyText p element "AXClassDescription"
    let label ← copyText p element "AXTitle"
    return ⟨role, identifier, className, label⟩
  children := fun element => do
    let v ← copy p element "AXChildren"
    if v.isNothing then return []
    else
      match v.items? with
      | some items => return items
      | none => Report.fail (.notIterable v.kind)

/-- The element of an application, by the number of its process. -/
def applicationElement (p : Platform) (process : Json) : Task Json Json := do
  let i ← interface p
  return i.application process

/-- Whether this process may use the interface. -/
def isTrusted (p : Platform) : Task Json Bool := do
  let i ← interface p
  return i.trusted

end ElementLocator.Macos
