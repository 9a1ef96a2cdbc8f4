import ElementLocator.Json.Plain

/-! # Errors of the library

    Every failure that the library reports to its callers, by cause, with the wording, the
    stable code and the context of each. Details that a caller adds join the context. -/

namespace ElementLocator

/-- How the read of a tree ended. -/
inductive AccessStatus
  | success
  | apiDisabled
  | notSupported
  | cannotComplete
  | other
  deriving DecidableEq, Repr

namespace AccessStatus

/-- The spelling of a status. -/
def spelling : AccessStatus → String
  | success => "success"
  | apiDisabled => "api_disabled"
  | notSupported => "not_supported"
  | cannotComplete => "cannot_complete"
  | other => "other"

/-- The status as part of an error code. -/
def code : AccessStatus → String
  | success => "SUCCESS"
  | apiDisabled => "API_DISABLED"
  | notSupported => "NOT_SUPPORTED"
  | cannotComplete => "CANNOT_COMPLETE"
  | other => "OTHER"

/-- The status that a spelling names. -/
def ofSpelling? (s : String) : Option AccessStatus :=
  [success, apiDisabled, notSupported, cannotComplete, other].find? (·.spelling == s)

end AccessStatus

/-- The kinds of access errors: three statuses have a kind of their own. -/
inductive AccessKind
  | general
  | disabled
  | notSupported
  | unreachable
  deriving DecidableEq, Repr

namespace AccessKind

/-- The kind that belongs to a status. -/
def ofStatus : AccessStatus → AccessKind
  | .apiDisabled => .disabled
  | .notSupported => .notSupported
  | .cannotComplete => .unreachable
  | _ => .general

/-- The reason given when there is no better one. -/
def defaultReason : AccessKind → Option String
  | .general => none
  | .disabled => some "Accessibility API is disabled"
  | .notSupported => some "Application does not support accessibility API"
  | .unreachable =>
    some "Cannot access application. Try removing and re-adding accessibility permissions"

end AccessKind

/-- The families of errors without a cause of their own. -/
inductive ErrorFamily
  | any
  | configuration
  | lookup
  | locating
  deriving DecidableEq, Repr

/-- The kinds of errors. -/
inductive ErrorKind
  | stated (family : ErrorFamily)
  | access (kind : AccessKind)
  | configMissing
  | configMalformed
  | appUnknown
  | elementUnknown
  | indexOutOfRange
  | tooDeep
  deriving DecidableEq, Repr

namespace ErrorKind

/-- The name of the widest type of errors. -/
def widest : String := "UILocatorException"

/-- The names of the kind's type and of the wider types it belongs to, narrowest first. -/
def typeNames : ErrorKind → List String
  | stated .any => [widest]
  | stated .configuration => ["ConfigurationException", widest]
  | stated .lookup => ["LookupException", widest]
  | stated .locating => ["LocatorException", widest]
  | access .general => ["AccessibilityError", widest]
  | access .disabled => ["AccessibilityDisabledError", "AccessibilityError", widest]
  | access .notSupported => ["AccessibilityNotSupportedError", "AccessibilityError", widest]
  | access .unreachable => ["AccessibilityUnreachableError", "AccessibilityError", widest]
  | configMissing => ["ConfigSourceMissing", "ConfigurationException", widest]
  | configMalformed => ["ConfigSourceMalformed", "ConfigurationException", widest]
  | appUnknown => ["AppConfigNotFound", "LookupException", widest]
  | elementUnknown => ["ElementPathNotFound", "LookupException", widest]
  | indexOutOfRange => ["IndexOutOfRange", "LocatorException", widest]
  | tooDeep => ["TreeTooDeep", "LocatorException", widest]

/-- The name of the kind's own type. -/
def typeName (k : ErrorKind) : String := k.typeNames.headD widest

/-- The stable code of a kind, if all its errors have the same. -/
def code? : ErrorKind → Option String
  | stated _ | access _ => none
  | configMissing => some "CONFIG_SOURCE_MISSING"
  | configMalformed => some "CONFIG_SOURCE_MALFORMED"
  | appUnknown => some "APP_CONFIG_NOT_FOUND"
  | elementUnknown => some "ELEMENT_PATH_NOT_FOUND"
  | indexOutOfRange => some "INDEX_OUT_OF_RANGE"
  | tooDeep => some "TREE_TOO_DEEP"

end ErrorKind

/-- The stable code of failed reads with a status. -/
def AccessStatus.errorCode (status : AccessStatus) : String := "ACCESSIBILITY_" ++ status.code

/-- The reason of a failed read that only a code tells, given as text. -/
def AccessStatus.codeReason (rawCode : String) : String := s!"Accessibility call failed: {rawCode}"

-- ── wordings, from the texts of the values ────────────────────────────────

namespace ErrorKind

def configMissingText (name : String) (places : Nat) : String :=
  s!"Configuration '{name}' not found in any of {places} searched locations"

def configMalformedText (source reason : String) : String :=
  s!"Malformed configuration '{source}': {reason}"

def appUnknownText (app : String) : String := s!"No configuration found for app: {app}"

def elementUnknownText (app element : String) : String :=
  s!"No element path found for: {element} in app: {app}"

def indexOutOfRangeText (index count : String) : String :=
  s!"Index out of range: {index} (candidates: {count})"

def tooDeepText (limit : String) : String := s!"Accessibility tree deeper than {limit} levels"

end ErrorKind

/-- Why something failed. -/
inductive Cause
  /-- A failure told in free words. -/
  | stated (family : ErrorFamily) (message : String) (code : Option String)
  /-- A node cannot be read; the raw code is what the platform gave, null if it gave none. -/
  | access (kind : AccessKind) (status : AccessStatus) (reason : String) (rawCode : Json)
  /-- No configuration file exists in any of the places searched. -/
  | configMissing (name : String) (searched : List String)
  /-- A configuration exists and cannot be used. -/
  | configMalformed (source reason : String)
  /-- No configuration for the application. -/
  | appUnknown (app : String)
  /-- No pattern of this name for the application. -/
  | elementUnknown (app element : String)
  /-- An index selects past the candidates. -/
  | indexOutOfRange (index count : Int)
  /-- A tree is deeper than the limit. -/
  | tooDeep (limit : Int)

/-- A reported failure: its cause and details added to the context. -/
structure LocatorError where
  cause : Cause
  details : List (String × Json) := []

namespace Cause

/-- What went wrong, in words. -/
def message : Cause → String
  | stated _ m _ => m
  | access _ _ reason _ => reason
  | configMissing name searched => ErrorKind.configMissingText name searched.length
  | configMalformed source reason => ErrorKind.configMalformedText source reason
  | appUnknown app => ErrorKind.appUnknownText app
  | elementUnknown app element => ErrorKind.elementUnknownText app element
  | indexOutOfRange index count => ErrorKind.indexOutOfRangeText (toString index) (toString count)
  | tooDeep limit => ErrorKind.tooDeepText (toString limit)

/-- The kind of a cause. -/
def kind : Cause → ErrorKind
  | stated family _ _ => .stated family
  | access kind _ _ _ => .access kind
  | configMissing _ _ => .configMissing
  | configMalformed _ _ => .configMalformed
  | appUnknown _ => .appUnknown
  | elementUnknown _ _ => .elementUnknown
  | indexOutOfRange _ _ => .indexOutOfRange
  | tooDeep _ => .tooDeep

/-- The stable code of a cause. -/
def code : Cause → Option String
  | stated _ _ c => c
  | access _ status _ _ => some status.errorCode
  | c => c.kind.code?

/-- The names and values that identify the failing step. -/
def attributes : Cause → List (String × Json)
  | stated .. => []
  | access _ status _ rawCode =>
    [("status", .str status.spelling), ("raw_code", rawCode)]
  | configMissing name searched =>
    [("name", .str name), ("searched", .list (searched.map .str))]
  | configMalformed source reason => [("source", .str source), ("reason", .str reason)]
  | appUnknown app => [("app_name", .str app)]
  | elementUnknown app element => [("app_name", .str app), ("element_name", .str element)]
  | indexOutOfRange index count => [("index", .int index), ("candidate_count", .int count)]
  | tooDeep limit => [("max_depth", .int limit)]

end Cause

namespace LocatorError

/-- What went wrong, without the code. -/
def message (e : LocatorError) : String := e.cause.message

/-- The stable code, if the error has one. -/
def code (e : LocatorError) : Option String := e.cause.code

/-- The full text: the code in brackets, if there is one, and the message. -/
def text (e : LocatorError) : String :=
  match e.code with
  | none => e.message
  | some c => s!"[{c}] {e.message}"

/-- The context: what identifies the failing step, then the details; a detail replaces a value
    of the same name. -/
def context (e : LocatorError) : List (String × Json) :=
  (e.cause.attributes.filter fun a => !e.details.any (·.1 == a.1)) ++ e.details

/-- The name of the error's own type. -/
def typeName (e : LocatorError) : String := e.cause.kind.typeName

/-- The most specific error for a status, which must not be success: the kind of the status,
    with the reason of that kind, or else one that tells the raw code. -/
def ofStatus? (status : AccessStatus) (rawCode : Json) (details : List (String × Json)) :
    Option LocatorError :=
  let kind := AccessKind.ofStatus status
  let reason := kind.defaultReason.getD (AccessStatus.codeReason rawCode.text)
  if status = .success then none else some ⟨.access kind status reason rawCode, details⟩

/-- The error for any other status: an access error that carries the status, the code and the
    details. -/
theorem exists_ofStatus? {status : AccessStatus} (h : status ≠ .success) (rawCode : Json)
    (details : List (String × Json)) :
    ∃ e, ofStatus? status rawCode details = some e ∧
      "AccessibilityError" ∈ e.cause.kind.typeNames ∧ e.code = some status.errorCode ∧
      e.cause.attributes = [("status", .str status.spelling), ("raw_code", rawCode)] ∧
      e.details = details := by
  refine ⟨_, if_neg h, ?_, rfl, rfl, rfl⟩
  show "AccessibilityError" ∈ (ErrorKind.access (AccessKind.ofStatus status)).typeNames
  cases AccessKind.ofStatus status <;> decide

end LocatorError

end ElementLocator
