import ElementLocator.LocatorError
import ElementLocator.Path
import ElementLocator.Signature

/-! # Error reports

    What an error tells its callers, as plain data. Beside those of the library's own failures,
    reports are made for callers that raise errors of the same kinds: of values of any type, given
    in order or by name. -/

namespace ElementLocator

/-- What an error tells. The code is null if the error has none. -/
structure ErrorReport where
  kind : ErrorKind
  message : Json
  code : Json
  context : Json
  /-- The values that the error keeps by name. -/
  attributes : List (String × Json)

/-- The report of a failure of the library. -/
def LocatorError.report (e : LocatorError) : ErrorReport :=
  ⟨e.cause.kind, .str e.message, (e.code.map Json.str).getD .null, .object e.context, e.cause.attributes⟩

namespace ErrorReport

/-- Why there is no report. -/
inductive Fault
  /-- The values do not fit. -/
  | misfit (s : Signature) (f : Signature.Fault)
  /-- No status has this spelling. -/
  | unknownStatus (given : Json)
  /-- What should be a status is plain data. -/
  | noStatus (given : Json)
  /-- A value has no items. -/
  | notIterable (given : Json)
  /-- A value is no path. -/
  | notPath (given : Json)
  /-- The message is no text. -/
  | notText (given : Json)
  /-- The status of a failure was success. -/
  | successStatus

/-- The wording of a fault. -/
def Fault.message : Fault → String
  | misfit s f => s.message f
  | unknownStatus v => v.literal ++ " is not a valid AXStatus"
  | noStatus v => s!"'{v.kind}' object has no attribute 'name'"
  | notIterable v => s!"'{v.kind}' object is not iterable"
  | notPath v => s!"expected str, bytes or os.PathLike object, not {v.kind}"
  | notText v => s!"__str__ returned non-string (type {v.kind})"
  | successStatus => "SUCCESS is not an error status"

/-- The values that an error of a kind is made of. -/
def signature (kind : ErrorKind) : Signature :=
  let own (required optional : List String) : Signature :=
    { operation := kind.typeName ++ ".__init__", required := required, optional := optional }
  match kind with
  | .stated _ =>
    { operation := ErrorKind.widest ++ ".__init__", required := ["message"],
      optional := ["error_code", "context"], further := false }
  | .access .general => own ["status", "reason"] ["raw_code"]
  | .access _ => own [] ["reason"]
  | .configMissing => own ["name", "searched"] []
  | .configMalformed => own ["source", "reason"] []
  | .appUnknown => own ["app_name"] []
  | .elementUnknown => own ["app_name", "element_name"] []
  | .indexOutOfRange => own ["index", "candidate_count"] []
  | .tooDeep => own ["max_depth"] []

/-- Gives the values of an error their names. -/
def bind (kind : ErrorKind) (inOrder : List Json) (named : List (String × Json)) :
    Except Fault Signature.Bound :=
  ((signature kind).bind inOrder named).mapError (.misfit (signature kind))

/-- The report of a failed read. -/
def ofAccess (kind : AccessKind) (status : AccessStatus) (reason rawCode : Json)
    (further : List (String × Json)) : ErrorReport :=
  let attributes : List (String × Json) := [("status", .str status.spelling), ("raw_code", rawCode)]
  ⟨.access kind, reason, .str status.errorCode, .object (attributes ++ further), attributes⟩

/-- The status that errors of a kind of failed reads have. -/
def statusOf : AccessKind → AccessStatus
  | .general => .other
  | .disabled => .apiDisabled
  | .notSupported => .notSupported
  | .unreachable => .cannotComplete

/-- The status that a value spells. -/
def status (v : Json) : Except Fault AccessStatus :=
  match v with
  | .str s =>
    match AccessStatus.ofSpelling? s with
    | some status => .ok status
    | none => .error (.unknownStatus v)
  | v => .error (.unknownStatus v)

/-- The report of a failed read of a kind. The status of general ones stands first in order. -/
def buildAccess (kind : AccessKind) (inOrder : List Json) (named : List (String × Json)) :
    Except Fault ErrorReport := do
  let given ← match kind, inOrder with
    | .general, v :: _ => (status v).map some
    | _, _ => .ok none
  let b ← bind (.access kind) inOrder named
  match kind with
  | .general =>
    match given with
    | some status => return ofAccess .general status (b.get "reason") (b.get "raw_code") b.further
    | none => .error (.noStatus (b.get "status"))
  | kind =>
    let reason := if b.has "reason" then b.get "reason" else .str (kind.defaultReason.getD "")
    let b ← bind (.access .general) [.str (statusOf kind).spelling, reason] b.further
    return ofAccess kind (statusOf kind) reason (b.get "raw_code") b.further

/-- The paths in a value. -/
def pathTexts : List Json → Except Fault (List Json)
  | [] => .ok []
  | .str s :: rest => (pathTexts rest).map (.str (Path.ofString s).text :: ·)
  | v :: _ => .error (.notPath v)

/-- The values in order, with paths where paths belong. -/
def withPaths (kind : ErrorKind) (inOrder : List Json) : Except Fault (List Json) :=
  match kind, inOrder with
  | .configMissing, name :: searched :: rest =>
    match searched.items? with
    | some items => (pathTexts items).map fun texts => name :: .list texts :: rest
    | none => .error (.notIterable searched)
  | _, values => .ok values

/-- The report of an error of a kind, made of values in order and by name. -/
def build (kind : ErrorKind) (inOrder : List Json) (named : List (String × Json)) :
    Except Fault ErrorReport := do
  match kind with
  | .access kind => buildAccess kind inOrder named
  | kind =>
    let inOrder ← withPaths kind inOrder
    let b ← bind kind inOrder named
    let text (name : String) : String := (b.get name).text
    let coded (message : String) : ErrorReport :=
      ⟨kind, .str message, (kind.code?.map Json.str).getD .null, .object (b.values ++ b.further), b.values⟩
    match kind with
    | .configMissing =>
      match (b.get "searched").items? with
      | some items => return coded (ErrorKind.configMissingText (text "name") items.length)
      | none => .error (.notIterable (b.get "searched"))
    | .configMalformed => return coded (ErrorKind.configMalformedText (text "source") (text "reason"))
    | .appUnknown => return coded (ErrorKind.appUnknownText (text "app_name"))
    | .elementUnknown => return coded (ErrorKind.elementUnknownText (text "app_name") (text "element_name"))
    | .indexOutOfRange => return coded (ErrorKind.indexOutOfRangeText (text "index") (text "candidate_count"))
    | .tooDeep => return coded (ErrorKind.tooDeepText (text "max_depth"))
    | kind =>
      let context := b.get "context"
      return ⟨kind, b.get "message", b.get "error_code",
        if context.isNothing then .object [] else context, []⟩

/-- The report of the most specific error for a status, with a reason if one is given. -/
def ofStatus (status : AccessStatus) (reason rawCode : Json) (further : List (String × Json)) :
    Except Fault ErrorReport :=
  let kind := AccessKind.ofStatus status
  match status, kind.defaultReason with
  | .success, _ => .error .successStatus
  | _, some r =>
    .ok (ofAccess kind status (if reason matches .null then .str r else reason) rawCode further)
  | _, none =>
    .ok (ofAccess kind status
      (if reason.isNothing then .str (AccessStatus.codeReason rawCode.text) else reason) rawCode further)

/-- The full text: the code in brackets, if there is one, and the message. -/
def text (r : ErrorReport) : Except Fault String :=
  match r.code, r.message with
  | .null, .str m => .ok m
  | .null, m => .error (.notText m)
  | c, m => .ok s!"[{c.text}] {m.text}"

end ErrorReport

/-- The kind of a type of errors by its name. -/
def ErrorKind.ofTypeName? (name : String) : Option ErrorKind :=
  [.stated .any, .stated .configuration, .stated .lookup, .stated .locating, .access .general,
    .access .disabled, .access .notSupported, .access .unreachable, .configMissing, .configMalformed,
    .appUnknown, .elementUnknown, .indexOutOfRange, .tooDeep].find? fun (k : ErrorKind) => k.typeName == name

end ElementLocator
