import ElementLocator.Interruption
import ElementLocator.LocatorError
import ElementLocator.Text.Wide
import ElementLocator.Yaml.Fault

/-! # Failures

    Why a task ends without a result: a failure that the library reports to its callers as an
    error of its own, or one of those that pass through as they are. -/

namespace ElementLocator

/-- What the system refuses to do with a path. -/
inductive FileProblem
  | missing
  | notDirectory
  | isDirectory
  | occupied
  | nameTooLong
  /-- The path holds a character that no path may hold. -/
  | nullCharacter
  deriving DecidableEq, Repr

/-- A refused file operation and the path it concerns. -/
structure FileFault where
  problem : FileProblem
  path : String
  deriving DecidableEq, Repr

namespace FileProblem

/-- The system's number of a problem, if the system is what refuses. -/
def number? : FileProblem → Option Nat
  | missing => some 2
  | occupied => some 17
  | notDirectory => some 20
  | isDirectory => some 21
  | nameTooLong => some 36
  | nullCharacter => none

/-- The wording of a problem. -/
def wording : FileProblem → String
  | missing => "No such file or directory"
  | occupied => "File exists"
  | notDirectory => "Not a directory"
  | isDirectory => "Is a directory"
  | nameTooLong => "File name too long"
  | nullCharacter => "embedded null byte"

end FileProblem

/-- The message of a refused file operation: the system's names its number and the path. -/
def FileFault.message (f : FileFault) : String :=
  match f.problem.number? with
  | some n => s!"[Errno {n}] {f.problem.wording}: {Text.Literal.ofString f.path}"
  | none => f.problem.wording

/-- Why a task ended without a result. -/
inductive Failure
  /-- A failure that the library reports. -/
  | error (e : LocatorError)
  /-- A handle of another kind was given for a node. -/
  | foreignHandle (kind : String)
  /-- A value without items was given for a list of children. -/
  | notIterable (kind : String)
  /-- A value of this kind is never a code. -/
  | noCode (kind : String)
  /-- Nodes have no attribute of this name. -/
  | unknownAttribute (name : String)
  /-- The status of a failure was success. -/
  | successStatus
  /-- A depth limit outside the permitted range. -/
  | depthOutOfRange (asked : Int)
  /-- A document holds a number out of all bounds. -/
  | interrupted (i : Interruption)
  /-- A well-written scalar of a document stands for no value. -/
  | scalar (f : Yaml.ScalarFault)
  /-- Settings with values that are not permitted. -/
  | settingsInvalid (errors : List FieldError)
  /-- The text of a setting is not in the form it needs. -/
  | settingUnreadable (field source : String)
  /-- A refused file operation. -/
  | file (f : FileFault)
  /-- The content of a file is no text. -/
  | undecodable (f : Text.Utf8.Fault)
  /-- A text that is to be written has no bytes. -/
  | unencodable (f : Text.HalfFault)
  /-- There is no home directory for a path that starts in one. -/
  | noHome
  /-- There is nothing to load a configuration again from. -/
  | noLoader
  /-- No log level has this name. -/
  | unknownLevel (name : String)
  /-- No format of reports has this name. -/
  | unknownFormat (name : String)

/-- The deepest level that a depth limit may name. -/
def deepestLimit : Nat := 400

/-- The text of a failure. -/
def Failure.text : Failure → String
  | .error e => e.text
  | .foreignHandle kind => s!"InMemoryTreeAccess cannot read {kind}"
  | .notIterable kind => s!"'{kind}' object is not iterable"
  | .noCode kind => s!"unhashable type: '{kind}'"
  | .unknownAttribute name => s!"\"TreeNode\" object has no field \"{name}\""
  | .successStatus => "SUCCESS is not an error status"
  | .depthOutOfRange n => s!"max_depth must be between 1 and {deepestLimit}, got {n}"
  | .interrupted i => i.message
  | .scalar f => f.text
  | .settingsInvalid es => String.intercalate "; " (es.map fun e => s!"{e.location}: {e.message}")
  | .settingUnreadable field source =>
    "error parsing value for field \"" ++ field ++ "\" from source \"" ++ source ++ "\""
  | .file f => f.message
  | .undecodable f => f.message
  | .unencodable f => f.message
  | .noHome => "Could not determine home directory."
  | .noLoader => "ConfigurationStore has no loader to reload from"
  | .unknownLevel name => s!"Unknown log level: {name}"
  | .unknownFormat name => s!"Unknown format type: {name}"

end ElementLocator
