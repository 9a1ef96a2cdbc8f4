import ElementLocator.ErrorReport
import ElementLocator.Search

/-! # Selection by plain data

    The choice of one of several values by an index of any kind. Numbers select as they do among
    the candidates of a pattern; one that selects past the values is reported as it was given, and
    one with a fraction part is refused where it would select. -/

namespace ElementLocator.Selection

/-- Why nothing can be selected. -/
inductive Fault
  /-- The index selects past the values. -/
  | outOfRange (r : ErrorReport)
  /-- The index is a floating-point number within the values. -/
  | notWhole
  /-- The index is no number. -/
  | noNumber (kind : String)

/-- The report of an index past a number of values. -/
def pastReport (index : Json) (count : Nat) : ErrorReport :=
  let values : List (String × Json) := [("index", index), ("candidate_count", .int count)]
  ⟨.indexOutOfRange, .str (ErrorKind.indexOutOfRangeText index.text (toString count)),
    (ErrorKind.indexOutOfRange.code?.map Json.str).getD .null, .object values, values⟩

/-- Whether a floating-point number, counted from the end if it is negative, lies within a number of
    values. -/
def holds (count : Nat) (x : Binary64) : Bool :=
  let place := if x.isNegative && !x.isZero then (Binary64.ofInt count).add x else x
  match place.ratio? with
  | some (negative, num, den) => (num == 0 || !negative) && num < count * den
  | none => false

/-- The value that an index selects: without one the first, if there is any. -/
def select (values : List Json) (index : Json) : Except Fault (Option Json) :=
  match index with
  | .null => .ok values.head?
  | .float x => .error (if holds values.length x then .notWhole else .outOfRange (pastReport index values.length))
  | index =>
    match index.int? with
    | none => .error (.noNumber index.kind)
    | some i =>
      (selectCandidate values (some i)).mapError fun _ => .outOfRange (pastReport index values.length)

/-- The wording of a fault. -/
def Fault.message : Fault → String
  | outOfRange r => r.message.text
  | notWhole => "list indices must be integers or slices, not float"
  | noNumber kind => s!"'>=' not supported between instances of '{kind}' and 'int'"

end ElementLocator.Selection
