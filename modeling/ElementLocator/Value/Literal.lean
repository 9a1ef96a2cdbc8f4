import ElementLocator.Text.Whole
import ElementLocator.Text.Wide
import ElementLocator.Value

/-! # Values in messages

    The literal by which a message shows a document value that stands where a name should. -/

namespace ElementLocator

/-- The literal of a date. -/
def Date.literal (d : Date) : String := s!"datetime.date({d.year}, {d.month}, {d.day})"

/-- The literal of a distance from universal time given in minutes. -/
def offsetLiteral (minutes : Int) : String :=
  if minutes = 0 then "datetime.timezone.utc"
  else
    let seconds := minutes * 60
    let days := seconds / 86400
    let rest := seconds % 86400
    let parts := (if days ≠ 0 then [s!"days={days}"] else []) ++
      (if rest ≠ 0 then [s!"seconds={rest}"] else [])
    "datetime.timezone(datetime.timedelta(" ++ String.intercalate ", " parts ++ "))"

/-- The literal of a moment: trailing zero seconds and fractions are left out. -/
def Moment.literal (m : Moment) : String :=
  let d := m.date
  let fields := [d.year, d.month, d.day, m.hour, m.minute] ++
    (if m.microsecond ≠ 0 then [m.second, m.microsecond]
     else if m.second ≠ 0 then [m.second] else [])
  let zone := match m.offset with
    | none => []
    | some o => ["tzinfo=" ++ offsetLiteral o]
  "datetime.datetime(" ++ String.intercalate ", " (fields.map toString ++ zone) ++ ")"

namespace Value

variable {σ : Type} [Inscription σ]

mutual

/-- The literal of a value. -/
def literal : Value σ → String
  | .null => "None"
  | .bool b => if b then "True" else "False"
  | .int n => toString n
  | .float x => Decimal.floatText x
  | .text s => Inscription.literal s
  | .bytes bs => Text.Literal.ofBytes bs
  | .date d => d.literal
  | .moment m => m.literal
  | .list items => "[" ++ String.intercalate ", " (literals items) ++ "]"
  | .tuple [v] => "(" ++ literal v ++ ",)"
  | .tuple items => "(" ++ String.intercalate ", " (literals items) ++ ")"
  | .set [] => "set()"
  | .set items => "\x7b" ++ String.intercalate ", " (literals items) ++ "\x7d"
  | .mapping entries => "\x7b" ++ String.intercalate ", " (entryLiterals entries) ++ "\x7d"
  | .marked _ v => literal v

/-- The literals of several values. -/
def literals : List (Value σ) → List String
  | [] => []
  | v :: rest => literal v :: literals rest

/-- The literals of mapping entries. -/
def entryLiterals : List (Value σ × Value σ) → List String
  | [] => []
  | (k, v) :: rest => (literal k ++ ": " ++ literal v) :: entryLiterals rest

end

/-- Whether a value is a whole number with more decimal digits than are shown. -/
def isTooLong {σ : Type} : Value σ → Bool
  | .int n => Nat.pow 10 Text.Whole.maxDigits ≤ n.natAbs
  | _ => false

/-- The wording for a number with too many digits. -/
def numberTooLong : String :=
  s!"Exceeds the limit ({Text.Whole.maxDigits} digits) for integer string conversion; use sys.set_int_max_str_digits() to increase the limit"

end Value

end ElementLocator
