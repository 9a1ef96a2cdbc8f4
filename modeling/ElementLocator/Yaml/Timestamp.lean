import ElementLocator.Value.Literal
import ElementLocator.Yaml.Fault

/-! # Timestamps

    Dates and moments in the forms that YAML knows, checked against the calendar. -/

namespace ElementLocator.Yaml.Timestamp

/-- The date of three numbers, if it exists. -/
def date (year month day : Nat) : Except ScalarFault Date :=
  if year < 1 then .error (.impossible s!"year {year} is out of range")
  else if month < 1 ∨ 12 < month then .error (.impossible "month must be in 1..12")
  else if day < 1 ∨ Date.daysIn year month < day then .error (.impossible "day is out of range for month")
  else .ok ⟨year, month, day⟩

/-- Between `least` and `most` digits from the front, as many as there are. -/
def digits? (least most : Nat) (cs : List Char) : Option (Nat × List Char) :=
  let ds := (cs.take most).takeWhile Char.isDigit
  if ds.length < least then none
  else some (ds.foldl (fun n d => n * 10 + (d.toNat - 48)) 0, cs.drop ds.length)

/-- Removes a character from the front. -/
def drop? (c : Char) : List Char → Option (List Char)
  | d :: rest => if c == d then some rest else none
  | [] => none

/-- Whether a character separates parts of a timestamp. -/
def isGap (c : Char) : Bool := c == ' ' || c == '\t'

/-- The literal of a distance in minutes that is too far from universal time. -/
def offsetReason (minutes : Int) : String :=
  let days := minutes * 60 / 86400
  let seconds := minutes * 60 % 86400
  let parts := (if days ≠ 0 then [s!"days={days}"] else []) ++
    (if seconds ≠ 0 then [s!"seconds={seconds}"] else [])
  "offset must be a timedelta strictly between -timedelta(hours=24) and timedelta(hours=24), not datetime.timedelta(" ++
    String.intercalate ", " parts ++ ")."

/-- The distance from universal time at the end of a timestamp, in minutes; none if the text
    ends without one. -/
def zone? (cs : List Char) : Option (Option Int) :=
  match cs with
  | [] => some none
  | _ =>
    match cs.dropWhile isGap with
    | ['Z'] => some (some 0)
    | s :: rest =>
      if s == '+' || s == '-' then do
        let (hours, rest) ← digits? 1 2 rest
        let (minutes, rest) ← match rest with
          | ':' :: r => digits? 2 2 r
          | r => some (0, r)
        if rest.isEmpty then
          let m : Int := (hours * 60 + minutes : Nat)
          some (some (if s == '-' then -m else m))
        else none
      else none
    | [] => none

/-- The time of day and what follows a date: hour, minute, second, microsecond and zone. -/
def time? (cs : List Char) : Option (Nat × Nat × Nat × Nat × Option Int) := do
  let rest ← match cs with
    | 'T' :: r | 't' :: r => some r
    | _ =>
      let r := cs.dropWhile isGap
      if r.length < cs.length then some r else none
  let (hour, rest) ← digits? 1 2 rest
  let rest ← drop? ':' rest
  let (minute, rest) ← digits? 2 2 rest
  let rest ← drop? ':' rest
  let (second, rest) ← digits? 2 2 rest
  let (fraction, rest) := match rest with
    | '.' :: r => (r.takeWhile Char.isDigit, r.dropWhile Char.isDigit)
    | r => ([], r)
  let six := (fraction ++ List.replicate 6 '0').take 6
  let micro := six.foldl (fun n d => n * 10 + (d.toNat - 48)) 0
  let zone ← zone? rest
  return (hour, minute, second, micro, zone)

/-- The three numbers of a date and what follows them. -/
def dateParts? (cs : List Char) : Option (Nat × Nat × Nat × List Char) := do
  let (year, rest) ← digits? 4 4 cs
  let rest ← drop? '-' rest
  let (month, rest) ← digits? 1 2 rest
  let rest ← drop? '-' rest
  let (day, rest) ← digits? 1 2 rest
  return (year, month, day, rest)

/-- The moment of a date and a time of day, if both exist. -/
def moment (year month day hour minute second micro : Nat) (zone : Option Int) : Except ScalarFault Moment :=
  match zone.filter fun m => 24 * 60 ≤ m.natAbs with
  | some m => .error (.impossible (offsetReason m))
  | none =>
    match date year month day with
    | .error f => .error f
    | .ok d =>
      if 23 < hour then .error (.impossible "hour must be in 0..23")
      else if 59 < minute then .error (.impossible "minute must be in 0..59")
      else if 59 < second then .error (.impossible "second must be in 0..59")
      else .ok ⟨d, hour, minute, second, micro, zone⟩

/-- The text without a line break at its end. -/
def withoutBreak (cs : List Char) : List Char := if cs.getLast? == some '\n' then cs.dropLast else cs

/-- The date or moment of a text; one line break may follow it. -/
def read (cs : List Char) : Except ScalarFault Value :=
  match dateParts? (withoutBreak cs) with
  | none => .error .dateForm
  | some (year, month, day, []) => (date year month day).map .date
  | some (year, month, day, rest) =>
    match time? rest with
    | none => .error .dateForm
    | some (hour, minute, second, micro, zone) =>
      (moment year month day hour minute second micro zone).map .moment

end ElementLocator.Yaml.Timestamp
