/-! # Dates and moments

    Days of the calendar, and times of day on them, perhaps with a distance from universal time.
    Two moments that both know this distance are the same if they are the same instant. -/

namespace ElementLocator

/-- A calendar date. -/
structure Date where
  year : Nat
  month : Nat
  day : Nat
  deriving DecidableEq, Repr

/-- A date with a time of day; `offset` is the distance from universal time in minutes, if it
    is known. -/
structure Moment where
  date : Date
  hour : Nat
  minute : Nat
  second : Nat
  microsecond : Nat
  offset : Option Int
  deriving DecidableEq, Repr

namespace Date

/-- Whether a year has a leap day. -/
def isLeap (year : Nat) : Bool := year % 4 == 0 && (year % 100 != 0 || year % 400 == 0)

/-- The number of days of a month. -/
def daysIn (year month : Nat) : Nat :=
  if month == 2 then (if isLeap year then 29 else 28)
  else if month == 4 || month == 6 || month == 9 || month == 11 then 30 else 31

/-- The number of days from the last day before the first year. -/
def dayNumber (d : Date) : Nat :=
  let past := d.year - 1
  let untilMonth := (List.range (d.month - 1)).foldl (fun n m => n + daysIn d.year (m + 1)) 0
  365 * past + past / 4 - past / 100 + past / 400 + untilMonth + d.day

end Date

namespace Moment

/-- The microseconds that the clock of a moment has counted. -/
def clock (m : Moment) : Nat :=
  (((m.date.dayNumber * 24 + m.hour) * 60 + m.minute) * 60 + m.second) * 1000000 + m.microsecond

/-- The microseconds that universal time has counted, if the distance from it is known. -/
def universal? (m : Moment) : Option Int :=
  m.offset.map fun minutes => (m.clock : Int) - minutes * 60000000

/-- Whether two moments are the same: one instant, or one reading of clocks of unknown distance. -/
def isSame (a b : Moment) : Bool :=
  match a.universal?, b.universal? with
  | some x, some y => x == y
  | _, _ => a == b

end Moment

end ElementLocator
