/-!
# Dates and moments

A date is a year, a month and a day.  A moment is a date with the time of day; where
the distance to universal time is known, moments that are written differently may be
one.
-/

namespace Homelab

/-- A calendar date. -/
structure Date where
  year : Nat
  month : Nat
  day : Nat
deriving DecidableEq

/-- A moment: a date with the time of day, and the distance to universal time in
minutes if it is known. -/
structure Moment where
  date : Date
  hour : Nat
  minute : Nat
  second : Nat
  micro : Nat
  offset : Option Int
deriving DecidableEq

namespace Date

/-- A year with a day more than others. -/
def isLeap (year : Nat) : Bool := year % 4 = 0 && (year % 100 ≠ 0 || year % 400 = 0)

/-- The number of days of a month. -/
def daysIn (year month : Nat) : Nat :=
  if month = 2 then (if isLeap year then 29 else 28)
  else if [4, 6, 9, 11].contains month then 30
  else 31

/-- The number of days in the months of a year before one of them. -/
def daysBefore (year : Nat) : (month : Nat) → Nat
  | 0 => 0
  | 1 => 0
  | month + 1 => daysBefore year month + daysIn year month

/-- The number of a date among all dates. -/
def number (d : Date) : Nat :=
  let before := d.year - 1
  365 * before + before / 4 - before / 100 + before / 400 + daysBefore d.year d.month + d.day

end Date

namespace Moment

/-- The number of the millionth of a second that a moment is, as if it were in
universal time. -/
def localMicros (t : Moment) : Int :=
  (((t.date.number * 24 + t.hour) * 60 + t.minute) * 60 + t.second) * 1000000 + t.micro

/-- The number of the millionth of a second that a moment is. -/
def micros (t : Moment) : Int := t.localMicros - t.offset.getD 0 * 60000000

/-- Two moments are one: both tell their distance to universal time, or neither. -/
def same (t u : Moment) : Bool := t.offset.isSome == u.offset.isSome && t.micros == u.micros

end Moment
end Homelab
