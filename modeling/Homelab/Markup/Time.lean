import Homelab.Failure

/-!
# Dates and moments in markup

A date is a year of four digits, a month and a day.  A moment is a date and a time of
day, with a fraction of a second and the distance to universal time if they are given.
The form of a time is one thing and whether there is such a time another: a form that
names no time is refused.
-/

namespace Homelab
namespace Markup
namespace Time

/-- A distance to universal time as it is written. -/
inductive Zone where
  | universal
  | offset (negative : Bool) (hours minutes : Nat)
deriving DecidableEq

/-- A time of day as it is written. -/
structure Clock where
  hour : Nat
  minute : Nat
  second : Nat
  fraction : List Char
  zone : Option Zone
deriving DecidableEq

/-- A time as it is written; `padded` tells whether the month and the day have two
digits. -/
structure Form where
  year : Nat
  month : Nat
  day : Nat
  padded : Bool
  clock : Option Clock
deriving DecidableEq

/-- A number of so many digits, or one less if `short`, and what follows it: the
number, and whether it has all the digits. -/
def digits? (count : Nat) (short : Bool) (cs : List Char) : Option (Nat × Bool × List Char) :=
  let ds := (cs.take count).takeWhile Text.isAsciiDigit
  if ds.length = count || (short && ds.length + 1 = count) then
    some (Text.natOfDigits ds, ds.length = count, cs.drop ds.length)
  else none

/-- A distance to universal time, and nothing after it. -/
def zone? (cs : List Char) : Option (Option Zone) :=
  match cs with
  | [] => some none
  | _ =>
      match cs.dropWhile fun c => c = ' ' || c = '\t' with
      | ['Z'] => some (some .universal)
      | sign :: rest =>
          if sign = '+' || sign = '-' then
            match digits? 2 true rest with
            | some (hours, _, []) => some (some (.offset (sign = '-') hours 0))
            | some (hours, _, ':' :: more) =>
                match digits? 2 false more with
                | some (minutes, _, []) => some (some (.offset (sign = '-') hours minutes))
                | _ => none
            | _ => none
          else none
      | [] => none

/-- A time of day, and nothing after it. -/
def clock? (cs : List Char) : Option Clock :=
  match digits? 2 true cs with
  | some (hour, _, ':' :: afterHour) =>
      match digits? 2 false afterHour with
      | some (minute, _, ':' :: afterMinute) =>
          match digits? 2 false afterMinute with
          | some (second, _, rest) =>
              let (fraction, tail) : List Char × List Char := match rest with
                | '.' :: more => (more.takeWhile Text.isAsciiDigit, more.dropWhile Text.isAsciiDigit)
                | _ => ([], rest)
              (zone? tail).map fun z => ⟨hour, minute, second, fraction, z⟩
          | none => none
      | _ => none
  | _ => none

/-- The time of day after a date: a letter or blanks stand between them. -/
def clockAfter? (cs : List Char) : Option (Option Clock) :=
  match cs with
  | [] => some none
  | c :: rest =>
      if c = 'T' || c = 't' then (clock? rest).map some
      else if c = ' ' || c = '\t' then
        (clock? (rest.dropWhile fun c => c = ' ' || c = '\t')).map some
      else none

/-- The form of a time. -/
def form? (cs : List Char) : Option Form :=
  match digits? 4 false cs with
  | some (year, _, '-' :: afterYear) =>
      match digits? 2 true afterYear with
      | some (month, wide, '-' :: afterMonth) =>
          match digits? 2 true afterMonth with
          | some (day, wide', rest) =>
              (clockAfter? rest).map fun clock => ⟨year, month, day, wide && wide', clock⟩
          | none => none
      | _ => none
  | _ => none

/-- The form of a time that needs no tag: a date alone has two digits for the month and
two for the day. -/
def isTime (cs : List Char) : Bool :=
  match form? cs with
  | some f => f.clock.isSome || f.padded
  | none => false

/-- The date of a form. -/
def date (f : Form) : Except Failure Date :=
  if f.year = 0 then .error (.value "year 0 is out of range")
  else if f.month = 0 || 12 < f.month then .error (.value "month must be in 1..12")
  else if f.day = 0 || Date.daysIn f.year f.month < f.day then
    .error (.value "day is out of range for month")
  else .ok ⟨f.year, f.month, f.day⟩

/-- The minutes of a day. -/
def dayMinutes : Int := 1440

/-- A length of time in days and seconds, for the message about one that is too long. -/
def lengthText (minutes : Int) : String :=
  let days := minutes / dayMinutes
  let seconds := minutes % dayMinutes * 60
  let parts := (if days = 0 then [] else ["days=" ++ toString days]) ++
    (if seconds = 0 then [] else ["seconds=" ++ toString seconds])
  "datetime.timedelta(" ++ (if parts.isEmpty then "0" else ", ".intercalate parts) ++ ")"

/-- The distance to universal time in minutes; it is less than a day. -/
def offset : Option Zone → Except Failure (Option Int)
  | none => .ok none
  | some .universal => .ok (some 0)
  | some (.offset negative hours minutes) =>
      let size : Int := hours * 60 + minutes
      let n := if negative then -size else size
      if -dayMinutes < n && n < dayMinutes then .ok (some n)
      else .error (.value ("offset must be a timedelta strictly between " ++
        "-timedelta(hours=24) and timedelta(hours=24), not " ++ lengthText n ++ "."))

/-- The first six digits of a fraction of a second, as a number of millionths. -/
def micros (fraction : List Char) : Nat :=
  Text.natOfDigits ((fraction ++ List.replicate 6 '0').take 6)

/-- The value of a form. -/
def value (f : Form) : Except Failure Scalar :=
  match f.clock with
  | none => (date f).map .date
  | some clock => do
      let zone ← offset clock.zone
      let d ← date f
      if 23 < clock.hour then throw (.value "hour must be in 0..23")
      else if 59 < clock.minute then throw (.value "minute must be in 0..59")
      else if 59 < clock.second then throw (.value "second must be in 0..59")
      else pure (.moment ⟨d, clock.hour, clock.minute, clock.second, micros clock.fraction, zone⟩)

end Time
end Markup
end Homelab
