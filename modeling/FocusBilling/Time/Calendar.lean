import FocusBilling.Text.Ascii

/-!
# The proleptic Gregorian calendar

Days are counted from 1 January 1970, seconds and smaller units from its midnight.

* `Calendar.daysOf`, `Calendar.dateOf` : from a date to its day and back;
* `Calendar.weekday`, `Calendar.isoWeek` : what else a day tells;
* `TimeUnit` : how many ticks a second has.
-/

namespace FocusBilling

/-- The unit in which instants are counted. -/
inductive TimeUnit where
  | milli
  | micro
  | nano
  deriving DecidableEq

namespace TimeUnit

/-- Ticks in a second. -/
def perSecond : TimeUnit → Int
  | .milli => 1000
  | .micro => 1000000
  | .nano => 1000000000

/-- Digits of a fraction of a second. -/
def digits : TimeUnit → Nat
  | .milli => 3
  | .micro => 6
  | .nano => 9

/-- The short name of a unit. -/
def name : TimeUnit → String
  | .milli => "ms"
  | .micro => "us"
  | .nano => "ns"

end TimeUnit

/-- A date of the calendar. -/
structure Date where
  /-- The year; year 0 is the one before year 1. -/
  year : Int
  /-- The month, from 1 to 12. -/
  month : Nat
  /-- The day of the month, from 1. -/
  day : Nat
  deriving DecidableEq

/-- A date and the time of day, with nanoseconds. -/
structure Moment where
  /-- Days since 1970. -/
  day : Int
  /-- Seconds since midnight. -/
  second : Nat
  /-- Nanoseconds; a leap second is the 59th second with one more second of them. -/
  nano : Nat
  deriving DecidableEq

namespace Calendar

/-- Seconds in a day. -/
def daySeconds : Int := 86400

/-- Whether a year has 366 days. -/
def isLeap (y : Int) : Bool := y % 4 == 0 && (y % 100 != 0 || y % 400 == 0)

/-- Days in a month. -/
def daysInMonth (y : Int) (m : Nat) : Nat :=
  if m = 2 then (if isLeap y then 29 else 28)
  else if m = 4 ∨ m = 6 ∨ m = 9 ∨ m = 11 then 30
  else 31

/-- The day of a date, counted in eras of 400 years that begin in March. -/
def daysOf (y : Int) (m d : Nat) : Int :=
  let y := if m ≤ 2 then y - 1 else y
  let era := Int.fdiv y 400
  let yoe := y - era * 400
  let mp : Int := if m > 2 then m - 3 else m + 9
  let doy := (153 * mp + 2) / 5 + d - 1
  let doe := yoe * 365 + yoe / 4 - yoe / 100 + doy
  era * 146097 + doe - 719468

/-- The date of a day. -/
def dateOf (n : Int) : Date :=
  let z := n + 719468
  let era := Int.fdiv z 146097
  let doe := z - era * 146097
  let yoe := (doe - doe / 1460 + doe / 36524 - doe / 146096) / 365
  let doy := doe - (365 * yoe + yoe / 4 - yoe / 100)
  let mp := (5 * doy + 2) / 153
  let d := doy - (153 * mp + 2) / 5 + 1
  let m := if mp < 10 then mp + 3 else mp - 9
  let y := yoe + era * 400
  ⟨if m ≤ 2 then y + 1 else y, m.toNat, d.toNat⟩

/-- The years that dates may have. -/
def yearInRange (y : Int) : Bool := decide (-262143 ≤ y) && decide (y ≤ 262142)

/-- The day of a date that exists. -/
def dayOfDate? (y : Int) (m d : Nat) : Option Int :=
  if yearInRange y && 1 ≤ m && m ≤ 12 && 1 ≤ d && d ≤ daysInMonth y m then some (daysOf y m d)
  else none

/-- The day of the week, Monday being 0. -/
def weekday (n : Int) : Nat := (Int.fmod (n + 3) 7).toNat

/-- The day of the year, from 1. -/
def ordinal (n : Int) : Nat := (n - daysOf (dateOf n).year 1 1 + 1).toNat

/-- The week of the year that begins at the first day of the week `first`, from 0. -/
def weekFrom (first : Nat) (n : Int) : Nat :=
  let past := (weekday n + 7 - first) % 7
  (ordinal n + 6 - past) / 7

/-- The year and week of the calendar of weeks. -/
def isoWeek (n : Int) : Int × Nat :=
  let thursday := n - weekday n + 3
  let y := (dateOf thursday).year
  (y, ((thursday - daysOf y 1 1) / 7 + 1).toNat)

/-- The day of a week date. -/
def dayOfIsoWeek? (y : Int) (week weekday : Nat) : Option Int :=
  let jan4 := daysOf y 1 4
  let n := jan4 - Calendar.weekday jan4 + 7 * (week - 1) + weekday
  if week ≥ 1 && (isoWeek n).1 == y then some n else none

/-- The day in a week of the year that begins at the first day of the week `first`. -/
def dayOfWeek? (y : Int) (week weekday first : Nat) : Option Int :=
  let jan1 := daysOf y 1 1
  let offset := (weekday + 7 - first) % 7
  let firstStart := jan1 + ((first + 7 - Calendar.weekday jan1) % 7 : Nat)
  let n := firstStart + 7 * ((week : Int) - 1) + offset
  if week ≤ 53 && (dateOf n).year == y then some n else none

end Calendar

namespace Moment

/-- Ticks of a unit since 1970. -/
def ticks (u : TimeUnit) (m : Moment) : Int :=
  (m.day * Calendar.daySeconds + m.second) * u.perSecond +
    (m.nano : Int) * u.perSecond / 1000000000

/-- The moment of ticks since 1970. -/
def ofTicks (u : TimeUnit) (t : Int) : Moment :=
  let s := Int.fdiv t u.perSecond
  let part := Int.fmod t u.perSecond
  ⟨Int.fdiv s Calendar.daySeconds, (Int.fmod s Calendar.daySeconds).toNat,
    (part * (1000000000 / u.perSecond)).toNat⟩

end Moment

end FocusBilling
