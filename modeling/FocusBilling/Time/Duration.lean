import FocusBilling.Time.Zone

/-!
# Durations

Months, weeks and days, which depend on the calendar, and a fixed part of nanoseconds.

* `Duration.ofText?` : a duration written out, as in `1 day 2 hours`;
* `Duration.shiftDay` : a day after a duration;
* `Duration.shiftTicks` : an instant after a duration, as the clocks of a zone go.
-/

namespace FocusBilling

/-- A duration. -/
structure Duration where
  /-- Months. -/
  months : Int
  /-- Weeks. -/
  weeks : Int
  /-- Days. -/
  days : Int
  /-- Nanoseconds. -/
  nanos : Int
  deriving DecidableEq

namespace Duration

/-- No time at all. -/
def zero : Duration := ⟨0, 0, 0, 0⟩

/-- Nanoseconds in units of a fixed length, by their names. -/
def fixedUnits : List (List String × Int) :=
  [(["ns", "nanosecond", "nanoseconds"], 1),
    (["us", "microsecond", "microseconds"], 1000),
    (["ms", "millisecond", "milliseconds"], 1000000),
    (["s", "sec", "secs", "second", "seconds"], 1000000000),
    (["m", "min", "mins", "minute", "minutes"], 60000000000),
    (["h", "hour", "hours"], 3600000000000)]

/-- Months in units of the calendar, by their names. -/
def monthUnits : List (List String × Int) :=
  [(["mo", "mon", "mons", "month", "months"], 1), (["q", "quarter", "quarters"], 3),
    (["y", "year", "years"], 12)]

/-- How long a unit is that has a name. -/
def lengthOf? (units : List (List String × Int)) (name : String) : Option Int :=
  (units.find? fun u => u.1.contains name).map (·.2)

/-- A duration with a number of units more. -/
def plus? (d : Duration) (n : Int) (name : String) : Option Duration :=
  if ["d", "day", "days"].contains name then some { d with days := d.days + n }
  else if ["w", "week", "weeks"].contains name then some { d with weeks := d.weeks + n }
  else
    match lengthOf? fixedUnits name, lengthOf? monthUnits name with
    | some k, _ => some { d with nanos := d.nanos + n * k }
    | none, some k => some { d with months := d.months + n * k }
    | none, none => none

/-- Numbers and units in turn, added to a duration; at most so many of them. -/
def readFrom : Nat → Duration → List Char → Option Duration
  | 0, _, _ => none
  | n + 1, d, cs =>
    let digits := cs.takeWhile Text.isDigit
    match cs.dropWhile Text.isDigit with
    | [] => some d
    | rest =>
      let isUnit (c : Char) : Bool := Text.isLetter c || c = ' ' || c = ','
      let name := (rest.takeWhile isUnit).filter Text.isLetter
      if digits.isEmpty || name.isEmpty then none
      else do
        readFrom n (← d.plus? (Text.digitsValue 10 digits) (String.ofList name))
          (rest.dropWhile isUnit)

/-- A duration written out: numbers with units behind them, in letters of any case, with blanks and
commas between. -/
def ofText? (s : String) : Option Duration :=
  let cs := (s.toList.map Char.toLower).dropWhile (· = ' ')
  readFrom (cs.length + 1) zero cs

/-- The same time backward. -/
def back (d : Duration) : Duration := ⟨-d.months, -d.weeks, -d.days, -d.nanos⟩

/-- The nanoseconds of a duration whose parts all have their usual length. -/
def approximate (d : Duration) : Int :=
  d.nanos + (d.days + 7 * d.weeks + 28 * d.months) * Calendar.daySeconds * 1000000000

/-- A day so many months later; past the end of a month it is the last day. -/
def addMonths (n day : Int) : Int :=
  let d := Calendar.dateOf day
  let month := d.year * 12 + (d.month - 1 : Int) + n
  let year := Int.fdiv month 12
  let m := (Int.fmod month 12).toNat + 1
  Calendar.daysOf year m (min d.day (Calendar.daysInMonth year m))

/-- A day after the months, weeks and days of a duration. -/
def shiftDay (d : Duration) (day : Int) : Int :=
  (if d.months = 0 then day else addMonths d.months day) + 7 * d.weeks + d.days

/-- A wall-clock time in ticks after the months, weeks and days of a duration. -/
def shiftWall (d : Duration) (u : TimeUnit) (ticks : Int) : Int :=
  let perDay := Calendar.daySeconds * u.perSecond
  d.shiftDay (Int.fdiv ticks perDay) * perDay + Int.fmod ticks perDay

/-- An instant in ticks after a duration.  In a zone the calendar goes by its clocks, and a time
that they show twice is the earlier one. -/
def shiftTicks (d : Duration) (u : TimeUnit) (zone : Option String) (ticks : Int) : Option Int :=
  let rest := Int.tdiv (d.nanos * u.perSecond) 1000000000
  if d.months = 0 && d.weeks = 0 && d.days = 0 then some (ticks + rest)
  else
    match zone with
    | none => some (d.shiftWall u ticks + rest)
    | some name =>
      let z := Zone.named name
      let offset := z.offsetAt (Int.fdiv ticks u.perSecond) * u.perSecond
      let wall := d.shiftWall u (ticks + offset)
      (z.instants (Int.fdiv wall u.perSecond)).head?.map fun s =>
        s * u.perSecond + Int.fmod wall u.perSecond + rest

end Duration

end FocusBilling
