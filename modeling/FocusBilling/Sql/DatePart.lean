import FocusBilling.Sql.Catalog

/-!
# Parts of dates and times

* `Sql.datePart` : a part of a date or a datetime by its name, as behind `EXTRACT`;
* `Sql.shortPart?` : the name for which another one stands.
-/

namespace FocusBilling.Sql

/-- A field of a date or a datetime. -/
def fieldPart (f : TimeField) (a : Formula) : Formula := .apply (.time (.field f)) [a]

/-- A double. -/
def doubleOf (n : Int) : Formula := .constant (.float (BinaryFormat.double.ofInt n)) .float64

/-- The seconds of a minute in a smaller unit, with their fraction. -/
def secondsIn (perSecond nanos : Int) (a : Formula) : Formula :=
  let whole := Formula.compute .mul (fieldPart .second a) (doubleOf perSecond)
  let part := fieldPart .nanosecond a
  .compute .add whole (if nanos = 1 then part else .compute .divide part (doubleOf nanos))

/-- Seconds since 1970. -/
def epochOf (a : Formula) : Formula :=
  .compute .add
    (.compute .divide (fieldPart .timestamp a) (.constant (.int 1000000000) .i64))
    (.compute .divide (fieldPart .nanosecond a) (doubleOf 1000000000))

/-- The day of the week; Sunday is 0. -/
def weekdayFromSunday (a : Formula) : Formula :=
  let day := fieldPart .weekday a
  .choose (.compare .eq day (.constant (.int 7) (.int .i8))) (.constant (.int 0) (.int .i8)) day

/-- A part of a date or a datetime by its name in capitals. -/
def datePart (name : String) (a : Formula) : Elaborated Formula :=
  match name with
  | "MILLENNIUM" => .ok (fieldPart .millennium a)
  | "CENTURY" => .ok (fieldPart .century a)
  | "DECADE" => .ok (.compute .divide (fieldPart .year a) (.constant (.int 10) .i32))
  | "ISOYEAR" => .ok (fieldPart .isoYear a)
  | "YEAR" => .ok (fieldPart .year a)
  | "QUARTER" => .ok (fieldPart .quarter a)
  | "MONTH" => .ok (fieldPart .month a)
  | "WEEK" | "ISOWEEK" => .ok (fieldPart .week a)
  | "DOY" | "DAYOFYEAR" => .ok (fieldPart .ordinal a)
  | "DOW" | "DAYOFWEEK" => .ok (weekdayFromSunday a)
  | "ISODOW" => .ok (fieldPart .weekday a)
  | "DAY" => .ok (fieldPart .day a)
  | "HOUR" => .ok (fieldPart .hour a)
  | "MINUTE" => .ok (fieldPart .minute a)
  | "SECOND" => .ok (fieldPart .second a)
  | "MILLISECOND" | "MILLISECONDS" => .ok (secondsIn 1000 1000000 a)
  | "MICROSECOND" | "MICROSECONDS" => .ok (secondsIn 1000000 1000 a)
  | "NANOSECOND" | "NANOSECONDS" => .ok (secondsIn 1000000000 1 a)
  | "EPOCH" => .ok (epochOf a)
  | _ => unsupported

/-- The name in capitals for which another name stands. -/
def shortPart? : String → Option String
  | "millennium" | "millennia" => some "MILLENNIUM"
  | "century" | "centuries" | "c" => some "CENTURY"
  | "decade" | "decades" => some "DECADE"
  | "isoyear" => some "ISOYEAR"
  | "year" | "years" | "y" => some "YEAR"
  | "quarter" | "quarters" => some "QUARTER"
  | "month" | "months" | "mon" | "mons" => some "MONTH"
  | "dayofyear" | "doy" => some "DOY"
  | "dayofweek" | "dow" => some "DOW"
  | "isoweek" | "week" | "weeks" => some "ISOWEEK"
  | "isodow" => some "ISODOW"
  | "day" | "days" | "d" => some "DAY"
  | "hour" | "hours" | "h" => some "HOUR"
  | "minute" | "minutes" | "mins" | "min" | "m" => some "MINUTE"
  | "second" | "seconds" | "sec" | "secs" | "s" => some "SECOND"
  | "millisecond" | "milliseconds" | "ms" => some "MILLISECOND"
  | "microsecond" | "microseconds" | "us" => some "MICROSECOND"
  | "nanosecond" | "nanoseconds" | "ns" => some "NANOSECOND"
  | "epoch" => some "EPOCH"
  | _ => none

/-- A part of a date or a datetime by any of its names. -/
def namedPart (name : String) (a : Formula) : Elaborated Formula :=
  match shortPart? (Text.lower name) with
  | some n => datePart n a
  | none => unsupported

/-- A part of a date or a datetime by the field that stands behind `EXTRACT`. -/
def extractedPart (f : DateField) (a : Formula) : Elaborated Formula :=
  match f with
  | .known name => datePart name a
  | .custom name => namedPart name.text a
  | .weekFrom _ => unsupported

end FocusBilling.Sql
