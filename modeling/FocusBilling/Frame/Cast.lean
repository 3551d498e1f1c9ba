import FocusBilling.Frame.DType
import FocusBilling.Number.Decimal
import FocusBilling.Number.Layout
import FocusBilling.Time.Pattern
import FocusBilling.Time.Written

/-!
# Changing the type of a column

* `DType.castsTo` : whether there is a cast between two types at all;
* `Cell.cast` : a cell in another type; a value that has none there becomes a missing one;
* `Cell.text` : a cell as text.
-/

namespace FocusBilling

namespace DType

/-- Whether there is a cast between two types. -/
def castsTo (a b : DType) : Bool :=
  match a, b with
  | .null, _ => true
  | .text, .bool | .date, .bool | .datetime .., .bool => false
  | .struct _, .struct _ => same a b
  | .struct _, _ | _, .struct _ => false
  | _, .null => same a .null
  | _, _ => true

end DType

namespace Cell

/-- A day written in a text, with blanks allowed around the dashes. -/
def readDate (s : String) : Option Int :=
  let is : List Pattern.Item :=
    [.number .year, .blanks, .literal ['-'], .number .month, .blanks, .literal ['-'], .number .day,
      .blanks]
  (Pattern.match? is s.toList).bind Pattern.Fields.date?

/-- A date and time written in a text; what stands behind them counts for nothing. -/
def readDatetime (u : TimeUnit) (s : String) : Option Int :=
  let is := Pattern.items "%Y-%m-%dT%H:%M:%S%.f%:z".toList
  ((Pattern.run is {} s.toList).1.moment? 0).map (Moment.ticks u)

/-- A cell as text. -/
def text? (t : DType) : Cell → Option String
  | .null => none
  | .bool b => some (if b then "true" else "false")
  | .int n =>
    match t with
    | .date => some (Written.date n)
    | .datetime u z => some (Written.datetime Written.tableStyle u z n)
    | _ => some (toString n)
  | .float x =>
    let format := t.format?.getD .double
    some ((Layout.table format).write format x)
  | .text s => some s
  | .struct _ => none

/-- A cell out of an optional value. -/
def orNull {α : Type} (f : α → Cell) : Option α → Cell
  | some a => f a
  | none => .null

/-- A whole number where it is in range. -/
def ranged (t : IntType) (n : Int) : Cell := if t.fits n then .int n else .null

/-- A cell as a whole number. -/
def toInt (t : IntType) : Cell → Cell
  | .bool b => .int (if b then 1 else 0)
  | .int n => ranged t n
  | .float x => orNull id (x.truncate?.map (ranged t))
  | .text s => orNull id ((Decimal.integer? s.toList).map (ranged t))
  | _ => .null

/-- A cell as a floating-point number. -/
def toFloat (fmt : BinaryFormat) : Cell → Cell
  | .bool b => .float (fmt.ofInt (if b then 1 else 0))
  | .int n => .float (fmt.ofInt n)
  | .float x => .float (x.toFormat fmt)
  | .text s => orNull Cell.float (Decimal.binary? fmt s.toList)
  | _ => .null

/-- A cell as a truth value: a number that is not zero is true. -/
def toBool : Cell → Cell
  | .bool b => .bool b
  | .int n => .bool (n != 0)
  | .float x => .bool !x.isZero
  | _ => .null

/-- A cell as a day. -/
def toDate (t : DType) : Cell → Cell
  | .text s => orNull Cell.int (readDate s)
  | .int n =>
    match t with
    | .datetime u _ => ranged .i32 (Int.fdiv n (u.perSecond * Calendar.daySeconds))
    | _ => toInt .i32 (.int n)
  | c => toInt .i32 c

/-- A cell as ticks of a unit. -/
def toTicks (t : DType) (u : TimeUnit) : Cell → Cell
  | .text s => orNull Cell.int (readDatetime u s)
  | .int n =>
    match t with
    | .date => .int (IntType.i64.wrap (n * Calendar.daySeconds * u.perSecond))
    | .datetime v _ =>
      if v.perSecond ≤ u.perSecond then ranged .i64 (n * (u.perSecond / v.perSecond))
      else .int (Int.fdiv n (v.perSecond / u.perSecond))
    | _ => toInt .i64 (.int n)
  | c => toInt .i64 c

/-- A cell of one type in another; a value that has none there becomes a missing one. -/
def cast (a b : DType) (c : Cell) : Cell :=
  match b with
  | .null => .null
  | .bool => toBool c
  | .int t => toInt t c
  | .float32 => toFloat .single c
  | .float64 => toFloat .double c
  | .text => orNull Cell.text (text? a c)
  | .date => toDate a c
  | .datetime u _ => toTicks a u c
  | .struct _ => c

end Cell

end FocusBilling
