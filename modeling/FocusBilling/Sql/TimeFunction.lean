import FocusBilling.Sql.Arithmetic
import FocusBilling.Time.Duration
import FocusBilling.Time.Formatted

/-!
# Functions of dates and times

* `Sql.TimeField` : the fields of a date and a time of day;
* `Sql.TimeFunction` : fields, shifts, and texts written and read by patterns;
* `Sql.TimeFunction.eval` : the outcome of a function.
-/

namespace FocusBilling.Sql

/-- A field of a date and a time of day. -/
inductive TimeField where
  | millennium | century | year | isoYear
  | quarter | month | week | day
  /-- The day of the year. -/
  | ordinal
  /-- The day of the week; Monday is 1. -/
  | weekday
  | hour | minute | second | nanosecond
  /-- Nanoseconds since 1970. -/
  | timestamp
  deriving DecidableEq

/-- A function of dates and times. -/
inductive TimeFunction where
  | field (field : TimeField)
  | shift (duration : Duration)
  /-- A text by a pattern. -/
  | formatted (pattern : String)
  /-- Texts as days, by a pattern or by one that is inferred. -/
  | readDay (pattern : Option String)
  /-- Texts as datetimes, by a pattern. -/
  | readMoment (pattern : String)
  /-- Texts as datetimes by a pattern that is inferred. -/
  | inferMoment (unit : TimeUnit) (zone : Option String)
  deriving DecidableEq

namespace TimeField

/-- The type of a field. -/
def dtype : TimeField → DType
  | .millennium | .century | .year | .isoYear | .nanosecond => .i32
  | .ordinal => .int .i16
  | .timestamp => .i64
  | _ => .int .i8

/-- Whether a day alone has the field. -/
def ofDay : TimeField → Bool
  | .hour | .minute | .second | .nanosecond => false
  | _ => true

/-- A field of a wall-clock time. -/
def value (f : TimeField) (m : Moment) : Int :=
  let d := Calendar.dateOf m.day
  match f with
  | .millennium => Int.fdiv (d.year - 1) 1000 + 1
  | .century => Int.fdiv (d.year - 1) 100 + 1
  | .year => d.year
  | .isoYear => (Calendar.isoWeek m.day).1
  | .quarter => (d.month + 2) / 3
  | .month => d.month
  | .week => (Calendar.isoWeek m.day).2
  | .day => d.day
  | .ordinal => Calendar.ordinal m.day
  | .weekday => Calendar.weekday m.day + 1
  | .hour => m.second / 3600
  | .minute => m.second / 60 % 60
  | .second => m.second % 60
  | .nanosecond => m.nano
  | .timestamp => m.ticks .nano

/-- A field of the cells of a column. -/
def eval (f : TimeField) (a : Outcome) : Outcome :=
  let read (moment : Int → Moment) : Outcome := a.mapCells f.dtype fun
    | .int n => .int (if f = .timestamp then IntType.i64.wrap (f.value (moment n))
        else f.value (moment n))
    | _ => .null
  match a.dtype with
  | .date => if f.ofDay then read fun n => ⟨n, 0, 0⟩ else .failing f.dtype .wrongType
  | .datetime u zone =>
    let wall (n : Int) : Int := match zone with
      | some z => if f = .timestamp then n else (Zone.named z).wall u n
      | none => n
    read fun n => Moment.ofTicks u (wall n)
  | _ => .failing f.dtype .wrongType

end TimeField

/-! ### Days that are inferred -/

/-- The patterns of days of a family. -/
def dayPatterns : Layouts → List String
  | .dayFirst => Layouts.dayFirstDays
  | _ => Layouts.yearFirstDays

/-- The day of a text by a pattern. -/
def dayBy? (pattern s : String) : Option Int :=
  (Pattern.match? (Pattern.items pattern.toList) s.toList).bind Pattern.Fields.date?

/-- The day of a text, and the pattern of a family that gave it: the one that fitted last, and for
texts of a certain shape any other. -/
def dayOf? (l : Layouts) (latest s : String) : Option (Int × String) :=
  match dayBy? latest s with
  | some n => some (n, latest)
  | none =>
    if l.isShaped s then (dayPatterns l).findSome? fun p => (dayBy? p s).map fun n => (n, p)
    else none

/-- The days of texts in order, each read with the pattern that fitted last. -/
def daysOf (l : Layouts) : String → List (Option String) → List (Option Int)
  | _, [] => []
  | latest, none :: rest => none :: daysOf l latest rest
  | latest, some s :: rest =>
    match dayOf? l latest s with
    | some (n, p) => some n :: daysOf l p rest
    | none => none :: daysOf l latest rest

/-- The texts of a column as days by a family of patterns that is inferred from them. -/
def inferDays (texts : List (Option String)) : Except FrameError (List (Option Int)) :=
  if texts.all Option.isNone then .ok (texts.map fun _ => none)
  else
    let families : List Layouts := [.dayFirst, .yearFirst]
    match (texts.filterMap id).findSome? fun s =>
        families.find? fun l => (dayPatterns l).any fun p => (dayBy? p s).isSome with
    | some l => .ok (daysOf l ((dayPatterns l).headD "") texts)
    | none => .error .unknownLayout

namespace TimeFunction

/-! ### Texts -/

/-- Days or instants of a text, which must be there where the text is. -/
def present (texts : List (Option String)) (values : List (Option Int)) :
    Except FrameError (List Cell) :=
  (texts.zip values).mapM fun (s, n) =>
    if s.isSome && n.isNone then .error .unreadable else .ok (Operation.instantCell n)

/-- The texts of an outcome read in a type. -/
def reading (t : DType) (f : List (Option String) → Except FrameError (List Cell)) (a : Outcome) :
    Outcome :=
  if a.isText then ⟨.known t, a.isScalar, do f ((← a.cells).map Scalar.textOf?)⟩
  else .failing t .wrongType

/-- Ticks of a unit out of microseconds. -/
def ofMicros (u : TimeUnit) (n : Int) : Int :=
  match u with
  | .milli => Int.fdiv n 1000
  | .micro => n
  | .nano => IntType.i64.wrap (n * 1000)

/-- Texts as datetimes by a pattern. -/
def readBy (p : DatetimePattern) (texts : List (Option String)) :
    Except FrameError (List Cell) := do
  if DatetimePattern.isIncomplete p.text.toList then .error .badFormat
  else
    texts.mapM fun
      | some s => (p.read s).map Operation.instantCell
      | none => .ok .null

/-- The pattern of a text that is written, short forms included. -/
def patternOf (t : DType) (pattern : String) : String :=
  let between := if pattern = "iso:strict" then "T" else " "
  if pattern = "iso" || pattern = "iso:strict" then
    match t with
    | .datetime u zone =>
      "%F" ++ between ++ "%T%." ++ toString u.digits ++ "f" ++ (if zone.isSome then "%:z" else "")
    | _ => "%F"
  else pattern

/-- A cell of a column as a text by a pattern. -/
def formattedCell (pattern : String) (t : DType) : Cell → Except FrameError Cell
  | .int n =>
    let subject : Formatted.Subject := match t with
      | .datetime u zone =>
        let offset := zone.map fun z => ((Zone.named z).offsetAt (Int.fdiv n u.perSecond), z)
        let m := Moment.ofTicks u (n + (offset.map (·.1)).getD 0 * u.perSecond)
        ⟨m.day, some (m.second, m.nano), offset⟩
      | _ => ⟨n, none, none⟩
    match Formatted.write? pattern subject with
    | some s => .ok (.text s)
    | none => .error .badFormat
  | _ => .ok .null

/-! ### Functions -/

/-- A column after a duration; days go by way of their midnights. -/
def shifted (d : Duration) (a : Outcome) : Outcome :=
  match a.dtype with
  | .date => a.mapCells .date fun
    | .int n => Cell.orNull (fun t => .int (Int.fdiv t (1000 * Calendar.daySeconds)))
        (d.shiftTicks .milli none (n * 1000 * Calendar.daySeconds))
    | _ => .null
  | .datetime u zone => a.mapCells a.dtype fun
    | .int n => Cell.orNull Cell.int (d.shiftTicks u zone n)
    | _ => .null
  | t => .failing t .wrongType

/-- The outcome of a function. -/
def eval (f : TimeFunction) (a : Outcome) : Outcome :=
  match f with
  | .field g => g.eval a
  | .shift d => shifted d a
  | .formatted pattern =>
    if a.dtype.isTemporal then
      Outcome.rowwise? .text (fun
        | [c] => formattedCell (patternOf a.dtype pattern) a.dtype c
        | _ => .ok .null) [a]
    else .failing .text .wrongType
  | .readDay none => reading .date (fun texts => do present texts (← inferDays texts)) a
  | .readDay (some pattern) =>
    let p := String.ofList (DatetimePattern.expanded pattern.toList)
    reading .date (fun texts => present texts (texts.map fun s => s.bind (dayBy? p))) a
  | .readMoment pattern =>
    let p : DatetimePattern := ⟨pattern, none, .latest, true⟩
    reading p.dtype (readBy p) a
  | .inferMoment u zone =>
    let p : InferredDatetime := ⟨zone, .latest, true⟩
    reading (.datetime u zone) (fun texts => do
      pure ((← p.readAll texts).map fun n => Operation.instantCell (n.map (ofMicros u)))) a

end TimeFunction

end FocusBilling.Sql
