import FocusBilling.Frame.Table
import FocusBilling.Time.Pattern
import FocusBilling.Time.Zone

/-!
# Datetimes in columns

* `Zone.label` : the instant of a wall-clock time, which may occur twice or not at all;
* `Zone.wall` : the wall-clock time of an instant;
* `DatetimePattern` : how texts are read as datetimes by a pattern;
* `Layouts` : families of patterns, one of which is inferred from the texts of a column.
-/

namespace FocusBilling

/-! ### Zones -/

namespace Zone

/-- The wall-clock time that clocks show at an instant, both in ticks. -/
def wall (z : Zone) (u : TimeUnit) (instant : Int) : Int :=
  instant + z.offsetAt (Int.fdiv instant u.perSecond) * u.perSecond

/-- The instant of a wall-clock time, both in ticks.  A time that clocks never show is missing,
unless it has to fail. -/
def label (z : Zone) (a : AmbiguousTime) (skippedFails : Bool) (u : TimeUnit) (wall : Int) :
    Except FrameError (Option Int) :=
  let second := Int.fdiv wall u.perSecond
  let part := Int.fmod wall u.perSecond
  let ticks (s : Int) : Int := s * u.perSecond + part
  match z.instants second with
  | [] => if skippedFails then .error .skippedTime else .ok none
  | [s] => .ok (some (ticks s))
  | s :: later =>
    match a with
    | .earliest => .ok (some (ticks s))
    | .latest => .ok (some (ticks (later.getLast?.getD s)))
    | .null => .ok none
    | .raise => .error .repeatedTime

end Zone

/-! ### Patterns -/

/-- How texts are read as datetimes by a pattern. -/
structure DatetimePattern where
  /-- The pattern. -/
  text : String
  /-- The zone that the values get. -/
  zone : Option String
  /-- What becomes of times that occur twice. -/
  ambiguous : AmbiguousTime
  /-- Whether a text that does not match fails. -/
  strict : Bool

namespace DatetimePattern

/-- Whether a directive made of `%`, one of some signs or none, and one of some letters occurs. -/
def hasDirective (signs letters : List Char) : List Char → Bool
  | '%' :: c :: d :: rest =>
    letters.contains c || (signs.contains c && letters.contains d) ||
      hasDirective signs letters (c :: d :: rest)
  | '%' :: c :: [] => letters.contains c
  | _ :: rest => hasDirective signs letters rest
  | [] => false

/-- Whether a pattern tells the time of day in part only. -/
def isIncomplete (p : List Char) : Bool :=
  let hour := hasDirective ['_', '-'] ['H', 'k', 'I', 'l'] p
  let minute := hasDirective ['_', '-'] ['M'] p
  let second := hasDirective ['_', '-'] ['S'] p
  let hour12 := hasDirective ['_', '-'] ['I', 'l'] p
  let halfDay := hasDirective ['_', '-'] ['p', 'P'] p
  hour != minute || (second && !hour) || hour12 != halfDay

/-- A pattern with its short forms written out. -/
def expanded : List Char → List Char
  | '%' :: 'D' :: rest => "%m/%d/%y".toList ++ expanded rest
  | '%' :: 'R' :: rest => "%H:%M".toList ++ expanded rest
  | '%' :: 'T' :: rest => "%H:%M:%S".toList ++ expanded rest
  | '%' :: 'X' :: rest => "%H:%M:%S".toList ++ expanded rest
  | '%' :: 'F' :: rest => "%Y-%m-%d".toList ++ expanded rest
  | c :: rest => c :: expanded rest
  | [] => []

/-- Whether the texts of a pattern tell their offset from UTC. -/
def tellsOffset (p : String) : Bool :=
  p == "%+" || ["%z", "%:z", "%::z", "%:::z", "%#z"].any (Text.contains p)

/-- The type of the values. -/
def dtype (p : DatetimePattern) : DType :=
  .datetime .micro (if tellsOffset p.text then some (p.zone.getD "UTC") else p.zone)

/-- The moment of a text, as the pattern tells it. -/
def moment? (p : DatetimePattern) (s : String) : Option Moment :=
  let chars := expanded p.text.toList
  let items := Pattern.items chars
  if tellsOffset p.text then Pattern.instantOf? items s.toList
  else
    match Pattern.fixedMoment? chars s.toList with
    | some m => some m
    | none => Pattern.wallClock? items s.toList

/-- A text as a datetime. -/
def read (p : DatetimePattern) (s : String) : Except FrameError (Option Int) :=
  match p.moment? s with
  | none => if p.strict then .error .unreadable else .ok none
  | some m =>
    let t := m.ticks .micro
    match p.zone with
    | some z => if tellsOffset p.text then .ok (some t)
      else (Zone.named z).label p.ambiguous true .micro t
    | none => .ok (some t)

end DatetimePattern

/-! ### Inferred patterns -/

/-- A family of patterns that are tried together. -/
inductive Layouts where
  | dayFirst
  | yearFirst
  | withOffset
  deriving DecidableEq

namespace Layouts

/-- The ways to write the time of day that follows a day. -/
def clocks : List String :=
  ["%H:%M:%S", "%H%M%S", "%H:%M", "%H%M", "%H:%M:%S.%9f", "%H:%M:%S.%6f", "%H:%M:%S.%3f"]

/-- Days with times behind them. -/
def timed (days : List String) (last : String) : List String :=
  ["T", " "].flatMap fun sep => clocks.flatMap fun clock =>
    days.map fun day => day ++ sep ++ clock ++ last

/-- The ways to write a day from the year on. -/
def yearFirstDays : List String := ["%Y/%m/%d", "%Y-%m-%d", "%Y.%m.%d"]

/-- The ways to write a day from the day of the month on. -/
def dayFirstDays : List String := ["%d/%m/%Y", "%d-%m-%Y", "%d.%m.%Y"]

/-- The patterns of a family. -/
def patterns : Layouts → List String
  | .dayFirst => timed dayFirstDays "" ++ dayFirstDays
  | .yearFirst => timed yearFirstDays "" ++ yearFirstDays ++ ["%FT%H:%M:%S%.f"]
  | .withOffset => timed yearFirstDays "%#z" ++ ["%+"]

/-- The texts for which all patterns of a family are tried. -/
def shape : Layouts → String
  | .dayFirst => "^['\"]?\\d\x7b1,2\x7d[-/.](?:0?[1-9]|1[0-2])[-/.]\\d\x7b4,\x7d" ++
    "(?:[T ]\\d\x7b1,2\x7d:?\\d\x7b1,2\x7d(?::?\\d\x7b1,2\x7d(?:\\.\\d\x7b1,9\x7d)?)?)?['\"]?$"
  | .yearFirst => "^['\"]?\\d\x7b4,\x7d[-/.](?:0?[1-9]|1[0-2])[-/.]\\d\x7b1,2\x7d" ++
    "(?:[T ]\\d\x7b1,2\x7d:?\\d\x7b1,2\x7d(?::?\\d\x7b1,2\x7d(?:\\.\\d\x7b1,9\x7d)?)?)?['\"]?$"
  | .withOffset => "^['\"]?\\d\x7b4,\x7d[-/.](?:0?[1-9]|1[0-2])[-/.]\\d\x7b1,2\x7d[T ]" ++
    "\\d\x7b2\x7d:?\\d\x7b2\x7d(?::?\\d\x7b2\x7d(?:\\.\\d\x7b1,9\x7d)?)?" ++
    "(?:[+-]\\d\x7b2\x7d:?\\d\x7b2\x7d|Z)['\"]?$"

/-- Whether a text has the shape for which all patterns of a family are tried. -/
def isShaped (l : Layouts) (s : String) : Bool :=
  (Regex.read? l.shape).any fun r => r.findsIn s

/-- The moment of a text by one pattern of a family. -/
def momentBy? (l : Layouts) (pattern s : String) : Option Moment :=
  let items := Pattern.items pattern.toList
  if l = .withOffset then Pattern.instantOf? items s.toList
  else Pattern.wallClock? items s.toList

/-- The moment of a text, and the pattern of a family that gave it: the one that fitted last, and
for texts of a certain shape any other. -/
def moment? (l : Layouts) (latest s : String) : Option (Moment × String) :=
  match l.momentBy? latest s with
  | some m => some (m, latest)
  | none =>
    if l.isShaped s then
      l.patterns.findSome? fun p => (l.momentBy? p s).map fun m => (m, p)
    else none

/-- Whether any pattern of a family fits a text, its offset from UTC left out of account. -/
def fits (l : Layouts) (s : String) : Bool :=
  l.patterns.any fun p => (Pattern.wallClock? (Pattern.items p.toList) s.toList).isSome

/-- The family of the first text that any family fits. -/
def infer? (texts : List String) : Option Layouts :=
  texts.findSome? fun s => [Layouts.dayFirst, .yearFirst, .withOffset].find? fun l => l.fits s

/-- The moments of texts in order, each read with the pattern that fitted last. -/
def moments (l : Layouts) : String → List (Option String) → List (Option Moment)
  | _, [] => []
  | latest, none :: rest => none :: moments l latest rest
  | latest, some s :: rest =>
    match l.moment? latest s with
    | some (m, p) => some m :: moments l p rest
    | none => none :: moments l latest rest

end Layouts

/-- How the texts of a column are read as datetimes when no pattern is given. -/
structure InferredDatetime where
  /-- The zone that the values get. -/
  zone : Option String
  /-- What becomes of times that occur twice. -/
  ambiguous : AmbiguousTime
  /-- Whether a text that does not fit fails. -/
  strict : Bool

namespace InferredDatetime

/-- The type of the values. -/
def dtype (p : InferredDatetime) : DType := .datetime .micro p.zone

/-- A moment as a datetime; where there is none although there is a text, it may fail. -/
def instant (p : InferredDatetime) (l : Layouts) (text : Option String) :
    Option Moment → Except FrameError (Option Int)
  | none => if p.strict && text.isSome then .error .unreadable else .ok none
  | some m =>
    let t := m.ticks .micro
    match p.zone with
    | some z => if l = .withOffset then .ok (some t)
      else (Zone.named z).label p.ambiguous true .micro t
    | none => .ok (some t)

/-- The texts of a column as datetimes. -/
def readAll (p : InferredDatetime) (texts : List (Option String)) :
    Except FrameError (List (Option Int)) :=
  if texts.all Option.isNone then .ok (texts.map fun _ => none)
  else
    match Layouts.infer? (texts.filterMap id) with
    | none => .error .unknownLayout
    | some l =>
      if l = .withOffset && p.zone.isNone then .error .wrongType
      else
        (texts.zip (l.moments (l.patterns.headD "") texts)).mapM fun (s, m) => p.instant l s m

end InferredDatetime

end FocusBilling
