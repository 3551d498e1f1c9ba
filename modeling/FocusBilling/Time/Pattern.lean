import FocusBilling.Number.Instances
import FocusBilling.Text.Blank
import FocusBilling.Time.Calendar

/-!
# Datetime patterns

Patterns of percent signs and letters, and the texts that match them.

* `Pattern.items` : the steps of a pattern;
* `Pattern.Fields` : what a text tells about a moment, which must not contradict itself;
* `Pattern.match?` : the fields of a text that matches a pattern from start to end;
* `Pattern.Fields.date?`, `Pattern.Fields.moment?`, `Pattern.Fields.instant?` : the day, the
  wall-clock time and the instant that fields determine.
-/

namespace FocusBilling.Pattern

open Text

/-- What a number in a text stands for. -/
inductive NumberField where
  | year | century | yearOfCentury
  | isoYear | isoCentury | isoYearOfCentury
  | month | day | ordinal
  | weekFromSunday | weekFromMonday | isoWeek
  | weekdayFromSunday | weekdayFromMonday
  | hour | hour12 | minute | second | nanosecond | timestamp
  deriving DecidableEq

/-- One step of a pattern. -/
inductive Item where
  | literal (s : List Char)
  | blanks
  | number (f : NumberField)
  | monthName (long : Bool)
  | weekdayName (long : Bool)
  | halfDay
  /-- A point and digits, or nothing. -/
  | fraction (places : Option Nat)
  /-- Exactly so many digits of a fraction. -/
  | fractionDigits (places : Nat)
  | zoneName
  /-- An offset from UTC; a lenient one may be `Z` or lack its minutes. -/
  | offset (lenient : Bool)
  /-- A whole timestamp of the internet. -/
  | timestamp
  /-- No pattern. -/
  | invalid
  deriving DecidableEq

/-! ### Patterns as texts -/

/-- The steps of a single letter. -/
def simpleItem? : Char → Option Item
  | 'Y' => some (.number .year)
  | 'C' => some (.number .century)
  | 'y' => some (.number .yearOfCentury)
  | 'G' => some (.number .isoYear)
  | 'g' => some (.number .isoYearOfCentury)
  | 'm' => some (.number .month)
  | 'd' | 'e' => some (.number .day)
  | 'j' => some (.number .ordinal)
  | 'U' => some (.number .weekFromSunday)
  | 'W' => some (.number .weekFromMonday)
  | 'V' => some (.number .isoWeek)
  | 'w' => some (.number .weekdayFromSunday)
  | 'u' => some (.number .weekdayFromMonday)
  | 'H' | 'k' => some (.number .hour)
  | 'I' | 'l' => some (.number .hour12)
  | 'M' => some (.number .minute)
  | 'S' => some (.number .second)
  | 'f' => some (.number .nanosecond)
  | 's' => some (.number .timestamp)
  | _ => none

/-- The steps of a letter that takes no padding. -/
def namedItems (c : Char) : List Item :=
  let colon : Item := .literal [':']
  let slash : Item := .literal ['/']
  let dash : Item := .literal ['-']
  let clock : List Item := [.number .hour, colon, .number .minute, colon, .number .second]
  match c with
  | 'b' | 'h' => [.monthName false]
  | 'B' => [.monthName true]
  | 'a' => [.weekdayName false]
  | 'A' => [.weekdayName true]
  | 'p' | 'P' => [.halfDay]
  | 'D' | 'x' => [.number .month, slash, .number .day, slash, .number .yearOfCentury]
  | 'F' => [.number .year, dash, .number .month, dash, .number .day]
  | 'v' => [.number .day, dash, .monthName false, dash, .number .year]
  | 'R' => [.number .hour, colon, .number .minute]
  | 'T' | 'X' => clock
  | 'r' => [.number .hour12, colon, .number .minute, colon, .number .second, .blanks, .halfDay]
  | 'c' => [.weekdayName false, .blanks, .monthName false, .blanks, .number .day, .blanks] ++
      clock ++ [.blanks, .number .year]
  | 'n' | 't' => [.blanks]
  | '%' => [.literal ['%']]
  | 'Z' => [.zoneName]
  | 'z' => [.offset false]
  | '+' => [.timestamp]
  | _ => [.invalid]

/-- The steps behind a percent sign, and the rest of the pattern. -/
def directive : List Char → List Item × List Char
  | '-' :: c :: r | '0' :: c :: r | '_' :: c :: r =>
    (match simpleItem? c with
      | some i => [i]
      | none => [.invalid], r)
  | '#' :: 'z' :: r => ([.offset true], r)
  | ':' :: 'z' :: r | ':' :: ':' :: 'z' :: r | ':' :: ':' :: ':' :: 'z' :: r => ([.offset false], r)
  | '.' :: 'f' :: r => ([.fraction none], r)
  | '.' :: '3' :: 'f' :: r => ([.fraction (some 3)], r)
  | '.' :: '6' :: 'f' :: r => ([.fraction (some 6)], r)
  | '.' :: '9' :: 'f' :: r => ([.fraction (some 9)], r)
  | '3' :: 'f' :: r => ([.fractionDigits 3], r)
  | '6' :: 'f' :: r => ([.fractionDigits 6], r)
  | '9' :: 'f' :: r => ([.fractionDigits 9], r)
  | c :: r =>
    (match simpleItem? c with
      | some i => [i]
      | none => namedItems c, r)
  | [] => ([.invalid], [])

/-- The steps of a pattern of at most so many characters. -/
def itemsFrom : Nat → List Char → List Item
  | 0, _ => []
  | _ + 1, [] => []
  | n + 1, '%' :: cs =>
    let (found, rest) := directive cs
    found ++ itemsFrom n rest
  | n + 1, c :: cs =>
    if isBlank c then .blanks :: itemsFrom n (cs.dropWhile isBlank)
    else
      let stop := fun x => x == '%' || isBlank x
      .literal ((c :: cs).takeWhile fun x => !stop x) ::
        itemsFrom n ((c :: cs).dropWhile fun x => !stop x)

/-- The steps of a pattern. -/
def items (p : List Char) : List Item := itemsFrom (p.length + 1) p

/-! ### Fields -/

/-- What a text tells about a moment. -/
structure Fields where
  /-- The year. -/
  year : Option Int := none
  /-- The year without its last two digits. -/
  century : Option Int := none
  /-- The last two digits of the year. -/
  yearOfCentury : Option Int := none
  /-- The year of the calendar of weeks. -/
  isoYear : Option Int := none
  /-- That year without its last two digits. -/
  isoCentury : Option Int := none
  /-- The last two digits of that year. -/
  isoYearOfCentury : Option Int := none
  /-- The month. -/
  month : Option Int := none
  /-- The day of the month. -/
  day : Option Int := none
  /-- The day of the year. -/
  ordinal : Option Int := none
  /-- The week of the year, from the first Sunday. -/
  weekFromSunday : Option Int := none
  /-- The week of the year, from the first Monday. -/
  weekFromMonday : Option Int := none
  /-- The week of the calendar of weeks. -/
  isoWeek : Option Int := none
  /-- The day of the week, Monday being 0. -/
  weekday : Option Int := none
  /-- Which half of the day. -/
  half : Option Int := none
  /-- The hour of the half. -/
  hourOfHalf : Option Int := none
  /-- The minute. -/
  minute : Option Int := none
  /-- The second, up to 60. -/
  second : Option Int := none
  /-- The nanosecond. -/
  nano : Option Int := none
  /-- Seconds since 1970. -/
  timestamp : Option Int := none
  /-- The offset from UTC in seconds. -/
  offset : Option Int := none

/-- A value for a field that is still open or holds the same value. -/
def agree (known : Option Int) (v : Int) : Option (Option Int) :=
  match known with
  | none => some (some v)
  | some k => if k = v then some (some v) else none

/-- A value in a range. -/
def within (lo hi v : Int) : Option Int := if lo ≤ v ∧ v ≤ hi then some v else none

namespace Fields

/-- Tell one more number. -/
def set (fs : Fields) (f : NumberField) (v : Int) : Option Fields :=
  match f with
  | .year => do
    let v ← within (-2147483648) 2147483647 v
    pure { fs with year := ← agree fs.year v }
  | .century => do pure { fs with century := ← agree fs.century (← within 0 2147483647 v) }
  | .yearOfCentury => do
    pure { fs with yearOfCentury := ← agree fs.yearOfCentury (← within 0 99 v) }
  | .isoYear => do
    let v ← within (-2147483648) 2147483647 v
    pure { fs with isoYear := ← agree fs.isoYear v }
  | .isoCentury => do
    pure { fs with isoCentury := ← agree fs.isoCentury (← within 0 2147483647 v) }
  | .isoYearOfCentury => do
    pure { fs with isoYearOfCentury := ← agree fs.isoYearOfCentury (← within 0 99 v) }
  | .month => do pure { fs with month := ← agree fs.month (← within 1 12 v) }
  | .day => do pure { fs with day := ← agree fs.day (← within 1 31 v) }
  | .ordinal => do pure { fs with ordinal := ← agree fs.ordinal (← within 1 366 v) }
  | .weekFromSunday => do
    pure { fs with weekFromSunday := ← agree fs.weekFromSunday (← within 0 53 v) }
  | .weekFromMonday => do
    pure { fs with weekFromMonday := ← agree fs.weekFromMonday (← within 0 53 v) }
  | .isoWeek => do pure { fs with isoWeek := ← agree fs.isoWeek (← within 1 53 v) }
  | .weekdayFromSunday => do
    let v ← within 0 6 v
    pure { fs with weekday := ← agree fs.weekday ((v + 6) % 7) }
  | .weekdayFromMonday => do
    let v ← within 1 7 v
    pure { fs with weekday := ← agree fs.weekday (v - 1) }
  | .hour => do
    let v ← within 0 23 v
    pure { fs with half := ← agree fs.half (v / 12), hourOfHalf := ← agree fs.hourOfHalf (v % 12) }
  | .hour12 => do
    let v ← within 1 12 v
    pure { fs with hourOfHalf := ← agree fs.hourOfHalf (v % 12) }
  | .minute => do pure { fs with minute := ← agree fs.minute (← within 0 59 v) }
  | .second => do pure { fs with second := ← agree fs.second (← within 0 60 v) }
  | .nanosecond => do pure { fs with nano := ← agree fs.nano (← within 0 999999999 v) }
  | .timestamp => do pure { fs with timestamp := ← agree fs.timestamp v }

/-- Tell the offset from UTC. -/
def setOffset (fs : Fields) (v : Int) : Option Fields := do
  pure { fs with offset := ← agree fs.offset v }

end Fields

/-! ### Matching -/

/-- How many digits a number has at most, and whether it may carry a sign. -/
def width : NumberField → Nat × Bool
  | .year | .isoYear => (4, true)
  | .weekdayFromSunday | .weekdayFromMonday => (1, false)
  | .ordinal => (3, false)
  | .nanosecond => (9, false)
  | .timestamp => (18, false)
  | _ => (2, false)

/-- At least one and at most so many digits at the start of a text. -/
def digitsAt (most : Nat) (cs : List Char) : Option (Int × List Char) :=
  let ds := (cs.takeWhile isDigit).take most
  if ds.isEmpty then none else some (digitsValue 10 ds, cs.drop ds.length)

/-- The number of a field at the start of a text, blanks in front of it left out. -/
def numberAt (f : NumberField) (cs : List Char) : Option (Int × List Char) :=
  let (most, signed) := width f
  match signed, trimLeft cs with
  | true, '-' :: r => (digitsAt r.length r).map fun (n, r) => (-n, r)
  | true, '+' :: r => digitsAt r.length r
  | _, r => digitsAt most r

/-- What follows a word, the case of letters left out of account. -/
def dropWord (word : List Char) (cs : List Char) : Option (List Char) :=
  if (cs.take word.length).map Char.toLower = word then some (cs.drop word.length) else none

/-- The months in small letters. -/
def monthNames : List (List Char) :=
  ["january", "february", "march", "april", "may", "june", "july", "august", "september",
    "october", "november", "december"].map String.toList

/-- The days of the week in small letters, from Monday. -/
def weekdayNames : List (List Char) :=
  ["monday", "tuesday", "wednesday", "thursday", "friday", "saturday", "sunday"].map String.toList

/-- The place of the name at the start of a text: its first three letters, or where `long` all
of it if it is written out. -/
def nameAt (names : List (List Char)) (long : Bool) (cs : List Char) :
    Option (Nat × List Char) := do
  let i ← names.findIdx? fun w => (dropWord (w.take 3) cs).isSome
  let w ← names[i]?
  let short ← dropWord (w.take 3) cs
  if long then pure (i, (dropWord w cs).getD short) else pure (i, short)

/-- A fraction of a second at the start of a text, as nanoseconds; digits past the ninth count
for nothing. -/
def fractionAt (cs : List Char) : Option (Int × List Char) :=
  let ds := cs.takeWhile isDigit
  if ds.isEmpty then none
  else
    let kept := ds.take 9
    some ((digitsValue 10 kept : Int) * 10 ^ (9 - kept.length), cs.drop ds.length)

/-- Exactly so many digits of a fraction of a second, as nanoseconds. -/
def fixedFractionAt (places : Nat) (cs : List Char) : Option (Int × List Char) :=
  let ds := cs.take places
  if ds.length = places && ds.all isDigit then
    some ((digitsValue 10 ds : Int) * 10 ^ (9 - places), cs.drop places)
  else none

/-- Two digits at the start of a text. -/
def twoDigits : List Char → Option (Int × List Char)
  | a :: b :: r => if isDigit a && isDigit b then some (digitsValue 10 [a, b], r) else none
  | _ => none

/-- An offset from UTC at the start of a text, in seconds. -/
def offsetAt (zulu shortForm : Bool) (cs : List Char) : Option (Int × List Char) := do
  match zulu, cs with
  | true, 'Z' :: r | true, 'z' :: r => pure (0, r)
  | _, _ => do
    let (negative, r) ← match cs with
      | '+' :: r => some (false, r)
      | '-' :: r | '−' :: r => some (true, r)
      | _ => none
    let (h, r) ← twoDigits r
    let r := r.dropWhile fun c => c == ':' || isBlank c
    let (m, r) ← match r with
      | _ :: _ :: _ => (match twoDigits r with
          | some (m, r) => if m < 60 then some (m, r) else none
          | none => none)
      | [] => if shortForm then some (0, []) else none
      | _ => none
    let s := h * 3600 + m * 60
    pure (if negative then -s else s, r)

/-- One step of a match: the fields so far and the rest of the text. -/
def step (item : Item) (fs : Fields) (cs : List Char) : Option (Fields × List Char) :=
  match item with
  | .literal s => if s.isPrefixOf cs then some (fs, cs.drop s.length) else none
  | .blanks => some (fs, trimLeft cs)
  | .number f => do
    let (v, r) ← numberAt f cs
    pure (← fs.set f v, r)
  | .monthName long => do
    let (i, r) ← nameAt monthNames long cs
    pure (← fs.set .month (i + 1), r)
  | .weekdayName long => do
    let (i, r) ← nameAt weekdayNames long cs
    pure (← fs.set .weekdayFromMonday (i + 1), r)
  | .halfDay =>
    match cs with
    | a :: m :: r =>
      if m.toLower = 'm' then
        if a.toLower = 'a' then do pure ({ fs with half := ← agree fs.half 0 }, r)
        else if a.toLower = 'p' then do pure ({ fs with half := ← agree fs.half 1 }, r)
        else none
      else none
    | _ => none
  | .fraction places =>
    match cs with
    | '.' :: r => do
      let (v, r) ← match places with
        | none => fractionAt r
        | some n => fixedFractionAt n r
      pure (← fs.set .nanosecond v, r)
    | _ => some (fs, cs)
  | .fractionDigits places => do
    let (v, r) ← fixedFractionAt places cs
    pure (← fs.set .nanosecond v, r)
  | .zoneName => some (fs, cs.dropWhile fun c => !isBlank c)
  | .offset lenient => do
    let (v, r) ← offsetAt lenient lenient (trimLeft cs)
    pure (← fs.setOffset v, r)
  | .timestamp | .invalid => none

/-- Run steps as far as they go: the fields told so far, and the rest of the text if no step
failed. -/
def run : List Item → Fields → List Char → Fields × Option (List Char)
  | [], fs, cs => (fs, some cs)
  | i :: is, fs, cs =>
    match step i fs cs with
    | some (fs, cs) => run is fs cs
    | none => (fs, none)

/-- Run steps that must all succeed. -/
def runAll (is : List Item) (fs : Fields) (cs : List Char) : Option (Fields × List Char) :=
  match run is fs cs with
  | (fs, some cs) => some (fs, cs)
  | (_, none) => none

/-- A whole timestamp of the internet at the start of a text. -/
def timestampAt (fs : Fields) (cs : List Char) : Option (Fields × List Char) := do
  let (fs, cs) ← runAll (items "%Y-%m-%d".toList) fs cs
  let cs ← match cs with
    | 'T' :: r | 't' :: r | ' ' :: r => some r
    | _ => none
  let (fs, cs) ← runAll (items "%H:%M:%S%.f".toList) fs cs
  let cs := trimLeft cs
  let (v, r) ← match dropWord "utc".toList cs with
    | some r => some (0, r)
    | none => offsetAt true false cs
  pure (← fs.setOffset v, r)

/-- Run the steps of a pattern, with timestamps among them. -/
def matchItems : List Item → Fields → List Char → Option (Fields × List Char)
  | [], fs, cs => some (fs, cs)
  | .timestamp :: is, fs, cs => do
    let (fs, cs) ← timestampAt fs cs
    matchItems is fs cs
  | i :: is, fs, cs => do
    let (fs, cs) ← step i fs cs
    matchItems is fs cs

/-- The fields of a text that matches a pattern from start to end. -/
def match? (p : List Item) (cs : List Char) : Option Fields :=
  match matchItems p {} cs with
  | some (fs, []) => some fs
  | _ => none

/-! ### Moments -/

/-- The year that its parts tell, where there are any; the outer `none` is a contradiction. -/
def resolveYear (y q r : Option Int) : Option (Option Int) :=
  match y, q, r with
  | y, none, none => some y
  | some y, q, r =>
    if y < 0 then none
    else if q.getD (y / 100) = y / 100 ∧ r.getD (y % 100) = y % 100 then some (some y) else none
  | none, some q, some r => some (some (q * 100 + r))
  | none, none, some r => some (some (r + if r < 70 then 2000 else 1900))
  | none, some _, none => none

/-- Whether a field is open or holds a value. -/
def holds (known : Option Int) (v : Int) : Bool := known.all (· == v)

namespace Fields

/-- Whether a day does not contradict the year, month and day told. -/
def agreesDate (fs : Fields) (n : Int) : Bool :=
  let d := Calendar.dateOf n
  holds fs.year d.year &&
    (if d.year ≥ 0 then
      holds fs.century (d.year / 100) && holds fs.yearOfCentury (d.year % 100)
    else fs.century.isNone && fs.yearOfCentury.isNone) &&
    holds fs.month d.month && holds fs.day d.day

/-- Whether a day does not contradict the week date told. -/
def agreesIsoWeek (fs : Fields) (n : Int) : Bool :=
  let (y, w) := Calendar.isoWeek n
  holds fs.isoYear y &&
    (if y ≥ 0 then holds fs.isoCentury (y / 100) && holds fs.isoYearOfCentury (y % 100)
    else fs.isoCentury.isNone && fs.isoYearOfCentury.isNone) &&
    holds fs.isoWeek w && holds fs.weekday (Calendar.weekday n)

/-- Whether a day does not contradict the day and weeks of the year told. -/
def agreesOrdinal (fs : Fields) (n : Int) : Bool :=
  holds fs.ordinal (Calendar.ordinal n) && holds fs.weekFromSunday (Calendar.weekFrom 6 n) &&
    holds fs.weekFromMonday (Calendar.weekFrom 0 n)

/-- A day that contradicts nothing told. -/
def checked (fs : Fields) (n : Option Int) : Option Int :=
  n.filter fun n => fs.agreesDate n && fs.agreesIsoWeek n && fs.agreesOrdinal n

/-- The day that the fields determine. -/
def date? (fs : Fields) : Option Int := do
  let year ← resolveYear fs.year fs.century fs.yearOfCentury
  let isoYear ← resolveYear fs.isoYear fs.isoCentury fs.isoYearOfCentury
  let byWeeks : Option Int := do
    let y ← isoYear
    let w ← fs.isoWeek
    let d ← fs.weekday
    checked fs (Calendar.dayOfIsoWeek? y w.toNat d.toNat)
  match year with
  | none => byWeeks
  | some y =>
    match fs.month, fs.day, fs.ordinal, fs.weekday with
    | some m, some d, _, _ => checked fs (Calendar.dayOfDate? y m.toNat d.toNat)
    | _, _, some o, _ =>
      let n := Calendar.daysOf y 1 1 + o - 1
      checked fs (if (Calendar.dateOf n).year = y then some n else none)
    | _, _, _, some d =>
      match fs.weekFromSunday, fs.weekFromMonday with
      | some w, _ => checked fs (Calendar.dayOfWeek? y w.toNat d.toNat 6)
      | _, some w => checked fs (Calendar.dayOfWeek? y w.toNat d.toNat 0)
      | none, none => byWeeks
    | _, _, _, _ => byWeeks

/-- Seconds and nanoseconds since midnight that the fields determine. -/
def time? (fs : Fields) : Option (Int × Int) := do
  let half ← fs.half
  let hour ← fs.hourOfHalf
  let minute ← fs.minute
  let second := fs.second.getD 0
  let nano ← match fs.nano, fs.second with
    | none, _ => some 0
    | some n, some _ => some n
    | some _, none => none
  let (second, extra) := if second = 60 then (59, 1000000000) else (second, 0)
  pure ((half * 12 + hour) * 3600 + minute * 60 + second, nano + extra)

/-- The wall-clock time that the fields determine; an offset from UTC only matters for a
timestamp told beside it. -/
def moment? (fs : Fields) (offset : Int) : Option Moment :=
  match fs.date?, fs.time? with
  | some day, some (second, nano) =>
    let stamp := day * Calendar.daySeconds + second - offset
    let ok := fs.timestamp.all fun t => t == stamp || (nano ≥ 1000000000 && t == stamp + 1)
    if ok then some ⟨day, second.toNat, nano.toNat⟩ else none
  | _, _ =>
    match fs.timestamp with
    | none => none
    | some t => do
      let wall := t + offset
      let day := Int.fdiv wall Calendar.daySeconds
      let second := Int.fmod wall Calendar.daySeconds
      let fs ← fs.set .second (second % 60)
      let fs ← fs.set .year (Calendar.dateOf day).year
      let fs ← fs.set .ordinal (Calendar.ordinal day)
      let fs ← fs.set .hour (second / 3600)
      let fs ← fs.set .minute (second / 60 % 60)
      let day ← fs.date?
      let (second, nano) ← fs.time?
      pure ⟨day, second.toNat, nano.toNat⟩

/-- The instant that the fields determine, as a wall-clock time of UTC. -/
def instant? (fs : Fields) : Option Moment := do
  let offset ← fs.offset
  if offset ≤ -86400 ∨ offset ≥ 86400 then none
  else
    let m ← fs.moment? offset
    let s := m.day * Calendar.daySeconds + m.second - offset
    pure ⟨Int.fdiv s Calendar.daySeconds, (Int.fmod s Calendar.daySeconds).toNat, m.nano⟩

end Fields

/-! ### Texts of one width -/

/-- How many characters match a pattern all of whose directives have one width. -/
def fixedWidth : List Char → Option Nat
  | [] => some 0
  | '%' :: 'Y' :: r => (fixedWidth r).map (4 + ·)
  | '%' :: 'b' :: r => (fixedWidth r).map (3 + ·)
  | '%' :: '9' :: 'f' :: r => (fixedWidth r).map (9 + ·)
  | '%' :: '6' :: 'f' :: r => (fixedWidth r).map (6 + ·)
  | '%' :: '3' :: 'f' :: r => (fixedWidth r).map (3 + ·)
  | '%' :: c :: r =>
    if ['y', 'm', 'd', 'H', 'M', 'S'].contains c then (fixedWidth r).map (2 + ·) else none
  | '%' :: [] => none
  | c :: r => (fixedWidth r).map (c.utf8Size + ·)

/-- A date and time in the making; what a pattern does not tell is the first of its kind. -/
structure Clock where
  /-- The year. -/
  year : Int := 1
  /-- The month. -/
  month : Nat := 1
  /-- The day of the month. -/
  day : Nat := 1
  /-- The hour. -/
  hour : Nat := 0
  /-- The minute. -/
  minute : Nat := 0
  /-- The second. -/
  second : Nat := 0
  /-- The nanosecond. -/
  nano : Nat := 0

namespace Clock

/-- The moment of a clock whose parts are in range. -/
def moment? (c : Clock) : Option Moment := do
  let day ← Calendar.dayOfDate? c.year c.month c.day
  if c.hour < 24 && c.minute < 60 && c.second < 60 && c.nano < 1000000000 then
    pure ⟨day, c.hour * 3600 + c.minute * 60 + c.second, c.nano⟩
  else none

end Clock

/-- The next so many characters, which are all digits, as a number. -/
def digitSlot (n : Nat) (cs : List Char) : Option (Nat × List Char) :=
  let part := cs.take n
  if part.length = n && part.all isDigit then some (digitsValue 10 part, cs.drop n) else none

/-- The next so many characters, digits perhaps behind a dash, as a number. -/
def signedSlot (n : Nat) (cs : List Char) : Option (Int × List Char) :=
  match cs with
  | '-' :: r => if n ≤ 1 then none else (digitSlot (n - 1) r).map fun (v, r) => (-(v : Int), r)
  | cs => (digitSlot n cs).map fun (v, r) => ((v : Int), r)

/-- Read a text by a pattern of one width. -/
def readFixed (negative : Bool) : List Char → List Char → Clock → Option Clock
  | [], [], c => some c
  | [], _ :: _, _ => none
  | '%' :: 'Y' :: p, cs, c => do
    let (v, r) ← signedSlot 4 cs
    readFixed negative p r { c with year := if negative then -v else v }
  | '%' :: 'm' :: p, cs, c => do
    let (v, r) ← digitSlot 2 cs
    if v > 12 then none else readFixed negative p r { c with month := v }
  | '%' :: 'b' :: p, cs, c => do
    let i ← monthNames.findIdx? fun w =>
      match w.take 3, cs.take 3 with
      | a :: w, b :: s => a.toUpper == b && w == s
      | _, _ => false
    readFixed negative p (cs.drop 3) { c with month := i + 1 }
  | '%' :: 'd' :: p, cs, c => do
    let (v, r) ← digitSlot 2 cs
    readFixed negative p r { c with day := v }
  | '%' :: 'H' :: p, cs, c => do
    let (v, r) ← digitSlot 2 cs
    readFixed negative p r { c with hour := v }
  | '%' :: 'M' :: p, cs, c => do
    let (v, r) ← digitSlot 2 cs
    readFixed negative p r { c with minute := v }
  | '%' :: 'S' :: p, cs, c => do
    let (v, r) ← digitSlot 2 cs
    readFixed negative p r { c with second := v }
  | '%' :: 'y' :: p, cs, c => do
    let (v, r) ← signedSlot 2 cs
    readFixed negative p r { c with year := if v < 70 then 2000 + v else 1900 + v }
  | '%' :: '9' :: 'f' :: p, cs, c => do
    let (v, r) ← digitSlot 9 cs
    readFixed negative p r { c with nano := v }
  | '%' :: '6' :: 'f' :: p, cs, c => do
    let (v, r) ← digitSlot 6 cs
    readFixed negative p r { c with nano := v * 1000 }
  | '%' :: '3' :: 'f' :: p, cs, c => do
    let (v, r) ← digitSlot 3 cs
    readFixed negative p r { c with nano := v * 1000000 }
  | _ :: _, [], _ => none
  | x :: p, y :: cs, c => if x = y then readFixed negative p cs c else none

/-- The wall-clock time of a text by a pattern of one width. -/
def fixedMoment? (p : List Char) (cs : List Char) : Option Moment := do
  let n ← fixedWidth p
  let (negative, body) := match p, cs with
    | '%' :: 'Y' :: _, '-' :: r => (true, r)
    | _, r => (false, r)
  let size := (body.map Char.utf8Size).sum
  if size ≠ n then none
  else
    let c ← readFixed negative p body {}
    c.moment?

/-! ### Texts by a pattern -/

/-- The wall-clock time of a text; without a time of day it is midnight. -/
def wallClock? (is : List Item) (cs : List Char) : Option Moment :=
  match (match? is cs).bind fun fs => fs.moment? 0 with
  | some m => some m
  | none => ((match? is cs).bind Fields.date?).map fun d => ⟨d, 0, 0⟩

/-- The instant of a text that tells its offset from UTC. -/
def instantOf? (is : List Item) (cs : List Char) : Option Moment :=
  (match? is cs).bind Fields.instant?

end FocusBilling.Pattern
