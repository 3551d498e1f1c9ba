import FocusBilling.Time.Pattern
import FocusBilling.Time.Zone

/-!
# Dates and times by a pattern

The writing counterpart of reading by a pattern: each directive of a percent sign and a letter is
replaced by what it tells of a moment.

* `Formatted.Subject` : what is written: a day, perhaps with the time of day and the offset from
  UTC;
* `Formatted.write?` : the text of a pattern, unless it asks for something that is not there.
-/

namespace FocusBilling.Formatted

open Text

/-- What is written. -/
structure Subject where
  /-- The day. -/
  day : Int
  /-- Seconds and nanoseconds since midnight. -/
  time : Option (Nat × Nat)
  /-- Seconds from UTC, and the name of the zone. -/
  offset : Option (Int × String)

/-- How a number is filled up to its width. -/
inductive Fill where
  | none
  | zeros
  | blanks
  deriving DecidableEq

/-- A number filled up to a width. -/
def filled (fill : Fill) (width : Nat) (n : Nat) : List Char :=
  let ds := (toString n).toList
  match fill with
  | .none => ds
  | .zeros => List.replicate (width - ds.length) '0' ++ ds
  | .blanks => List.replicate (width - ds.length) ' ' ++ ds

/-- A year of four digits; outside of 0 to 9999 it carries its sign. -/
def filledYear (fill : Fill) (y : Int) : List Char :=
  if 0 ≤ y ∧ y ≤ 9999 then filled fill 4 y.toNat
  else (if y < 0 then '-' else '+') :: filled fill 4 y.natAbs

/-- A name with a capital, the whole of it or three letters. -/
def named (names : List (List Char)) (long : Bool) (i : Nat) : List Char :=
  match (names.getD i []) with
  | c :: cs => c.toUpper :: (if long then cs else cs.take 2)
  | [] => []

/-- The hour on a dial of twelve. -/
def hour12 (hour : Nat) : Nat := if hour % 12 = 0 then 12 else hour % 12

/-- A number that a letter stands for: its width, how it is filled up, and its value. -/
def number? (s : Subject) (c : Char) : Option (Nat × Fill × Nat) :=
  let d := Calendar.dateOf s.day
  let clock (f : Nat → Nat → Nat) : Option Nat := s.time.map fun (a, b) => f a b
  let two (n : Nat) : Option (Nat × Fill × Nat) := some (2, .zeros, n)
  match c with
  | 'C' => two (Int.fdiv d.year 100).toNat
  | 'y' => two (Int.fmod d.year 100).toNat
  | 'g' => two (Int.fmod (Calendar.isoWeek s.day).1 100).toNat
  | 'q' => some (1, .zeros, (d.month + 2) / 3)
  | 'm' => two d.month
  | 'd' => two d.day
  | 'e' => some (2, .blanks, d.day)
  | 'j' => some (3, .zeros, Calendar.ordinal s.day)
  | 'U' => two (Calendar.weekFrom 6 s.day)
  | 'W' => two (Calendar.weekFrom 0 s.day)
  | 'V' => two (Calendar.isoWeek s.day).2
  | 'w' => some (1, .zeros, (Calendar.weekday s.day + 1) % 7)
  | 'u' => some (1, .zeros, Calendar.weekday s.day + 1)
  | 'H' => do two (← clock fun t _ => t / 3600)
  | 'k' => do pure (2, .blanks, ← clock fun t _ => t / 3600)
  | 'I' => do two (← clock fun t _ => hour12 (t / 3600))
  | 'l' => do pure (2, .blanks, ← clock fun t _ => hour12 (t / 3600))
  | 'M' => do two (← clock fun t _ => t / 60 % 60)
  | 'S' => do two (← clock fun t _ => t % 60)
  | 'f' => do pure (9, .zeros, ← clock fun _ n => n)
  | _ => none

/-- A letter that stands for a number, filled up as it is usual or as a sign says. -/
def numeric? (s : Subject) (fill : Option Fill) (c : Char) : Option (List Char) :=
  match c with
  | 'Y' => some (filledYear (fill.getD .zeros) (Calendar.dateOf s.day).year)
  | 'G' => some (filledYear (fill.getD .zeros) (Calendar.isoWeek s.day).1)
  | 's' => s.time.map fun (t, _) =>
    (toString (s.day * Calendar.daySeconds + t - (s.offset.map (·.1)).getD 0)).toList
  | c => (number? s c).map fun (width, usual, n) => filled (fill.getD usual) width n

/-- So many digits of a fraction of a second. -/
def fraction (places nanos : Nat) : List Char :=
  filled .zeros places (nanos / 10 ^ (9 - places))

/-- A fraction of a second behind a point, with three, six or nine digits, or nothing where there is
none. -/
def shortFraction (nanos : Nat) : List Char :=
  if nanos = 0 then []
  else if nanos % 1000000 = 0 then '.' :: fraction 3 nanos
  else if nanos % 1000 = 0 then '.' :: fraction 6 nanos
  else '.' :: fraction 9 nanos

/-- An offset from UTC, with a separator between hours and minutes. -/
def offsetText (between : List Char) (o : Int) : List Char :=
  let minutes := (o.natAbs + 30) / 60
  (if o < 0 then '-' else '+') :: filled .zeros 2 (minutes / 60) ++ between ++
    filled .zeros 2 (minutes % 60)

/-- A letter that stands for other letters. -/
def longForm : Char → Option String
  | 'D' | 'x' => some "%m/%d/%y"
  | 'F' => some "%Y-%m-%d"
  | 'v' => some "%e-%b-%Y"
  | 'R' => some "%H:%M"
  | 'T' | 'X' => some "%H:%M:%S"
  | 'r' => some "%I:%M:%S %p"
  | 'c' => some "%a %b %e %H:%M:%S %Y"
  | '+' => some "%Y-%m-%dT%H:%M:%S%.f%:z"
  | _ => none

/-- A letter that stands for a word. -/
def word? (s : Subject) (c : Char) : Option (List Char) :=
  match c with
  | 'b' | 'h' => some (named Pattern.monthNames false ((Calendar.dateOf s.day).month - 1))
  | 'B' => some (named Pattern.monthNames true ((Calendar.dateOf s.day).month - 1))
  | 'a' => some (named Pattern.weekdayNames false (Calendar.weekday s.day))
  | 'A' => some (named Pattern.weekdayNames true (Calendar.weekday s.day))
  | 'p' => s.time.map fun (t, _) => (if t < 43200 then "AM" else "PM").toList
  | 'P' => s.time.map fun (t, _) => (if t < 43200 then "am" else "pm").toList
  | 'Z' => s.offset.map fun (_, zone) => zone.toList
  | 'z' => s.offset.map fun (o, _) => offsetText [] o
  | 'n' => some ['\n']
  | 't' => some ['\t']
  | '%' => some ['%']
  | _ => none

/-- What a directive behind a percent sign stands for, and the rest of the pattern. -/
def directive? (s : Subject) : List Char → Option (List Char × List Char)
  | '-' :: c :: r => (numeric? s (some .none) c).map fun t => (t, r)
  | '0' :: c :: r => (numeric? s (some .zeros) c).map fun t => (t, r)
  | '_' :: c :: r => (numeric? s (some .blanks) c).map fun t => (t, r)
  | ':' :: 'z' :: r => s.offset.map fun (o, _) => (offsetText [':'] o, r)
  | '.' :: 'f' :: r => s.time.map fun (_, n) => (shortFraction n, r)
  | '.' :: '3' :: 'f' :: r => s.time.map fun (_, n) => ('.' :: fraction 3 n, r)
  | '.' :: '6' :: 'f' :: r => s.time.map fun (_, n) => ('.' :: fraction 6 n, r)
  | '.' :: '9' :: 'f' :: r => s.time.map fun (_, n) => ('.' :: fraction 9 n, r)
  | '3' :: 'f' :: r => s.time.map fun (_, n) => (fraction 3 n, r)
  | '6' :: 'f' :: r => s.time.map fun (_, n) => (fraction 6 n, r)
  | '9' :: 'f' :: r => s.time.map fun (_, n) => (fraction 9 n, r)
  | c :: r => ((word? s c).orElse fun _ => numeric? s none c).map fun t => (t, r)
  | [] => none

/-- The text of a pattern; at most so many steps are taken. -/
def writeFrom (s : Subject) : Nat → List Char → Option (List Char)
  | 0, _ => none
  | _ + 1, [] => some []
  | n + 1, '%' :: r =>
    match r with
    | c :: later =>
      match longForm c with
      | some form => writeFrom s n (form.toList ++ later)
      | none => do
        let (text, rest) ← directive? s r
        pure (text ++ (← writeFrom s n rest))
    | [] => none
  | n + 1, c :: r => do pure (c :: (← writeFrom s n r))

/-- The text of a pattern, unless it asks for something that is not there. -/
def write? (pattern : String) (s : Subject) : Option String :=
  (writeFrom s (32 * pattern.length + 1) pattern.toList).map String.ofList

end FocusBilling.Formatted
