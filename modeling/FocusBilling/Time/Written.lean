import FocusBilling.Time.Zone

/-!
# Written dates and times

* `Written.date` : a day as year, month and day;
* `Written.datetime` : an instant as date and time, in the wall clock of its zone.
-/

namespace FocusBilling.Written

open Text

/-- A year of at least four digits; outside of 0 to 9999 it carries its sign. -/
def year (y : Int) : String :=
  if 0 ≤ y ∧ y ≤ 9999 then padded 4 y.toNat
  else (if y < 0 then "-" else "+") ++ padded 4 y.natAbs

/-- A day as `2024-02-29`. -/
def date (n : Int) : String :=
  let d := Calendar.dateOf n
  year d.year ++ "-" ++ padded 2 d.month ++ "-" ++ padded 2 d.day

/-- A time of day as `10:11:12`. -/
def clock (s : Nat) : String :=
  padded 2 (s / 3600) ++ ":" ++ padded 2 (s / 60 % 60) ++ ":" ++ padded 2 (s % 60)

/-- An offset from UTC, to the nearest minute, with a separator between hours and minutes. -/
def offset (sep : String) (o : Int) : String :=
  let m := (o.natAbs + 30) / 60
  (if o < 0 then "-" else "+") ++ padded 2 (m / 60) ++ sep ++ padded 2 (m % 60)

/-- How instants are written. -/
structure Style where
  /-- What stands between date and time. -/
  between : String
  /-- What stands between the hours and minutes of an offset. -/
  offsetSep : String

/-- A datetime turned into text in a table. -/
def tableStyle : Style := ⟨" ", ":"⟩

/-- A datetime in a file of separated values. -/
def fileStyle : Style := ⟨"T", ""⟩

/-- Ticks of a unit since 1970, in the wall clock of a zone, with as many digits of the second
as the unit has; where there is a zone its offset follows. -/
def datetime (style : Style) (u : TimeUnit) (zone : Option String) (ticks : Int) : String :=
  let write (t : Int) : String :=
    let m := Moment.ofTicks u t
    date m.day ++ style.between ++ clock m.second ++ "." ++
      padded u.digits (Int.fmod t u.perSecond).toNat
  match zone with
  | none => write ticks
  | some name =>
    let o := (Zone.named name).offsetAt (Int.fdiv ticks u.perSecond)
    write (ticks + o * u.perSecond) ++ offset style.offsetSep o

end FocusBilling.Written
