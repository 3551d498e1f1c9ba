import FocusBilling.Text.Ascii

/-!
# Levels of log entries

* `LogLevel` : how grave an entry is;
* `LogLimit` : the least grave level that is still shown, if any is;
* `LogLimit.read?` : the limit that a text names.
-/

namespace FocusBilling

/-- How grave an entry is. -/
inductive LogLevel where
  | error
  | warn
  | info
  | debug
  | trace
  deriving DecidableEq

namespace LogLevel

/-- The levels from the gravest on. -/
def all : List LogLevel := [error, warn, info, debug, trace]

/-- The name of a level. -/
def name : LogLevel → String
  | error => "error"
  | warn => "warn"
  | info => "info"
  | debug => "debug"
  | trace => "trace"

/-- The place of a level among the levels; the gravest has the first. -/
def rank : LogLevel → Nat
  | error => 1
  | warn => 2
  | info => 3
  | debug => 4
  | trace => 5

end LogLevel

/-- The least grave level that is still shown; none: nothing is shown. -/
abbrev LogLimit := Option LogLevel

namespace LogLimit

/-- Whether entries of a level are shown. -/
def shows (limit : LogLimit) (level : LogLevel) : Bool :=
  match limit with
  | some least => level.rank ≤ least.rank
  | none => false

/-- The limit at a place: at zero nothing is shown, behind the last level everything. -/
def ofRank (n : Int) : LogLimit :=
  if n ≤ 0 then none else some (LogLevel.all.getD (n.toNat - 1) .trace)

/-- A whole number without a sign or with a plus sign. -/
def readRank? (cs : List Char) : Option Nat :=
  let digits := match cs with
    | '+' :: rest => rest
    | _ => cs
  if digits.isEmpty || !digits.all Text.isDigit then none else some (Text.digitsValue 10 digits)

/-- The limit that a text names, by a level in any case, by a place, or as nothing at all. -/
def read? (s : String) : Option LogLimit :=
  match readRank? s.toList with
  | some n => if n ≤ 5 then some (ofRank n) else none
  | none =>
    let name := Text.lower s
    if name = "" then some (some .error)
    else if name = "off" then some none
    else (LogLevel.all.find? fun l => l.name = name).map some

end LogLimit

end FocusBilling
