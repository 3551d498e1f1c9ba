import FocusBilling.Log.Level

/-!
# Log entries

* `LogEvent` : something that happened, with what was going on around it;
* `LogSpan` : something that goes on for a while;
* `LogEntry` : an event, or the end of a span;
* `LogEntry.within` : entries with a span around them, and its end behind them.
-/

namespace FocusBilling

/-- The value of a field of an entry. -/
inductive LogValue where
  /-- A text that is shown as it is. -/
  | plain (s : String)
  /-- A text that is shown between quotes. -/
  | quoted (s : String)
  | number (n : Nat)
  deriving DecidableEq

/-- Fields and their values. -/
abbrev LogFields := List (String × LogValue)

/-- Something that goes on for a while. -/
structure LogSpan where
  /-- The name. -/
  name : String
  /-- The part of the program that it tells about. -/
  target : String
  /-- Its fields. -/
  fields : LogFields
  deriving DecidableEq

/-- Something that happened. -/
structure LogEvent where
  /-- How grave it is. -/
  level : LogLevel
  /-- The part of the program that it tells about. -/
  target : String
  /-- What happened. -/
  message : String
  /-- Its fields. -/
  fields : LogFields
  deriving DecidableEq

/-- One entry of a log. -/
inductive LogEntry where
  /-- Something that happened while spans were open, the outermost first. -/
  | event (spans : List LogSpan) (event : LogEvent)
  /-- The end of a span inside others, the outermost first. -/
  | closed (outer : List LogSpan) (span : LogSpan)
  deriving DecidableEq

namespace LogSpan

/-- The level of every span. -/
def level : LogLevel := .info

end LogSpan

namespace LogEntry

/-- An event outside all spans. -/
def ofEvent (e : LogEvent) : LogEntry := event [] e

/-- An entry inside one more span. -/
def inside (span : LogSpan) : LogEntry → LogEntry
  | event spans e => event (span :: spans) e
  | closed outer s => closed (span :: outer) s

/-- Entries with a span around them, and its end behind them. -/
def within (span : LogSpan) (entries : List LogEntry) : List LogEntry :=
  entries.map (inside span) ++ [closed [] span]

end LogEntry

end FocusBilling
