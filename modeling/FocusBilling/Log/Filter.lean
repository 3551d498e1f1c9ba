import FocusBilling.Log.Entry
import FocusBilling.Number.Decimal
import FocusBilling.Text.Blank
import FocusBilling.Text.Letter
import FocusBilling.Text.Regex.Reading

/-!
# Which log entries are shown

* `LogRule` : a limit for some entries, or for all entries inside some spans;
* `LogFilter.shows` : whether an entry is shown: where a span around it allows it, or else where the
  rule that says most about it does;
* `LogFilter.read?` : the filter that a text spells: rules with commas between them, each a level, a
  target, or a target, a span between brackets and a level behind an equals sign;
* `LogEntry.filtered` : an entry with the spans that are shown, if it is shown itself.
-/

namespace FocusBilling

/-- A field that an entry must have, perhaps with a value that matches a pattern. -/
structure LogFieldRule where
  /-- The name of the field. -/
  name : String
  /-- What its value must match. -/
  value : Option String
  deriving DecidableEq

/-- A limit for some entries.  A rule that names a span, or a value of a field, is about all that
happens inside such spans. -/
structure LogRule where
  /-- How the targets start; none: all targets. -/
  target : Option String
  /-- The name of the span. -/
  span : Option String
  /-- The fields that there must be. -/
  fields : List LogFieldRule
  /-- The limit. -/
  limit : LogLimit
  deriving DecidableEq

namespace LogFieldRule

/-- Whether a text reads as a truth value or a number; a text is never compared with these. -/
def isScalar (s : String) : Bool :=
  s = "true" || s = "false" || (Decimal.binary? .double s.toList).isSome

/-- Whether a text matches a pattern from start to end. -/
def matchesText (pattern s : String) : Bool :=
  (Regex.read? pattern).any fun r =>
    (Regex.seq (.at .textStart) (.seq r (.at .textEnd))).findsIn s

/-- Whether a value is the one that is asked for. -/
def accepts (r : LogFieldRule) (v : LogValue) : Bool :=
  match r.value with
  | none => true
  | some pattern =>
    match v with
    | .plain s | .quoted s => !isScalar pattern && matchesText pattern s
    | .number n => Text.digitsValue 10 pattern.toList = n && pattern.toList.all Text.isDigit

/-- Whether one of some fields has the name. -/
def isIn (r : LogFieldRule) (fields : LogFields) : Bool := fields.any fun f => f.1 == r.name

end LogFieldRule

namespace LogRule

/-- Whether a rule is about spans of a kind. -/
def isAboutSpans (r : LogRule) : Bool := r.span.isSome || !r.fields.isEmpty

/-- Whether a rule is about entries wherever they happen. -/
def isAboutEntries (r : LogRule) : Bool :=
  r.span.isNone && r.fields.all fun f => f.value.isNone

/-- Whether a rule names the start of a target. -/
def covers (r : LogRule) (target : String) : Bool :=
  match r.target with
  | some start => start.toList.isPrefixOf target.toList
  | none => true

/-- How much of a target a rule names. -/
def weight (r : LogRule) : Nat :=
  match r.target with
  | some start => start.length + 1
  | none => 0

/-- Whether a rule is about a span, whatever the values of its fields are. -/
def opens (r : LogRule) (s : LogSpan) : Bool :=
  r.isAboutSpans && r.covers s.target && r.span.all (· == s.name) &&
    r.fields.all fun f => f.isIn s.fields

/-- Whether the values of the fields of a span are those that a rule asks for. -/
def fits (r : LogRule) (s : LogSpan) : Bool :=
  r.fields.all fun f => s.fields.any fun (name, v) => name == f.name && f.accepts v

/-- Whether two rules are about the same entries. -/
def sameScope (a b : LogRule) : Bool :=
  a.target == b.target && a.span == b.span && a.fields == b.fields

/-- Whether a rule says less than another about the entries that both are about, or comes before it
in the alphabet. -/
def isBelow (a b : LogRule) : Bool :=
  let names (r : LogRule) : List String := r.fields.map (·.name)
  if a.weight ≠ b.weight then decide (a.weight < b.weight)
  else if a.fields.length ≠ b.fields.length then decide (a.fields.length < b.fields.length)
  else decide (names a < names b)

end LogRule

/-- Rules that give limits to entries. -/
abbrev LogFilter := List LogRule

namespace LogFilter

/-! ### Entries wherever they happen -/

/-- The rule that decides about entries of a target with some fields: the one that says most about
them, and of two about the same entries the later. -/
def deciding (f : LogFilter) (target : String) (fields : Option LogFields) : Option LogRule :=
  (f.filter fun r => r.isAboutEntries && r.covers target &&
      fields.all fun fs => r.fields.all fun x => x.isIn fs).foldl
    (fun best r =>
      match best with
      | some b => if r.isBelow b then some b else some r
      | none => some r) none

/-- Whether entries of a level are shown wherever they happen. -/
def showsAnywhere (f : LogFilter) (target : String) (fields : Option LogFields)
    (level : LogLevel) : Bool :=
  LogLimit.shows ((f.deciding target fields).bind (·.limit)) level

/-- Whether entries of a level about anything are shown. -/
def showsAny (f : LogFilter) (level : LogLevel) : Bool := f.any fun r => r.limit.shows level

/-! ### Spans -/

/-- The rules about a span, of those about the same spans the last. -/
def opening (f : LogFilter) (s : LogSpan) : List LogRule :=
  let rules := f.filter fun r => r.opens s
  rules.zipIdx.filterMap fun (r, i) =>
    if (rules.drop (i + 1)).any r.sameScope then none else some r

/-- The limits for what happens inside a span. -/
def limitsInside (f : LogFilter) (s : LogSpan) : List LogLimit :=
  ((f.opening s).filter fun r => r.fits s).map (·.limit)

/-- Whether an entry of a level is shown for the sake of a span around it. -/
def showsInside (f : LogFilter) (spans : List LogSpan) (level : LogLevel) : Bool :=
  spans.any fun s => (f.limitsInside s).any fun l => l.shows level

/-- Whether a span inside others is shown: where a rule is about it, or like any entry. -/
def showsSpan (f : LogFilter) (outer : List LogSpan) (s : LogSpan) : Bool :=
  !(f.opening s).isEmpty || f.showsAnywhere s.target none LogSpan.level ||
    f.showsInside outer LogSpan.level

/-- Whether an event inside spans is shown. -/
def shows (f : LogFilter) (spans : List LogSpan) (e : LogEvent) : Bool :=
  f.showsInside spans e.level ||
    f.showsAnywhere e.target (some (("message", .plain "") :: e.fields)) e.level

/-- The spans that are shown among some, each inside those before it. -/
def shownSpans (f : LogFilter) (outer : List LogSpan) : List LogSpan → List LogSpan
  | [] => []
  | s :: ss =>
    let rest := f.shownSpans (outer ++ [s]) ss
    if f.showsSpan outer s then s :: rest else rest

/-! ### Reading -/

/-- The characters with which a rule may start. -/
def mayStart (c : Char) : Bool :=
  ['-', ':', '_'].contains c || Text.isAlphabetic c || (Text.category c).toList.head? == some 'N'

/-- How far the text of a rule has been read, and where the part begins that is being read. -/
inductive Progress where
  | start
  | target (start : Nat)
  | span (start : Nat)
  | field (start : Nat)
  | fields
  | closed
  | limit (start : Nat)

/-- The part of a text between two places. -/
def slice (cs : List Char) (start stop : Nat) : String :=
  String.ofList ((cs.drop start).take (stop - start))

/-- The field that a text asks for. -/
def readField? (s : String) : Option LogFieldRule :=
  match Text.splitOn '=' s.toList with
  | [] | [[]] => none
  | [name] => some ⟨String.ofList name, none⟩
  | name :: value :: _ =>
    let value := String.ofList value
    if LogFieldRule.isScalar value || (Regex.read? value).isSome then
      some ⟨String.ofList name, some value⟩
    else none

/-- One more character of a rule, at a place; places are counted in the text without the blanks
around it, but looked up in the text with them. -/
def readChar (cs : List Char) (r : LogRule) (p : Progress) (c : Char) (i : Nat) :
    Option (LogRule × Progress) :=
  match p, c with
  | .start, '[' => some (r, .span (i + 1))
  | .start, c => if mayStart c then some (r, .target i) else none
  | .target a, '=' => some ({ r with target := some (slice cs a i) }, .limit (i + 1))
  | .target a, '[' => some ({ r with target := some (slice cs a i) }, .span (i + 1))
  | .target a, _ => some (r, .target a)
  | .span a, ']' => some ({ r with span := some (slice cs a i) }, .closed)
  | .span a, '\x7b' =>
    let name := slice cs a i
    some ({ r with span := if name = "" then none else some name }, .field (i + 1))
  | .span a, _ => some (r, .span a)
  | .field a, '\x7d' =>
    (readField? (slice cs a i)).map fun f => ({ r with fields := r.fields ++ [f] }, .fields)
  | .field a, _ => some (r, .field a)
  | .fields, ']' => some (r, .closed)
  | .closed, '=' => some (r, .limit (i + 1))
  | .limit a, _ => some (r, .limit a)
  | _, _ => none

/-- The rule that a text spells. -/
def readRule? (s : String) : Option LogRule := do
  let cs := s.toList
  let blank : LogRule := ⟨none, none, [], some .trace⟩
  let (r, p) ← (Text.trimChars cs).zipIdx.foldlM
    (fun (r, p) (c, i) => readChar cs r p c i) (blank, Progress.start)
  match p with
  | .target a =>
    let text := String.ofList (cs.drop a)
    match LogLimit.read? text with
    | some limit => pure { r with limit }
    | none => pure { r with target := some text }
  | .limit a =>
    let text := String.ofList (cs.drop a)
    if text = "" then pure r else pure { r with limit := ← LogLimit.read? text }
  | .closed => pure r
  | _ => none

/-- The filter that a text spells; the empty text shows errors. -/
def read? (s : String) : Option LogFilter :=
  let pieces := (Text.splitOn ',' s.toList).filter fun p => !p.isEmpty
  if pieces.isEmpty then some [⟨none, none, [], some .error⟩]
  else pieces.mapM fun p => readRule? (String.ofList p)

/-- The targets that tell about the work of this program. -/
def ownTargets : List String :=
  ["focus_cli", "focus_ingest", "focus_model", "focus_output", "focus_transform"]

/-- The filter that shows the entries of this program up to a limit, and warnings of everything
else. -/
def ofLimit (limit : LogLimit) : LogFilter :=
  ⟨none, none, [], some .warn⟩ :: ownTargets.map fun t => ⟨some t, none, [], limit⟩

end LogFilter

namespace LogEntry

/-- An entry with the spans that a filter lets be seen, if it is shown itself. -/
def filtered (filter : LogFilter) : LogEntry → Option LogEntry
  | event spans e =>
    if filter.shows spans e then some (event (filter.shownSpans [] spans) e) else none
  | closed outer s =>
    if filter.showsSpan outer s then some (closed (filter.shownSpans [] outer) s) else none

end LogEntry

end FocusBilling
