import FocusBilling.Document.Json
import FocusBilling.Log.Filter
import FocusBilling.Text.Hidden

/-!
# Writing log entries

* `LogFormat` : on one line for people, shorter, or as JSON;
* `LogStyle.lines` : entries as lines, those left out that a filter does not show.

The end of a span is told in JSON only.
-/

namespace FocusBilling

/-- How entries are written. -/
inductive LogFormat where
  | pretty
  | compact
  | json
  deriving DecidableEq

/-- A format, with or without colours. -/
structure LogStyle where
  /-- The format. -/
  format : LogFormat
  /-- Whether lines for people have colours. -/
  colored : Bool

namespace LogLevel

/-- The level in capitals, as wide as the longest. -/
def label (l : LogLevel) : String :=
  let s := Text.upper l.name
  String.ofList (List.replicate (5 - s.length) ' ') ++ s

/-- The number of the colour of a level. -/
def color : LogLevel → String
  | error => "31"
  | warn => "33"
  | info => "32"
  | debug => "34"
  | trace => "35"

end LogLevel

namespace LogValue

/-- A value for people. -/
def text : LogValue → String
  | plain s => s
  | quoted s => Text.quoted s
  | number n => toString n

/-- A value as a document. -/
def document : LogValue → Document
  | plain s => .text s
  | quoted s => .text s
  | number n => .int n

end LogValue

namespace LogStyle

/-- A text in a style of terminals, if there are colours. -/
def paint (st : LogStyle) (code s : String) : String :=
  if st.colored then "\x1b[" ++ code ++ "m" ++ s ++ "\x1b[0m" else s

/-- A text in bold letters. -/
def bold (st : LogStyle) (s : String) : String := st.paint "1" s

/-- A text that stands back. -/
def dim (st : LogStyle) (s : String) : String := st.paint "2" s

/-- A text in italics. -/
def italic (st : LogStyle) (s : String) : String := st.paint "3" s

/-- A field with its value. -/
def fieldText (st : LogStyle) (f : String × LogValue) : String :=
  st.italic f.1 ++ st.dim "=" ++ f.2.text

/-- Fields with blanks between them. -/
def fieldsText (st : LogStyle) (fs : LogFields) : String :=
  String.intercalate " " (fs.map st.fieldText)

/-- The message of an event and its fields. -/
def messageText (st : LogStyle) (e : LogEvent) : String :=
  String.join (e.message :: e.fields.map fun f => " " ++ st.fieldText f)

/-- A span with its fields, and a colon. -/
def spanText (st : LogStyle) (s : LogSpan) : String :=
  let fields := if s.fields.isEmpty then ""
    else st.bold "\x7b" ++ st.fieldsText s.fields ++ st.bold "\x7d"
  st.bold s.name ++ fields ++ st.dim ":"

/-- The name of a span, and a colon. -/
def spanName (st : LogStyle) (s : LogSpan) : String := st.bold s.name ++ ":"

/-- Texts with a blank behind the last, if there are any. -/
def lead (parts : List String) : String :=
  if parts.isEmpty then "" else String.join parts ++ " "

/-- An event on one line. -/
def prettyLine (st : LogStyle) (spans : List LogSpan) (e : LogEvent) : String :=
  st.paint e.level.color e.level.label ++ " " ++ lead (spans.map st.spanText) ++ st.messageText e

/-- An event on a shorter line. -/
def compactLine (st : LogStyle) (spans : List LogSpan) (e : LogEvent) : String :=
  st.paint e.level.color e.level.label ++ " " ++ lead (spans.map st.spanName) ++
    st.messageText e ++ String.join (spans.filterMap fun s =>
      if s.fields.isEmpty then none else some (" " ++ st.dim (st.fieldsText s.fields)))

/-- Fields as a document. -/
def fieldsDocument (fs : LogFields) : List (String × Document) :=
  fs.map fun (name, v) => (name, v.document)

/-- A span as a document. -/
def spanDocument (s : LogSpan) : Document :=
  .entries (("name", .text s.name) :: fieldsDocument s.fields)

/-- An entry as a document. -/
def jsonEntry (level : LogLevel) (message : String) (fields : LogFields) (span : Option LogSpan)
    (spans : List LogSpan) : Document :=
  let around := match span with
    | some s => [("span", spanDocument s), ("spans", .list (spans.map spanDocument))]
    | none => []
  .entries ([("level", .text (Text.upper level.name)),
    ("fields", .entries (("message", .text message) :: fieldsDocument fields))] ++ around)

/-- An entry as a line, if the format tells it. -/
def line? (st : LogStyle) : LogEntry → Option String
  | .event spans e =>
    match st.format with
    | .pretty => some (st.prettyLine spans e)
    | .compact => some (st.compactLine spans e)
    | .json => some (Json.compact (jsonEntry e.level e.message e.fields spans.getLast? spans))
  | .closed outer s =>
    match st.format with
    | .json => some (Json.compact (jsonEntry LogSpan.level "close" [] (some s) outer))
    | .pretty | .compact => none

/-- Entries as lines, those left out that a filter does not show. -/
def lines (st : LogStyle) (filter : LogFilter) (entries : List LogEntry) : List String :=
  entries.filterMap fun e => (e.filtered filter).bind st.line?

end LogStyle

end FocusBilling
