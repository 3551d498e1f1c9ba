/-!
# Lines, fields and records

The grammar of separated values: fields end at commas and line ends; a field that starts with a
quote ends outside of quotes.

* `Csv.lines` : the lines of a text, where a line end between quotes is none;
* `Csv.takeField` : the field at the start of a text, and what follows it;
* `Csv.takeRecord` : the fields of the next record, as many as there are columns;
* `Csv.records` : all records.
-/

namespace FocusBilling.Csv

/-! ### Lines -/

/-- The lines of a text, from inside or outside of quotes; the end of the last line may be
missing. -/
def linesFrom (inside : Bool) : List Char → List (List Char)
  | [] => []
  | c :: cs =>
    if c = '\n' && !inside then [] :: linesFrom false cs
    else
      match linesFrom (if c = '"' then !inside else inside) cs with
      | [] => [[c]]
      | l :: ls => (c :: l) :: ls

/-- The lines of a text. -/
def lines (cs : List Char) : List (List Char) := linesFrom false cs

/-- What follows the first line of a text; none where the line does not end. -/
def afterLineFrom (inside : Bool) : List Char → Option (List Char)
  | [] => none
  | c :: cs =>
    if c = '\n' && !inside then some cs
    else afterLineFrom (if c = '"' then !inside else inside) cs

/-- What follows the first line of a text; none where the line does not end. -/
def afterLine? (cs : List Char) : Option (List Char) := afterLineFrom false cs

/-- The pieces of a text that end with its lines. -/
def piecesFrom (inside : Bool) : List Char → List (List Char)
  | [] => []
  | c :: cs =>
    if c = '\n' && !inside then [c] :: piecesFrom false cs
    else
      match piecesFrom (if c = '"' then !inside else inside) cs with
      | [] => [[c]]
      | l :: ls => (c :: l) :: ls

/-- A text without the line ends at its start. -/
def skipLineEnds (cs : List Char) : List Char := cs.dropWhile fun c => c = '\n' || c = '\r'

/-- A text without a carriage return at its end. -/
def withoutReturn (cs : List Char) : List Char :=
  if cs.getLast? == some '\r' then cs.dropLast else cs

/-! ### Fields -/

/-- A field as it is written. -/
structure Field where
  /-- Its characters, quotes included. -/
  raw : List Char
  /-- Whether it starts with a quote. -/
  quoted : Bool

/-- Whether a character ends a field. -/
def endsField (c : Char) : Bool := c = ',' || c = '\n'

/-- The characters up to the end of a field that started with a quote. -/
def spanQuoted (inside : Bool) : List Char → List Char × List Char
  | [] => ([], [])
  | c :: cs =>
    let inside := if c = '"' then !inside else inside
    if !inside && endsField c then ([], c :: cs)
    else
      let (field, rest) := spanQuoted inside cs
      (c :: field, rest)

/-- The field at the start of a text, and the text from its end on. -/
def takeField (cs : List Char) : Field × List Char :=
  if cs.head? == some '"' then
    let (field, rest) := spanQuoted false cs
    (⟨field, true⟩, rest)
  else (⟨cs.takeWhile fun c => !endsField c, false⟩, cs.dropWhile fun c => !endsField c)

namespace Field

/-- A field without a carriage return at its end. -/
def trimmed (f : Field) : Field := { f with raw := withoutReturn f.raw }

/-- The characters between the quotes of a quoted field; otherwise all of them. -/
def inner (f : Field) : List Char :=
  if f.quoted && 2 ≤ f.raw.length then (f.raw.drop 1).dropLast else f.raw

/-- Quotes of a quoted field: of two in a row one is kept, and a lone one is dropped. -/
def unescape (afterQuote : Bool) : List Char → List Char
  | [] => []
  | c :: cs =>
    if c = '"' then (if afterQuote then c :: unescape false cs else unescape true cs)
    else c :: unescape false cs

/-- The text of a field; none where a quoted field does not end with its quote. -/
def text? (f : Field) : Option (List Char) :=
  if !f.quoted then some f.raw
  else if f.raw.length < 2 || f.raw.getLast? != some '"' then none
  else some (unescape false ((f.raw.drop 1).dropLast))

end Field

/-- The fields of one line. -/
def fieldsWithin : Nat → List Char → List Field
  | 0, _ => []
  | n + 1, cs =>
    match takeField cs with
    | (f, ',' :: rest) => f :: fieldsWithin n rest
    | (f, _) => [f]

/-- The fields of one line. -/
def fields (line : List Char) : List Field := fieldsWithin (line.length + 1) line

/-! ### Records -/

/-- The fields of the next record, as many as there are columns or less, and the text behind it;
none where it has too many. -/
def takeRecord : Nat → List Char → Option (List Field × List Char)
  | 0, cs => some ([], cs)
  | n + 1, cs =>
    match takeField cs with
    | (f, '\n' :: rest) => some ([f], rest)
    | (f, _ :: rest) =>
      if n = 0 then (if rest.isEmpty then some ([f], []) else none)
      else (takeRecord n rest).map fun (fs, rest) => (f :: fs, rest)
    | (f, []) => some ([f], [])

/-- The records of a text, at most so many. -/
def recordsWithin (columns : Nat) : Nat → List Char → Option (List (List Field))
  | 0, _ => some []
  | fuel + 1, cs =>
    if cs.isEmpty then some []
    else do
      let (r, rest) ← takeRecord columns cs
      pure (r :: (← recordsWithin columns fuel rest))

/-- The records of a text; an empty line is a record of one empty field. -/
def records (columns : Nat) (cs : List Char) : Option (List (List Field)) :=
  recordsWithin columns (cs.length + 1) cs

end FocusBilling.Csv
