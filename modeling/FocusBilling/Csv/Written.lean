import FocusBilling.Frame.Cast
import FocusBilling.Frame.Table

/-!
# Writing separated values

* `Csv.quoteField` : a text as a field, between quotes where it would be misread;
* `Csv.write` : the names and the rows of a frame, one line each;
* `Csv.writable` : whether every column has values that one field can hold.
-/

namespace FocusBilling.Csv

/-- Whether a character can stand in a field only between quotes. -/
def needsQuotes (c : Char) : Bool := c = ',' || c = '"' || c = '\n' || c = '\r'

/-- A text as a field, between quotes where it would be misread; an empty one would look like a
missing value. -/
def quoteField (s : String) : String :=
  if s.isEmpty || s.toList.any needsQuotes then
    "\"" ++ Text.replaceChar '"' "\"\"" s ++ "\""
  else s

/-- A cell as a field. -/
def writeCell (t : DType) (c : Cell) : String :=
  match t, c with
  | .text, .text s => quoteField s
  | .datetime u z, .int n => Written.datetime Written.fileStyle u z n
  | _, _ => (c.text? t).getD ""

/-- Fields as a line. -/
def line (fields : List String) : String := String.intercalate "," fields ++ "\n"

/-- The line of names. -/
def headerLine (f : Frame) : String := line (f.columns.map fun c => quoteField c.name)

/-- The line of a row. -/
def rowLine (f : Frame) (i : Nat) : String :=
  line (f.columns.map fun c => writeCell c.dtype (c.cells.getD i .null))

/-- Whether a column has values that one field can hold. -/
def isFlat : DType → Bool
  | .struct _ => false
  | _ => true

/-- Whether every column has values that one field can hold. -/
def writable (f : Frame) : Bool := f.columns.all fun c => isFlat c.dtype

/-- The names and the rows of a frame, one line each; where a column has other values, the names
alone. -/
def write (f : Frame) : String :=
  headerLine f ++
    if writable f then String.join ((List.range f.height).map (rowLine f)) else ""

end FocusBilling.Csv
