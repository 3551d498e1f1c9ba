import FocusBilling.Task.Convert

/-!
# The summary of a conversion

* `Summary.table` : cells in a frame of lines, under their headings;
* `Summary.text` : what is printed when a conversion has succeeded.
-/

namespace FocusBilling.Summary

/-- Where a text stands in its column. -/
inductive Alignment where
  | left
  | center
  | right
  deriving DecidableEq

/-- So many blanks. -/
def blanks (n : Nat) : String := String.ofList (List.replicate n ' ')

/-- A text brought to a width; in the middle the odd blank comes first. -/
def aligned (a : Alignment) (width : Nat) (s : String) : String :=
  let room := width - s.length
  match a with
  | .left => s ++ blanks room
  | .center => blanks (room - room / 2) ++ s ++ blanks (room / 2)
  | .right => blanks room ++ s

/-- A line of cells. -/
def cellLine (columns : List (Alignment × Nat)) (cells : List String) : String :=
  "│" ++ String.intercalate "│" ((columns.zip cells).map fun ((a, width), s) =>
    " " ++ aligned a width s ++ " ") ++ "│\n"

/-- A line between cells. -/
def ruleLine (columns : List (Alignment × Nat)) (left fill cross right : String) : String :=
  left ++ String.intercalate cross (columns.map fun (_, width) =>
    String.join (List.replicate (width + 2) fill)) ++ right ++ "\n"

/-- The width of the widest of some texts. -/
def widest (texts : List String) : Nat := (texts.map String.length).foldl max 0

/-- Cells in a frame of lines, under their headings. -/
def table (headings : List (Alignment × String)) (rows : List (List String)) : String :=
  let columns := headings.zipIdx.map fun ((a, heading), i) =>
    (a, widest (heading :: rows.map fun r => r.getD i ""))
  ruleLine columns "╭" "─" "┬" "╮" ++ cellLine columns (headings.map (·.2)) ++
    ruleLine columns "╞" "═" "╪" "╡" ++
    String.intercalate (ruleLine columns "├" "─" "┼" "┤") (rows.map (cellLine columns)) ++
    ruleLine columns "╰" "─" "┴" "╯"

/-- The name of a segment and its format. -/
def segmentRow (path : String) : List String :=
  [((Path.fileName? path).map String.ofList).getD path, (Path.extension? path).getD "-"]

/-- The segments of a conversion. -/
def segmentRows (segments : List String) : List (List String) :=
  if segments.isEmpty then [["no rows converted", "-"]] else segments.map segmentRow

/-- What is printed when a conversion has succeeded, given the time it took. -/
def text (o : ConversionOutcome) (elapsed : String) : String :=
  "Provider: " ++ o.summary.provider ++ "\nOutput: " ++ o.folder ++ "\n" ++
    table [(.left, "Segment"), (.center, "Format")] (segmentRows o.segments) ++
    table [(.right, "Batches"), (.right, "Rows"), (.right, "Elapsed")]
      [[toString o.summary.batches, toString o.summary.rows, elapsed]]

end FocusBilling.Summary
