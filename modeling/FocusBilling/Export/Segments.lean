import FocusBilling.Batch.Convert
import FocusBilling.Csv.Written
import FocusBilling.Files.Tree
import FocusBilling.Input.Data

/-!
# Segments

Each batch goes to a file of its own, a segment, and the segments of one export are numbered.

* `SegmentExport` : an export that is going on, with the files as they are;
* `SegmentExport.start` : an export into a folder, which is made where it is missing;
* `SegmentExport.write` : one more batch as the next segment;
* `SegmentExport.finish` : no more segments;
* `SegmentExport.exporter` : an export as a place where converted batches go.
-/

namespace FocusBilling

open Files (Node Fault Content)

/-- Why batches cannot be exported. -/
inductive ExportError where
  | folderNotMade (path : String) (fault : Fault)
  | fileNotMade (path : String) (fault : Fault)
  /-- A frame that has no form in the format of the segments. -/
  | notWritten (path : String)
  /-- A batch that cannot be computed. -/
  | frame (error : FrameError)
  | closed
  deriving DecidableEq

namespace ExportError

/-- The text of an error; where the writer of a format has more to say, the text ends before
it. -/
def message : ExportError → String
  | folderNotMade path fault =>
    "failed to create export directory " ++ path ++ ": " ++ fault.message
  | fileNotMade path fault => "failed to create segment file " ++ path ++ ": " ++ fault.message
  | notWritten path => "failed to write segment " ++ path
  | frame _ => "DataFrame operation failed"
  | closed => "exporter already closed"

/-- The texts of what lies below an error. -/
def causes : ExportError → List String
  | folderNotMade _ fault | fileNotMade _ fault => [fault.message]
  | _ => []

end ExportError

/-- How batches are exported. -/
structure ExportOptions where
  /-- The format of the segments. -/
  format : DataFormat := .parquet
  /-- Whether all columns of a batch are kept. -/
  keepSources : Bool := true
  /-- Columns that are kept where not all are. -/
  passthrough : List String := []

/-- A segment that has been written. -/
structure Segment where
  /-- The path of its file. -/
  path : String
  /-- The number of rows. -/
  rows : Nat
  /-- The number of columns. -/
  columns : Nat
  deriving DecidableEq

/-- An export that is going on. -/
structure SegmentExport where
  /-- All files. -/
  root : Node
  /-- The folder of the segments. -/
  folder : String
  /-- How batches are exported. -/
  options : ExportOptions
  /-- The segments that have been written, in order. -/
  written : List Segment := []
  /-- Whether the export has ended. -/
  closed : Bool := false

namespace SegmentExport

/-- An export into a folder, which is made where it is missing. -/
def start (root : Node) (folder : String) (options : ExportOptions) :
    Except ExportError SegmentExport :=
  -- the path that names nothing stands for the place where everything starts
  if folder.isEmpty then .ok { root, folder, options }
  else
    match root.makeFolders folder with
    | .ok root => .ok { root, folder, options }
    | .error fault => .error (.folderNotMade folder fault)

/-- The number of rows that have been written. -/
def rows (x : SegmentExport) : Nat := (x.written.map Segment.rows).sum

/-- The paths of the segments that have been written, in order. -/
def files (x : SegmentExport) : List String := x.written.map Segment.path

/-- The name of the segment with a number. -/
def segmentName (format : DataFormat) (number : Nat) : String :=
  "segment_" ++ Text.padded 5 number ++ "." ++ format.name

/-- The path of the next segment. -/
def nextPath (x : SegmentExport) : String :=
  Path.join x.folder (segmentName x.options.format x.written.length)

/-- The columns of a segment: the targets, then the columns of the batch or those that are kept
anyway; each once, where it comes first. -/
def projection (o : ExportOptions) (targets columns : List String) : List String :=
  (targets ++ if o.keepSources then columns else o.passthrough).foldl CompiledPlan.addOnce []

/-- The content of a segment. -/
def contentOf (format : DataFormat) (f : Frame) : Content :=
  match format with
  | .parquet => .table f
  | .csv => .text (Csv.write f)

/-- Whether a frame has a form in a format. -/
def writable (format : DataFormat) (f : Frame) : Bool :=
  match format with
  | .parquet => true
  | .csv => Csv.writable f

/-- The frame that a batch contributes. -/
def evaluate (x : SegmentExport) (t : Table) (targets : List String) : Except FrameError Frame := do
  (← t.select (projection x.options targets t.names)).collect

/-- One more batch as the next segment; the answer is its number of rows. -/
def write (x : SegmentExport) (t : Table) (targets : List String) :
    Except ExportError Nat × SegmentExport :=
  if x.closed then (.error .closed, x)
  else
    match x.evaluate t targets with
    | .error e => (.error (.frame e), x)
    | .ok f =>
      match x.root.write x.nextPath (contentOf x.options.format f) with
      | .error fault => (.error (.fileNotMade x.nextPath fault), x)
      | .ok root =>
        if writable x.options.format f then
          (.ok f.height,
            { x with root, written := x.written ++ [⟨x.nextPath, f.height, f.columns.length⟩] })
        else (.error (.notWritten x.nextPath), { x with root })

/-- No more segments. -/
def finish (x : SegmentExport) : SegmentExport := { x with closed := true }

/-- An error of an export while batches are converted. -/
def convertError {σ : Type} : ExportError → ConvertError σ ExportError
  | .frame e => .apply (.ofFrame e)
  | e => .exporting e

/-- An export as a place where converted batches go. -/
def exporter {σ : Type} : Exporter SegmentExport σ ExportError where
  collect batch x :=
    let (answer, x) := x.write batch.table batch.targetColumns
    (answer.mapError convertError, x)
  close x := (.ok (), x.finish)

end SegmentExport

end FocusBilling
