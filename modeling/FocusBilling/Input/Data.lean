import FocusBilling.Csv.Chunk
import FocusBilling.Files.Pattern
import FocusBilling.Input.Batches
import FocusBilling.Input.Error

/-!
# Billing data

* `DataFormat.ofPath?` : the format of data, from what is at its path;
* `LoadOptions.size` : the size of batches, whatever size is asked for;
* `DataSource.locate` : data at a path, which must exist;
* `DataSource.scan`, `DataSource.batches` : all rows at once, and batch by batch.

Tables are read from whatever files are like a path, which is then a pattern; only the batches of
separated values are read from the file at the path itself.
-/

namespace FocusBilling

open Files (Node Content)

/-- The format of data. -/
inductive DataFormat where
  | csv
  | parquet
  deriving DecidableEq

namespace DataFormat

/-- The name of a format. -/
def name : DataFormat → String
  | csv => "csv"
  | parquet => "parquet"

/-- The format that the name of a file tells by its extension, in any case. -/
def ofExtension? (path : String) : Option DataFormat :=
  match (Path.extension? path).map Text.lower with
  | some "csv" => some csv
  | some "parquet" => some parquet
  | _ => none

/-- The format of the data at a path; a folder holds Parquet files. -/
def ofPath? (root : Node) (path : String) : Option DataFormat :=
  if root.hasFolder path then some parquet else ofExtension? path

end DataFormat

/-- How Parquet files are laid out. -/
inductive ParquetLayout where
  /-- One file. -/
  | file
  /-- The files below a folder. -/
  | dataset
  deriving DecidableEq

/-- How data are loaded. -/
structure LoadOptions where
  /-- The number of rows of a batch that is asked for. -/
  batchSize : Nat := 500000
  /-- How many rows of separated values decide on the types of columns; none: all. -/
  inferRows : Option Nat := some 10000
  /-- How Parquet files are laid out. -/
  layout : ParquetLayout := .file

namespace LoadOptions

/-- The largest number of rows of a batch. -/
def maxSize : Nat := 2 ^ 32 - 1

/-- A size brought into range. -/
def clamp (n : Nat) : Nat := max 1 (min n maxSize)

/-- Options with a number of rows of a batch. -/
def withBatchSize (o : LoadOptions) (n : Nat) : LoadOptions := { o with batchSize := clamp n }

/-- The number of rows of a batch, whatever number is asked for. -/
def size (o : LoadOptions) : Nat := clamp o.batchSize

end LoadOptions

/-- Data at a path. -/
structure DataSource where
  /-- The path. -/
  path : String
  /-- The format. -/
  format : DataFormat
  /-- How they are loaded. -/
  options : LoadOptions

namespace DataSource

/-- Data at a path, which must exist; unless a format is given the path tells it. -/
def locate (root : Node) (path : String) (format : Option DataFormat) (options : LoadOptions) :
    Except InputError DataSource :=
  match format <|> DataFormat.ofPath? root path with
  | none => .error (.formatUnknown path)
  | some format =>
    if root.has path then .ok ⟨path, format, options⟩ else .error (.dataNotFound path)

/-! ### Separated values -/

/-- The text of the file, without a byte order mark. -/
def text? (root : Node) (s : DataSource) : Option (List Char) :=
  (root.readText s.path).toOption.map String.toList

/-- The chunks of separated values, one at a time; none for a chunk that cannot be read. -/
def chunks? (root : Node) (s : DataSource) : Option (List (Except InputError (List Frame))) := do
  let text ← s.text? root
  let columns ← Csv.schema? s.options.inferRows text
  pure ((Csv.read columns text).map fun f =>
    match f with
    | some f => .ok [f]
    | none => .error .tableUnreadable)

/-- The text of which all rows are read.  A path with signs stands for the files that are like it,
here for one. -/
def scannedText? (root : Node) (s : DataSource) : Option (List Char) :=
  if s.path.toList.any Files.Place.isSign then
    match root.filesLike? s.path with
    | some [.text text] => some text.toList
    | _ => none
  else s.text? root

/-- All rows of separated values. -/
def scanCsv (root : Node) (s : DataSource) : Option Frame := do
  let text ← s.scannedText? root
  let columns ← Csv.schema? s.options.inferRows text
  if (Csv.body? columns text).isNone then failure
  else pure (.stack columns (← (Csv.read columns text).mapM id))

/-! ### Parquet files -/

/-- The contents of the files that a path stands for.  Those below a folder are the ones that a
pattern stands for, which begins with the path as it is written.  Of a folder that is taken as one
file, all files count, those of its own first; they must have one extension. -/
def contents (root : Node) (s : DataSource) : Option (List Content) :=
  match s.options.layout, root.find s.path with
  | .dataset, _ => root.filesLike? (Path.join (Path.join s.path "**") "*.parquet")
  | .file, .ok (.file c) =>
    if s.path.toList.any Files.Place.isSign then root.filesLike? s.path else some [c]
  | .file, .ok n =>
    let files := (n.sortedFiles.filter fun (_, c) => !c.isEmpty).mergeSort fun a b =>
      a.1.length ≤ b.1.length
    let extensions := files.map fun (names, _) => names.getLast?.bind Path.extension?
    if extensions.eraseDups.length ≤ 1 then some (files.map (·.2)) else none
  | .file, .error _ => none

/-- The frame in a file, if it holds one. -/
def frameOf? : Content → Option Frame
  | .table f => some f
  | _ => none

/-- The frames of the files that a path stands for, at least one. -/
def frames? (root : Node) (s : DataSource) : Option (Frame × List Frame) := do
  match ← (← s.contents root).mapM frameOf? with
  | [] => failure
  | f :: fs => pure (f, fs)

/-- The rows of frames one below the other, from one position on, at most so many.  The first
frame gives the columns; a frame with others spoils the rows, if any of its own are among
them. -/
def cut (first : Frame) (frames : List Frame) (start count : Nat) : Table :=
  let columns := first.schema
  let parts := frames.foldl (fun (acc, offset) f =>
    let first := start - offset
    let t := (Table.conformed columns f).slice first (start + count - offset - first)
    (if t.height = 0 then acc else acc ++ [t], offset + f.height))
    (([] : List Table), 0)
  parts.1.foldl Table.append (Frame.empty columns).toTable

/-- All rows of Parquet files. -/
def scanParquet (root : Node) (s : DataSource) : Option Frame := do
  let (f, fs) ← s.frames? root
  let parts := (f :: fs).map (Table.conformed f.schema)
  ((parts.foldl Table.append (Frame.empty f.schema).toTable).collect).toOption

/-! ### Both -/

/-- Whether the first batch can be asked for: there is a table, whatever its rows are. -/
def opens (root : Node) (s : DataSource) : Bool :=
  match s.format with
  | .csv => ((s.text? root).bind (Csv.schema? s.options.inferRows)).isSome
  | .parquet => (s.frames? root).isSome

/-- All rows. -/
def scan (root : Node) (s : DataSource) : Option Frame :=
  match s.format with
  | .csv => s.scanCsv root
  | .parquet => s.scanParquet root

/-- The place that a signed position names among so many rows; below zero it counts from the
end. -/
def placeOf (rows : Nat) (position : Int64) : Nat :=
  if position.toInt < 0 then rows - position.toInt.natAbs else position.toInt.toNat

/-- The batches of rows, before the first. -/
def reader (root : Node) (s : DataSource) : BatchReader InputError :=
  match s.format with
  | .csv =>
    match s.chunks? root with
    | some deliveries => .ofChunks s.options.size deliveries
    | none => .start s.options.size (.error .tableUnreadable)
  | .parquet =>
    match s.frames? root with
    | some (f, fs) =>
      let rows := ((f :: fs).map Frame.height).sum
      -- rows are counted in 32 bits
      if LoadOptions.maxSize < rows then .start s.options.size (.error .tableUnreadable)
      else
        .ofTable s.options.size
          (fun position count => cut f (f :: fs) (placeOf rows position) count.toNat)
          (UInt64.ofNat rows)
    | none => .start s.options.size (.error .tableUnreadable)

/-- The batches of rows, in order, with a failure at most at the end. -/
def batches (root : Node) (s : DataSource) : List (Except InputError Table) := (s.reader root).all

end DataSource

end FocusBilling
