import FocusBilling.Csv.Schema

/-!
# Reading separated values

A text is read in chunks of whole lines.

* `Csv.chunks` : the chunks of the rows of a text;
* `Csv.frame?` : the frame of a chunk, if every value fits the type of its column;
* `Csv.read` : the frames of all chunks, in order.
-/

namespace FocusBilling.Csv

open Text

/-! ### Values -/

/-- Digits with an optional sign, as a number of 64 bits. -/
def readInt (cs : List Char) : Option Cell :=
  ((Decimal.integer? cs).filter IntType.i64.fits).map .int

/-- A floating-point number. -/
def readFloat (cs : List Char) : Option Cell := (Decimal.binary? .double cs).map .float

/-- A number; blanks in front are skipped where nothing else can be read. -/
def readNumber (read : List Char → Option Cell) (f : Field) : Option Cell :=
  let cs := f.inner
  if cs.isEmpty then some .null
  else
    match read cs with
    | some c => some c
    | none =>
      if cs.head? == some ' ' || cs.head? == some '\t' then
        let rest := cs.dropWhile fun c => c = ' ' || c = '\t'
        if rest.isEmpty then some .null else read rest
      else none

/-- A truth value. -/
def readBool (f : Field) : Option Cell :=
  let word := lower (String.ofList f.inner)
  if word = "true" then some (.bool true)
  else if word = "false" then some (.bool false)
  else if word.isEmpty then some .null
  else none

/-- The value of a field in a column of a type; nothing between two commas is a missing value. -/
def readCell (t : DType) (f : Field) : Option Cell :=
  let f := f.trimmed
  if f.raw.isEmpty then some .null
  else
    match t with
    | .bool => readBool f
    | .float64 => readNumber readFloat f
    | .int _ => readNumber readInt f
    | _ => f.text?.map fun cs => .text (String.ofList cs)

/-- The values of a record, with missing values where it is too short. -/
def readRow : List (String × DType) → List Field → Option (List Cell)
  | [], _ => some []
  | _ :: columns, [] => (readRow columns []).map (Cell.null :: ·)
  | (_, t) :: columns, f :: fs => do
    let c ← readCell t f
    pure (c :: (← readRow columns fs))

/-! ### Chunks -/

/-- The size that a chunk may have, in bytes. -/
def chunkSize : Nat := 4096

/-- The size of a text in bytes. -/
def byteSize (cs : List Char) : Nat := (cs.map Char.utf8Size).sum

/-- A size doubled until something fits. -/
def grown (size need : Nat) : Nat := size * Nat.nextPowerOfTwo ((need + size - 1) / size)

/-- Pieces gathered into chunks, behind a chunk that is being filled; a piece that is too large
raises the size for good. -/
def gather (size : Nat) (current : List Char) : List (List Char) → List (List Char)
  | [] => if current.isEmpty then [] else [current]
  | p :: ps =>
    if current.isEmpty then gather (grown size (byteSize p)) p ps
    else if byteSize current + byteSize p ≤ size then gather size (current ++ p) ps
    else current :: gather (grown size (byteSize p)) p ps

/-- The chunks of a text of rows. -/
def chunks (rows : List Char) : List (List Char) := gather chunkSize [] (piecesFrom false rows)

/-- The frame of a chunk, if every value fits the type of its column. -/
def frame? (columns : List (String × DType)) (chunk : List Char) : Option Frame := do
  let rows ← (← records columns.length chunk).mapM (readRow columns)
  pure ⟨rows.length,
    columns.zipIdx.map fun ((n, t), i) => ⟨n, t, rows.map fun r => r.getD i .null⟩⟩

/-- The rows of a text, behind its header; none where the header does not end. -/
def body? (columns : List (String × DType)) (text : List Char) : Option (List Char) :=
  let text := withoutMark text
  afterLine? (if columns.length > 1 then skipLineEnds text else text)

/-- The frames of all chunks, in order; none for a chunk that cannot be read. -/
def read (columns : List (String × DType)) (text : List Char) : List (Option Frame) :=
  (chunks ((body? columns text).getD [])).map (frame? columns)

end FocusBilling.Csv
