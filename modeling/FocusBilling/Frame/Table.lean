import FocusBilling.Frame.DType
import FocusBilling.Text.Regex.Reading

/-!
# Tables

* `Frame` : a table whose cells are at hand;
* `Table` : a table whose cells are computed when they are asked for, column by column: a column
  that cannot be computed does no harm as long as nobody asks for it;
* `Table.collect` : the frame of a table, if every column can be computed;
* `Table.putAll` : columns put over columns of the same names, or behind the others;
* `Table.matching` : the columns that a name stands for; a name that starts with `^` and ends with
  `$` is a regular expression, and `*` stands for all.
-/

namespace FocusBilling

/-- Why a table or one of its columns cannot be computed. -/
inductive FrameError where
  | missingColumn (name : String)
  | duplicateColumn (name : String)
  /-- A name that looks like a regular expression and is none. -/
  | badPattern (name : String)
  /-- Something is done with values of a type for which it is not defined. -/
  | wrongType
  /-- No type can be told for an expression. -/
  | untyped
  /-- A value has no counterpart in the type that is asked for. -/
  | unreadable
  /-- A pattern for datetimes that gives an hour without its minute, or the like. -/
  | badFormat
  /-- No known layout fits any of the texts. -/
  | unknownLayout
  /-- Clocks show the time twice. -/
  | repeatedTime
  /-- Clocks never show the time. -/
  | skippedTime
  deriving DecidableEq

/-- A column whose cells are at hand. -/
structure Column where
  /-- The name. -/
  name : String
  /-- The type. -/
  dtype : DType
  /-- The cells. -/
  cells : List Cell
  deriving Inhabited

/-- A table whose cells are at hand. -/
structure Frame where
  /-- The number of rows. -/
  height : Nat
  /-- The columns, in order. -/
  columns : List Column

/-- Cells of one type that are computed when they are asked for. -/
structure Deferred where
  /-- The type. -/
  dtype : DType
  /-- The cells, or why there are none. -/
  cells : Except FrameError (List Cell)

/-- A table whose cells are computed when they are asked for. -/
structure Table where
  /-- The number of rows. -/
  height : Nat
  /-- The columns and their names, in order. -/
  columns : List (String × Deferred)

namespace Frame

/-- The table of a frame. -/
def toTable (f : Frame) : Table :=
  ⟨f.height, f.columns.map fun c => (c.name, ⟨c.dtype, .ok c.cells⟩)⟩

/-- The names of the columns. -/
def names (f : Frame) : List String := f.columns.map (·.name)

/-- The rows from one position on, at most so many. -/
def slice (f : Frame) (start count : Nat) : Frame :=
  ⟨min count (f.height - start),
    f.columns.map fun c => { c with cells := (c.cells.drop start).take count }⟩

end Frame

namespace Table

/-- The names of the columns. -/
def names (t : Table) : List String := t.columns.map (·.1)

/-- Whether there is a column of a name. -/
def hasColumn (t : Table) (name : String) : Bool := t.names.contains name

/-- The column of a name. -/
def find? (t : Table) (name : String) : Option Deferred := t.columns.lookup name

/-- How many rows a constant fills: one where there is no column yet. -/
def rows (t : Table) : Nat := if t.columns.isEmpty then 1 else t.height

/-- The frame of a table, if every column can be computed. -/
def collect (t : Table) : Except FrameError Frame := do
  let columns ← t.columns.mapM fun (name, d) => do
    pure (Column.mk name d.dtype (← d.cells))
  pure ⟨t.height, columns⟩

/-! ### Columns in place -/

/-- A column put over the column of its name, or behind the others. -/
def putIn (name : String) (d : Deferred) :
    List (String × Deferred) → List (String × Deferred)
  | [] => [(name, d)]
  | (n, e) :: rest => if n = name then (n, d) :: rest else (n, e) :: putIn name d rest

/-- A column put over the column of its name, or behind the others. -/
def put (t : Table) (name : String) (d : Deferred) : Table :=
  ⟨t.rows, putIn name d t.columns⟩

/-- The first name that occurs again later. -/
def repeated? : List String → Option String
  | [] => none
  | n :: ns => if ns.contains n then some n else repeated? ns

/-- Columns put over the columns of their names, or behind the others; no two of them may have one
name. -/
def putAll (t : Table) (columns : List (String × Deferred)) : Except FrameError Table :=
  match repeated? (columns.map (·.1)) with
  | some name => .error (.duplicateColumn name)
  | none => .ok (columns.foldl (fun t (name, d) => t.put name d) t)

/-! ### Names that stand for several columns -/

/-- Whether a name is a regular expression. -/
def isPattern (name : String) : Bool :=
  name.toList.head? == some '^' && name.toList.getLast? == some '$'

/-- The columns among some that a name stands for. -/
def matchingNames (columns : List String) (name : String) : Except FrameError (List String) :=
  if name = "*" then .ok columns
  else if isPattern name then
    match Regex.read? name with
    | some r => .ok (columns.filter r.findsIn)
    | none => .error (.badPattern name)
  else .ok [name]

/-- The columns that a name stands for. -/
def matching (t : Table) (name : String) : Except FrameError (List String) :=
  matchingNames t.names name

/-- A column that must be there. -/
def get (t : Table) (name : String) : Except FrameError Deferred :=
  match t.find? name with
  | some d => .ok d
  | none => .error (.missingColumn name)

/-! ### Selections -/

/-- A table of columns only; without any it has no rows. -/
def ofColumns (height : Nat) (columns : List (String × Deferred)) : Except FrameError Table :=
  match repeated? (columns.map (·.1)) with
  | some name => .error (.duplicateColumn name)
  | none => .ok ⟨if columns.isEmpty then 0 else height, columns⟩

/-- The columns of some names, in their order. -/
def select (t : Table) (names : List String) : Except FrameError Table := do
  let names ← names.mapM t.matching
  let columns ← names.flatten.mapM fun n => do pure (n, ← t.get n)
  ofColumns t.height columns

/-- The rows of a table that some positions name, in their order; where the positions cannot be
computed, no column can. -/
def pick (t : Table) (positions : Except FrameError (List Nat)) : Table :=
  let chosen (ps : List Nat) (cells : List Cell) : List Cell :=
    let cells := cells.toArray
    ps.map fun i => cells.getD i .null
  ⟨match positions with
    | .ok ps => ps.length
    | .error _ => t.height,
    t.columns.map fun (name, d) =>
      (name, ⟨d.dtype, do
        let ps ← positions
        pure (chosen ps (← d.cells))⟩)⟩

end Table

end FocusBilling
