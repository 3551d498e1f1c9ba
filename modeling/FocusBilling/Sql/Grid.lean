import FocusBilling.Sql.Outcome

/-!
# Tables inside a query

* `Sql.Grid` : a table whose number of rows may be as unknown as its cells;
* `Sql.Grid.select`, `Sql.Grid.extend`, `Sql.Grid.rename` : its columns;
* `Sql.Grid.kept`, `Sql.Grid.sorted`, `Sql.Grid.unique`, `Sql.Grid.slice` : its rows, each time the
  rows that some positions name;
* `Sql.Grid.below` : the rows of one table below those of another.

Where the positions cannot be computed, no cell can.
-/

namespace FocusBilling.Sql

/-- A table inside a query. -/
structure Grid where
  /-- The number of rows, or why it is not known. -/
  count : Except FrameError Nat
  /-- The columns and their names, in order. -/
  columns : List (String × Deferred)

/-- Which way a key orders rows. -/
structure Direction where
  /-- Whether greater values come first. -/
  descending : Bool
  /-- Whether missing values come last. -/
  nullsLast : Bool
  deriving DecidableEq

namespace Direction

/-- How a key orders two cells. -/
def order (d : Direction) (a b : Cell) : Ordering :=
  match a.isNull, b.isNull with
  | true, true => .eq
  | true, false => if d.nullsLast then .gt else .lt
  | false, true => if d.nullsLast then .lt else .gt
  | false, false => if d.descending then Cell.order b a else Cell.order a b

/-- How keys order two rows of cells. -/
def orderRows : List Direction → List Cell → List Cell → Ordering
  | d :: ds, a :: as, b :: bs => (d.order a b).then (orderRows ds as bs)
  | _, _, _ => .eq

/-- The positions of rows in the order of their keys; equal rows keep their order. -/
def positions (ds : List Direction) (rows : List (List Cell)) : List Nat :=
  (rows.zipIdx.mergeSort fun a b => (orderRows ds a.1 b.1).isLE).map (·.2)

end Direction

/-! ### Classes of equal rows -/

/-- Classes of rows with one row more. -/
def insertRow (row : List Cell) (i : Nat) :
    List (List Cell × List Nat) → List (List Cell × List Nat)
  | [] => [(row, [i])]
  | (r, is) :: rest =>
    if Cell.orderAll r row == .eq then (r, is ++ [i]) :: rest else (r, is) :: insertRow row i rest

/-- The positions of rows with equal cells, each class in order, classes by their first rows. -/
def classesOf (rows : List (List Cell)) : List (List Nat) :=
  (rows.zipIdx.foldl (fun classes r => insertRow r.1 r.2 classes) []).map (·.2)

namespace Grid

/-- No rows and no columns. -/
def empty : Grid := ⟨.ok 0, []⟩

/-- A table at the start of a query. -/
def ofTable (t : Table) : Grid := ⟨.ok t.height, t.columns⟩

/-- The table that a query has made. -/
def toTable (g : Grid) : Table := ⟨g.count.toOption.getD 0, g.columns⟩

/-- The names of the columns. -/
def names (g : Grid) : List String := g.columns.map (·.1)

/-- The columns and their types. -/
def schema (g : Grid) : List (String × DType) := g.columns.map fun (n, d) => (n, d.dtype)

/-- The cells of a column that must be there. -/
def column (g : Grid) (name : String) : Except FrameError Outcome :=
  match g.columns.lookup name with
  | some d => .ok (.ofColumn d)
  | none => .error (.missingColumn name)

/-! ### Columns -/

/-- An outcome as a column of so many rows. -/
def spread (count : Except FrameError Nat) (o : Outcome) : Deferred :=
  let o := o.settled
  ⟨o.dtype,
    if o.isScalar then do
      let n ← count
      pure (List.replicate n ((← o.cells).headD .null))
    else o.cells⟩

/-- A value, unless two of some names are the same. -/
def ifDistinct {α : Type} (names : List String) (a : α) : Except FrameError α :=
  match Table.repeated? names with
  | some name => .error (.duplicateColumn name)
  | none => .ok a

/-- A table of some outcomes alone; values for all rows make one row. -/
def select (g : Grid) (items : List (String × Outcome)) : Except FrameError Grid :=
  let count :=
    if items.isEmpty then .ok 0 else if items.all (·.2.isScalar) then .ok 1 else g.count
  ifDistinct (items.map (·.1)) ⟨count, items.map fun (n, o) => (n, spread count o)⟩

/-- A table with some outcomes over the columns of their names, or behind the others. -/
def extend (g : Grid) (items : List (String × Outcome)) : Except FrameError Grid :=
  let count := if g.columns.isEmpty && !items.isEmpty then .ok 1 else g.count
  ifDistinct (items.map (·.1))
    ⟨count, items.foldl (fun cs (n, o) => Table.putIn n (spread count o) cs) g.columns⟩

/-- A table with other names for some columns, all of which must be there. -/
def rename (g : Grid) (pairs : List (String × String)) : Except FrameError Grid := do
  let _ ← pairs.mapM fun (old, _) => g.column old
  let columns := g.columns.map fun (n, d) => ((pairs.lookup n).getD n, d)
  ifDistinct (columns.map (·.1)) ⟨g.count, columns⟩

/-! ### Rows -/

/-- The cells that positions name; where there is none, the cell is missing. -/
def picked (positions : List (Option Nat)) (cells : List Cell) : List Cell :=
  let cells := cells.toArray
  positions.map fun
    | some i => cells.getD i .null
    | none => .null

/-- The rows that positions name; where there is none, all cells are missing. -/
def pickOption (g : Grid) (positions : Except FrameError (List (Option Nat))) : Grid :=
  ⟨positions.map List.length, g.columns.map fun (n, d) =>
    (n, ⟨d.dtype, do
      let ps ← positions
      pure (picked ps (← d.cells))⟩)⟩

/-- The rows that positions name. -/
def pick (g : Grid) (positions : Except FrameError (List Nat)) : Grid :=
  g.pickOption (positions.map fun ps => ps.map some)

/-- The cells of outcomes in each row. -/
def rowsOf (g : Grid) (keys : List Outcome) : Except FrameError (List (List Cell)) := do
  let n ← g.count
  let cells ← keys.mapM fun o => (spread (.ok n) o).cells
  pure (Scalar.rowsOf n cells)

/-- The rows that a test of a condition keeps. -/
def kept (g : Grid) (test : Cell → Bool) (condition : Outcome) : Except FrameError Grid :=
  match condition.typing with
  | .known .bool => .ok (g.pick do
    let cells ← (spread g.count condition).cells
    pure (cells.zipIdx.filterMap fun (c, i) => if test c then some i else none))
  | _ => .error .wrongType

/-- The rows in the order of keys, which must have a cell for each of them. -/
def sorted (g : Grid) (keys : List (Outcome × Direction)) : Grid :=
  if keys.isEmpty then g
  else
    g.pick do
      let n ← g.count
      if n != 1 && keys.any (·.1.isScalar) then .error .wrongType
      else
        let rows ← g.rowsOf (keys.map (·.1))
        pure (Direction.positions (keys.map (·.2)) rows)

/-- The rows that differ in some columns from all before them. -/
def unique (g : Grid) (names : List String) : Except FrameError Grid := do
  let keys ← names.mapM g.column
  pure (g.pick do pure ((classesOf (← g.rowsOf keys)).map (·.headD 0)))

/-- The rows from one position on, at most so many. -/
def slice (g : Grid) (start : Nat) (count : Option Nat) : Grid :=
  g.pick do
    let positions := (List.range (← g.count)).drop start
    pure (match count with
      | some n => positions.take n
      | none => positions)

/-- The cells of one column below those of another, both in a type. -/
def belowCells (t : DType) (a b : Deferred) : Deferred :=
  ⟨t, do
    let above ← ((Outcome.ofColumn a).toType t).cells
    pure (above ++ (← ((Outcome.ofColumn b).toType t).cells))⟩

/-- The rows of a table below those of another; columns are matched by their places and take the
names of the first. -/
def below (g h : Grid) : Except FrameError Grid := do
  let columns ← (g.columns.zip h.columns).mapM fun ((n, a), (_, b)) =>
    match commonType a.dtype b.dtype with
    | some t => .ok (n, belowCells t a b)
    | none => .error .wrongType
  pure ⟨do pure ((← g.count) + (← h.count)), columns⟩

end Grid

end FocusBilling.Sql
