import FocusBilling.Frame.Operation

/-!
# Expressions over the columns of a table

* `Scalar` : an expression that gives a column of a table its cells;
* `Scalar.eval` : the type of an expression and its cells, the latter only when asked for;
* `Table.assign` : a column of a table filled by an expression.

Types and names are settled before any cell is computed, so an unknown column or a wrong type is
found even where nobody asks for the cells.
-/

namespace FocusBilling

/-- An expression over the columns of a table. -/
inductive Scalar where
  | column (name : String)
  | constant (value : Cell) (dtype : DType)
  | apply (op : Operation) (args : List Scalar)
  /-- The texts of a column as datetimes, their layout inferred from all of them. -/
  | inferred (p : InferredDatetime) (arg : Scalar)
  deriving Inhabited

namespace Scalar

/-- The expression of a literal. -/
def literal (l : Literal) : Scalar := constant (Cell.ofLiteral l) l.dtype

/-- A missing text. -/
def noText : Scalar := constant .null .text

/-! ### Evaluation -/

/-- The rows of columns. -/
def rowsOf : Nat → List (List Cell) → List (List Cell)
  | 0, _ => []
  | n + 1, columns => columns.map (·.headD .null) :: rowsOf n (columns.map List.tail)

/-- An operation on the cells of columns. -/
def applyCells (rows : Nat) (op : Operation) (args : List Deferred) :
    Except FrameError (List Cell) := do
  let types := args.map (·.dtype)
  op.obstacle types
  let columns ← args.mapM (·.cells)
  (rowsOf rows columns).mapM (op.run types)

/-- A cell as a text, where it is one. -/
def textOf? : Cell → Option String
  | .text s => some s
  | _ => none

/-- The texts of a column as datetimes of an inferred layout. -/
def inferCells (p : InferredDatetime) (arg : Deferred) : Except FrameError (List Cell) := do
  match arg.dtype with
  | .text =>
    let times ← p.readAll ((← arg.cells).map textOf?)
    pure (times.map Operation.instantCell)
  | _ => .error .wrongType

mutual

/-- The type of an expression over a table, and its cells; constants fill `rows` rows. -/
def eval (t : Table) (rows : Nat) : Scalar → Except FrameError Deferred
  | column name => t.get name
  | constant value dtype => .ok ⟨dtype, .ok (List.replicate rows value)⟩
  | apply op args => do
    let args ← evalAll t rows args
    let dtype ← op.result (args.map (·.dtype))
    pure ⟨dtype, applyCells rows op args⟩
  | inferred p arg => do
    let arg ← eval t rows arg
    pure ⟨p.dtype, inferCells p arg⟩

/-- The types and the cells of expressions. -/
def evalAll (t : Table) (rows : Nat) : List Scalar → Except FrameError (List Deferred)
  | [] => .ok []
  | a :: as => do
    let d ← eval t rows a
    pure (d :: (← evalAll t rows as))

end

/-! ### Columns that an expression reads -/

mutual

/-- The columns that an expression reads, in the order in which it is written. -/
def reads : Scalar → List String
  | column name => [name]
  | constant .. => []
  | apply _ args => readsAll args
  | inferred _ arg => reads arg

/-- The columns that expressions read. -/
def readsAll : List Scalar → List String
  | [] => []
  | a :: as => reads a ++ readsAll as

end

mutual

/-- An expression that reads one column in place of another. -/
def reading (old new : String) : Scalar → Scalar
  | column name => column (if name = old then new else name)
  | constant value dtype => constant value dtype
  | apply op args => apply op (readingAll old new args)
  | inferred p arg => inferred p (reading old new arg)

/-- Expressions that read one column in place of another. -/
def readingAll (old new : String) : List Scalar → List Scalar
  | [] => []
  | a :: as => reading old new a :: readingAll old new as

end

/-- The expressions that one with a name for several columns stands for. -/
def expand (t : Table) (e : Scalar) : Except FrameError (List Scalar) :=
  match e.reads.find? fun n => n = "*" || Table.isPattern n with
  | none => .ok [e]
  | some name => (t.matching name).map fun names => names.map fun n => e.reading name n

end Scalar

namespace Table

/-- A column of a table filled by an expression: in its place if there is one of its name, else
behind the others. -/
def assign (t : Table) (name : String) (value : Scalar) : Except FrameError Table := do
  let values ← value.expand t
  let columns ← values.mapM fun v => do pure (name, ← v.eval t t.rows)
  t.putAll columns

end Table

end FocusBilling
