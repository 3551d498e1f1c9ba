import FocusBilling.Frame.Scalar
import FocusBilling.Sql.CommonType

/-!
# What expressions come to

* `Sql.Outcome` : the type of an expression over a table, and its cells;
* `Sql.Outcome.rowwise` : a function of the cells of each row;
* `Sql.Outcome.toType` : an outcome in another type;
* `Sql.Outcome.paired` : two outcomes in the type that holds both.
-/

namespace FocusBilling.Sql

/-- What an expression over a table comes to. -/
structure Outcome where
  /-- What is known of the type. -/
  typing : Typing
  /-- Whether there is one cell for all rows. -/
  isScalar : Bool
  /-- The cells, or why there are none. -/
  cells : Except FrameError (List Cell)

namespace Outcome

/-- The type on its own. -/
def dtype (o : Outcome) : DType := o.typing.dtype

/-- One cell for all rows. -/
def scalar (t : DType) (c : Cell) : Outcome := ⟨.known t, true, .ok [c]⟩

/-- A whole number that is written out. -/
def whole (n : Int) : Outcome := ⟨.whole n, true, .ok [.int n]⟩

/-- Another number that is written out. -/
def fraction (x : Binary) : Outcome := ⟨.fraction x, true, .ok [.float x]⟩

/-- The cells of a column. -/
def ofColumn (d : Deferred) : Outcome := ⟨.known d.dtype, false, d.cells⟩

/-- The type in which the cells are held. -/
def held (o : Outcome) : DType :=
  match o.typing with
  | .known t => t
  | .whole _ => .i64
  | .fraction _ => .float64

/-- An outcome in another type; what has no value there is missing. -/
def toType (o : Outcome) (target : DType) : Outcome :=
  if o.held.same target then { o with typing := .known target }
  else ⟨.known target, o.isScalar, o.cells.map fun cells => cells.map (Cell.cast o.held target)⟩

/-- An outcome in the type that it has on its own. -/
def settled (o : Outcome) : Outcome := o.toType o.dtype

/-- An outcome of which nothing but its type is known. -/
def failing (t : DType) (e : FrameError) : Outcome := ⟨.known t, false, .error e⟩

/-- The cells of outcomes, side by side; one cell for all rows stands in each of them. -/
def sideBySide (os : List Outcome) : Except FrameError (List (List Cell)) := do
  let columns ← os.mapM fun o => do pure (o.isScalar, ← o.cells)
  let rows := match columns.find? fun c => !c.1 with
    | some c => c.2.length
    | none => 1
  pure (Scalar.rowsOf rows (columns.map fun (isScalar, cells) =>
    if isScalar then List.replicate rows (cells.headD .null) else cells))

/-- A function of the cells of each row, which may fail. -/
def rowwise? (t : DType) (f : List Cell → Except FrameError Cell) (os : List Outcome) : Outcome :=
  ⟨.known t, os.all (·.isScalar), do (← sideBySide os).mapM f⟩

/-- A function of the cells of each row. -/
def rowwise (t : DType) (f : List Cell → Cell) (os : List Outcome) : Outcome :=
  rowwise? t (fun cs => .ok (f cs)) os

/-- A function of each cell. -/
def mapCells (t : DType) (f : Cell → Cell) (o : Outcome) : Outcome :=
  ⟨.known t, o.isScalar, o.cells.map fun cells => cells.map f⟩

/-- Outcomes in the type that holds both. -/
def paired (a b : Outcome) : Except FrameError (Outcome × Outcome × DType) :=
  match a.typing.common b.typing with
  | some t => .ok (a.toType t, b.toType t, t)
  | none => .error .wrongType

/-- The type that holds all of some outcomes. -/
def commonTyping : Typing → List Outcome → Except FrameError Typing
  | t, [] => .ok t
  | t, o :: os =>
    match t.common o.typing with
    | some u => commonTyping (.known u) os
    | none => .error .wrongType

/-- Outcomes in the type that holds all of them. -/
def unified : List Outcome → Except FrameError (List Outcome × DType)
  | [] => .error .wrongType
  | o :: os => do
    let t := (← commonTyping o.typing os).dtype
    pure ((o :: os).map fun o => o.toType t, t)

/-- Whether the type is one that holds texts, or nothing. -/
def isText (o : Outcome) : Bool := Operation.fits .text o.dtype

end Outcome

end FocusBilling.Sql
