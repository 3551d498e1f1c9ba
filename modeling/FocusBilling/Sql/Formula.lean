import FocusBilling.Sql.Function
import FocusBilling.Sql.Grid
import FocusBilling.Sql.Total

/-!
# Formulas over the columns of a table

* `Sql.Formula` : what a SQL expression means: functions of rows, totals of columns, totals of
  groups and running totals;
* `Sql.Formula.eval` : the outcome of a formula over a table;
* `Sql.Formula.name`, `Sql.Formula.reads` : the name of the column that it fills, and the columns
  that it reads;
* `Sql.Formula.height` : how many values it has.

A window over parts of a table gives each row what the formula comes to in its part.
-/

namespace FocusBilling.Sql

/-- What a SQL expression means. -/
inductive Formula where
  | column (name : String)
  | constant (value : Cell) (dtype : DType)
  /-- A whole number that is written out. -/
  | whole (n : Int)
  /-- Another number that is written out. -/
  | fraction (x : Binary)
  /-- Values that stand side by side and not in rows. -/
  | listed (values : Deferred)
  | apply (f : Function) (args : List Formula)
  | total (f : Total) (args : List Formula)
  /-- The number of rows. -/
  | rowCount
  /-- A formula in each part of the rows with equal keys. -/
  | windowed (arg : Formula) (keys : List Formula)
  /-- Values in the order of keys, each of which may go downward. -/
  | sorted (arg : Formula) (keys : List Formula) (descending : List Bool)
  | running (f : Running) (arg : Formula)
  /-- A formula that fills a column of another name. -/
  | named (arg : Formula) (name : String)
  deriving Inhabited

/-- How many values a formula has. -/
inductive Height where
  /-- As many as there are rows. -/
  | ofRows
  /-- One, for as many rows as there are. -/
  | inherited
  /-- A number of its own. -/
  | independent
  deriving DecidableEq

namespace Formula

/-- A text that is written out. -/
def ofText (s : String) : Formula := constant (.text s) .text

/-- A truth value. -/
def ofBool (b : Bool) : Formula := constant (.bool b) .bool

/-- A missing value of no type. -/
def missing : Formula := constant .null .null

/-- Whether a truth value is not true but false. -/
def not (a : Formula) : Formula := apply .not [a]

/-- The opposite, where it is asked for. -/
def notIf (yes : Bool) (a : Formula) : Formula := if yes then a.not else a

/-- The first formula where a condition is true, else the second. -/
def choose (condition yes no : Formula) : Formula := apply .choose [yes, no, condition]

/-- A comparison. -/
def compare (c : Comparison) (a b : Formula) : Formula := apply (.compare c) [a, b]

/-- Arithmetic. -/
def compute (op : Arithmetic) (a b : Formula) : Formula := apply (.arithmetic op) [a, b]

/-- A text that is written out, out of its formula. -/
def text? : Formula → Option String
  | constant (.text s) _ => some s
  | _ => none

/-! ### Names -/

/-- The name of the column that a formula fills: that of the first column it is made of, or of the
field. -/
def name : Formula → String
  | column n | apply (.field n) _ => n
  | constant .. | whole _ | fraction _ => "literal"
  | listed _ => ""
  | apply _ (a :: _) | total _ (a :: _) => a.name
  | apply _ [] | total _ [] => "literal"
  | rowCount => "len"
  | windowed a _ | sorted a _ _ | running _ a => a.name
  | named _ n => n

mutual

/-- The columns that a formula reads. -/
def reads : Formula → List String
  | column n => [n]
  | constant .. | whole _ | fraction _ | listed _ | rowCount => []
  | apply _ args | total _ args => readsAll args
  | windowed a keys | sorted a keys _ => a.reads ++ readsAll keys
  | running _ a | named a _ => a.reads

/-- The columns that formulas read. -/
def readsAll : List Formula → List String
  | [] => []
  | a :: as => a.reads ++ readsAll as

end

mutual

/-- Whether a test holds of a formula or of one inside it. -/
def any (test : Formula → Bool) : Formula → Bool
  | apply f args => test (apply f args) || anyOf test args
  | total f args => test (total f args) || anyOf test args
  | windowed a keys => test (windowed a keys) || (any test a || anyOf test keys)
  | sorted a keys ds => test (sorted a keys ds) || (any test a || anyOf test keys)
  | running f a => test (running f a) || any test a
  | named a n => test (named a n) || any test a
  | column n => test (column n)
  | constant c t => test (constant c t)
  | whole n => test (whole n)
  | fraction x => test (fraction x)
  | listed d => test (listed d)
  | rowCount => test rowCount

/-- Whether a test holds of one of some formulas or of one inside them. -/
def anyOf (test : Formula → Bool) : List Formula → Bool
  | [] => false
  | a :: as => any test a || anyOf test as

end

/-! ### Kinds -/

/-- Whether a formula is a total of a column, or the number of rows. -/
def isTotal : Formula → Bool
  | total f _ => f.isAggregate
  | rowCount => true
  | _ => false

/-- Whether a formula goes over parts of the rows. -/
def isWindow : Formula → Bool
  | windowed .. => true
  | _ => false

/-- Whether a formula counts as a call of a function. -/
def isCall : Formula → Bool
  | apply f _ => f.isCall
  | total f _ => !f.isAggregate
  | running .. => true
  | _ => false

/-- How many values a formula has. -/
def height (a : Formula) : Height :=
  let isFree : Formula → Bool
    | listed _ => true
    | b => b.isTotal
  if a.any isFree then .independent
  else if a.reads.isEmpty then .inherited
  else .ofRows

/-! ### Evaluation -/

/-- Cells in the order of keys. -/
def sortedCells (g : Grid) (descending : List Bool) (a : Outcome) (keys : List Outcome) :
    Except FrameError (List Cell) := do
  let rows ← g.rowsOf keys
  let directions := descending.map fun d => Direction.mk d false
  pure (Grid.picked ((Direction.positions directions rows).map some) (← a.cells))

/-- What a formula comes to in each class of rows, put back into its rows. -/
def scattered (part : List Nat → Except FrameError Outcome) (classes : List (List Nat)) :
    Except FrameError (List Cell) := do
  let found ← classes.mapM fun rows => do
    let o ← part rows
    let d := Grid.spread (.ok rows.length) o
    pure (rows.zip (← d.cells))
  pure ((found.flatten.mergeSort fun a b => a.1 ≤ b.1).map (·.2))

mutual

/-- The outcome of a formula over a table, which may be one group of rows. -/
def eval (isGroup : Bool) (g : Grid) : Formula → Except FrameError Outcome
  | column n => g.column n
  | constant c t => .ok (.scalar t c)
  | whole n => .ok (.whole n)
  | fraction x => .ok (.fraction x)
  | listed d => .ok (.ofColumn d)
  | apply f args => do f.eval (← evalAll isGroup g args)
  | total f args => do f.eval (if isGroup then some g.count else none) (← evalAll isGroup g args)
  | rowCount => .ok ⟨.known (.int .u32), true, g.count.map fun n => [.int n]⟩
  | windowed a keys => do
    let whole ← eval isGroup g a
    let keys ← evalAll isGroup g keys
    let t ← if keys.isEmpty || isGroup then .error .wrongType else pure whole.dtype
    pure ⟨.known t, false, do
      scattered (fun rows => eval true (g.pick (.ok rows)) a) (classesOf (← g.rowsOf keys))⟩
  | sorted a keys ds => do
    let a ← eval isGroup g a
    let keys ← evalAll isGroup g keys
    pure { a with cells := if a.isScalar then a.cells else sortedCells g ds a keys }
  | running f a => do
    let a ← eval isGroup g a
    let t ← f.result a.dtype
    pure { a.settled with
      typing := .known t, cells := a.settled.cells.map fun cells => f.ofCells a.dtype .null cells }
  | named a _ => eval isGroup g a

/-- The outcomes of formulas over a table. -/
def evalAll (isGroup : Bool) (g : Grid) : List Formula → Except FrameError (List Outcome)
  | [] => .ok []
  | a :: as => do
    let o ← eval isGroup g a
    pure (o :: (← evalAll isGroup g as))

end

end Formula

end FocusBilling.Sql
