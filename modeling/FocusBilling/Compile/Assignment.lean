import FocusBilling.Frame.Scalar

/-!
# Steps that fill columns

* `Assignment` : what a rule is compiled to that fills columns by expressions;
* `Assignment.columns` : the columns that an assignment fills in a table, with their expressions.

What depends on the columns of a table is left open until there is one: whether a column is
missing, which fields a struct has, and which columns a name with a pattern stands for.
-/

namespace FocusBilling

/-- What a rule is compiled to that fills columns by expressions. -/
inductive Assignment where
  | column (output : String) (value : Scalar)
  /-- The fields of a struct that a name stands for; it should be one. -/
  | field (output : String) (source : String) (name : String)
  /-- Every field of a struct, in a column named for the output and the field. -/
  | expanded (output : String) (source : String)
  /-- A column as it is, or a constant where it is missing. -/
  | defaultIfMissing (output : String) (source : String) (default : Literal)

namespace Assignment

/-- The name of the column that a field is expanded to. -/
def fieldColumn (output name : String) : String := output ++ "_" ++ name

/-- The fields of a struct column. -/
def structFields (t : Table) (name : String) : Except FrameError (List (String × DType)) := do
  match (← t.get name).dtype with
  | .struct fields => pure fields
  | _ => .error .wrongType

/-- The columns that an assignment fills in a table, with their expressions. -/
def columns (t : Table) : Assignment → Except FrameError (List (String × Scalar))
  | column output value => do
    pure ((← value.expand t).map fun v => (output, v))
  | field output source name => do
    let found ← (← t.matching source).mapM fun s => do
      let fields ← structFields t s
      let names ← Table.matchingNames (fields.map (·.1)) name
      pure (names.map fun n => (output, Scalar.apply (.field n) [.column s]))
    pure found.flatten
  | expanded output source => do
    let found ← (← t.matching source).mapM fun s => do
      let fields ← structFields t s
      pure (fields.map fun f => (fieldColumn output f.1, Scalar.apply (.field f.1) [.column s]))
    pure found.flatten
  | defaultIfMissing output source default =>
    if t.hasColumn source then do
      pure ((← (Scalar.column source).expand t).map fun v => (output, v))
    else .ok [(output, .literal default)]

/-- A table after an assignment. -/
def run (a : Assignment) (t : Table) : Except FrameError Table := do
  let named ← a.columns t
  let filled ← named.mapM fun (n, v) => do pure (n, ← v.eval t t.rows)
  t.putAll filled

end Assignment

end FocusBilling
