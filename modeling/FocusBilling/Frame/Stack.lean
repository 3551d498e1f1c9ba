import FocusBilling.Frame.Table

/-!
# Frames on top of each other

* `Frame.append`, `Frame.stack` : frames of one schema, the rows of each below those before it;
* `Table.slice`, `Table.append` : the same for tables;
* `Table.conformed` : a table with the columns that a schema asks for.
-/

namespace FocusBilling

namespace Frame

/-- The rows of a frame below those of another with the same columns. -/
def append (f g : Frame) : Frame :=
  ⟨f.height + g.height,
    (f.columns.zip g.columns).map fun (c, d) => { c with cells := c.cells ++ d.cells }⟩

/-- The names and types of the columns. -/
def schema (f : Frame) : List (String × DType) := f.columns.map fun c => (c.name, c.dtype)

/-- A frame without rows. -/
def empty (schema : List (String × DType)) : Frame := ⟨0, schema.map fun (n, t) => ⟨n, t, []⟩⟩

/-- Frames of one schema, each below those before it. -/
def stack (schema : List (String × DType)) (fs : List Frame) : Frame :=
  fs.foldl append (empty schema)

end Frame

namespace Table

/-- The rows from one position on, at most so many. -/
def slice (t : Table) (start count : Nat) : Table :=
  ⟨min count (t.height - start),
    t.columns.map fun (n, d) =>
      (n, ⟨d.dtype, d.cells.map fun cells => (cells.drop start).take count⟩)⟩

/-- The cells of two columns of one type, if both can be computed. -/
def appendCells (a b : Deferred) : Deferred :=
  ⟨a.dtype, do
    let cells ← a.cells
    pure (cells ++ (← b.cells))⟩

/-- The rows of a table below those of another with the same columns. -/
def append (t u : Table) : Table :=
  ⟨t.height + u.height, (t.columns.zip u.columns).map fun ((n, a), (_, b)) => (n, appendCells a b)⟩

/-- A table with the columns that a schema asks for; one that has others has no cells at all. -/
def conformed (schema : List (String × DType)) (f : Frame) : Table :=
  let fits := f.columns.length == schema.length && schema.all fun (n, t) =>
    f.columns.any fun c => c.name == n && DType.same c.dtype t
  ⟨f.height, schema.map fun (n, t) =>
    (n, ⟨t, if fits then
        match f.columns.find? fun c => c.name == n with
        | some c => .ok c.cells
        | none => .error .wrongType
      else .error .wrongType⟩)⟩

end Table

end FocusBilling
