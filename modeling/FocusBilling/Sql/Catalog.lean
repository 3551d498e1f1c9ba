import FocusBilling.Sql.Expression
import FocusBilling.Sql.Formula

/-!
# Tables and columns by name

* `Sql.SqlError` : why a statement cannot be carried out;
* `Sql.Draft` : a table that is described, though perhaps it cannot be made;
* `Sql.Catalog` : the tables that a statement may name;
* `Sql.Scope.columns` : the columns that a name with points stands for.

A name is looked up among the tables first, then among the queries in front, then among the labels
of tables.  The first part of the name of a column names a table, else a column that is a struct.
-/

namespace FocusBilling.Sql

/-- Why a statement cannot be carried out. -/
inductive SqlError where
  /-- The text is no single statement. -/
  | unreadable
  /-- A form that is not carried out. -/
  | unsupported
  | frame (error : FrameError)
  deriving DecidableEq

/-- A result, unless a statement cannot be carried out. -/
abbrev Elaborated (α : Type) := Except SqlError α

/-- A form that is not carried out. -/
def unsupported {α : Type} : Elaborated α := .error .unsupported

/-- A table that is described, though perhaps it cannot be made. -/
abbrev Draft := Except FrameError Grid

/-- An error of a table whose columns must be known now. -/
def SqlError.ofFrame : FrameError → SqlError
  | .missingColumn name => .frame (.missingColumn name)
  | _ => .unsupported

/-- A table whose columns must be known now. -/
def settled (d : Draft) : Elaborated Grid := d.mapError .ofFrame

/-! ### Names as they are written -/

/-- A name as it is written, in its quotes. -/
def Name.written (n : Name) : String :=
  match n.quote with
  | none => n.text
  | some '[' => "[" ++ n.text ++ "]"
  | some q =>
    let doubled := n.text.toList.flatMap fun c => if c = q then [c, c] else [c]
    String.ofList (q :: (doubled ++ [q]))

/-- A name of several parts as it is written. -/
def writtenPath (path : List Name) : String := String.intercalate "." (path.map Name.written)

/-- A label as it is written, with the names of columns. -/
def TableLabel.written (l : TableLabel) : String :=
  l.name.written ++ (if l.columns.isEmpty then ""
    else " (" ++ String.intercalate ", " (l.columns.map Name.written) ++ ")")

/-! ### Tables -/

/-- The tables that a statement may name. -/
structure Catalog where
  /-- Tables that stay from one statement to the next. -/
  tables : List (String × Draft)
  /-- Queries in front of a statement. -/
  queries : List (String × Draft)
  /-- Labels of tables. -/
  labels : List (String × String)
  /-- Columns of joined tables that had to take another name. -/
  renamed : List (String × List (String × String))

namespace Catalog

/-- No tables at all. -/
def empty : Catalog := ⟨[], [], [], []⟩

/-- A table in place of one of its name, or a new one. -/
def putTable (c : Catalog) (name : String) (d : Draft) : Catalog :=
  { c with tables := (name, d) :: c.tables.filter fun t => t.1 != name }

/-- The catalog between two statements. -/
def betweenStatements (c : Catalog) : Catalog := { empty with tables := c.tables }

/-- The table of a name. -/
def find? (c : Catalog) (name : String) : Option Draft :=
  let plain (n : String) : Option Draft := (c.tables.lookup n).or (c.queries.lookup n)
  (plain name).or ((c.labels.lookup name).bind plain)

/-- The name that a column of a table has taken. -/
def renamedColumn (c : Catalog) (table column : String) : String :=
  ((c.renamed.lookup table).bind fun names => names.lookup column).getD column

end Catalog

/-! ### Columns -/

/-- What an expression may name. -/
structure Scope where
  /-- The tables. -/
  catalog : Catalog
  /-- The columns of the table over which the expression goes. -/
  schema : List (String × DType)
  /-- What a query inside the expression means. -/
  subquery : Query → Elaborated Formula

namespace Scope

variable (s : Scope)

/-- A column of a table, under the name that it has there. -/
def columnOf (table column : String) : Formula :=
  let name := s.catalog.renamedColumn table column
  if name = column then .column name else .named (.column name) column

/-- The fields that a path leads to inside a formula of a type; a star stands for all of them. -/
def fieldsAt : Formula → Option DType → List String → Elaborated (List Formula)
  | a, _, [] => .ok [a]
  | a, some (.struct fs), n :: rest =>
    if n = "*" then .ok (fs.map fun f => .apply (.field f.1) [a])
    else fieldsAt (.apply (.field n) [a]) (fs.lookup n) rest
  | a, t, n :: rest =>
    if n = "*" && t.isSome then unsupported else fieldsAt (.apply (.field n) [a]) none rest

/-- The columns that a name of several parts stands for; a star stands for all columns. -/
def columns : List String → Elaborated (List Formula)
  | [] => unsupported
  | [name] => .ok [.column name]
  | root :: second :: rest =>
    match s.catalog.find? root with
    | some table => do
      let schema := (← settled table).schema
      if second = "*" then pure (schema.map fun (n, _) => s.columnOf root n)
      else
        match schema.lookup second with
        | some t => fieldsAt (s.columnOf root second) (some t) rest
        | none => unsupported
    | none =>
      match s.schema.lookup second with
      | some t => fieldsAt (s.columnOf root second) (some t) rest
      | none => fieldsAt (.column root) (s.schema.lookup root) (second :: rest)

/-- The column of a name. -/
def column (path : List Name) : Elaborated Formula := do
  match ← s.columns (path.map (·.text)) with
  | a :: _ => pure a
  | [] => unsupported

/-- The type of a column that is named alone, or to which a column is cast. -/
def columnType? : Formula → Option DType
  | .column name => s.schema.lookup name
  | .apply (.cast t _) [.column _] => some t
  | _ => none

end Scope

end FocusBilling.Sql
