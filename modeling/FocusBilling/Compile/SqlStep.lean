import FocusBilling.Sql.References
import FocusBilling.Text.Ascii

/-!
# Steps in SQL

* `SqlStep` : what a rule of a SQL kind is compiled to;
* `SqlStep.render` : the statement that a step runs on a table with given columns;
* `SqlStep.replacedColumn` : the column that a condition overwrites.

A condition drops the clauses that read a column which the table lacks.  Where its own column is
there already, it writes to a staging column, which then takes the place of the old one.
-/

namespace FocusBilling

namespace Sql

/-- A name as SQL spells it: between double quotes, those inside doubled. -/
def quoteIdentifier (name : String) : String :=
  "\"" ++ Text.replaceChar '"' "\"\"" name ++ "\""

end Sql

/-- What a rule of a SQL kind is compiled to. -/
inductive SqlStep where
  /-- A column filled by the first clause that applies; the default is SQL already. -/
  | condition (output : String) (clauses : List String) (default : String)
  /-- A query, run as it is written. -/
  | query (text : String)
  deriving DecidableEq

namespace SqlStep

/-- The column that a condition fills in place of one that is there already. -/
def stagingColumn : String := "__focus_staging"

/-- The column of a table that a condition overwrites. -/
def replacedColumn (columns : List String) : SqlStep → Option String
  | condition output _ _ => if columns.contains output then some output else none
  | query _ => none

/-- Whether a table has every column that a clause reads. -/
def isLive (columns : List String) (clause : String) : Bool :=
  (Sql.conditionColumns clause).all columns.contains

/-- The clauses that are kept for a table. -/
def liveClauses (columns : Option (List String)) (clauses : List String) : List String :=
  match columns with
  | some names => clauses.filter (isLive names)
  | none => clauses

/-- The value that clauses give to a row, and otherwise a default. -/
def valueText (clauses : List String) (default : String) : String :=
  if clauses.isEmpty then default
  else "CASE " ++ String.intercalate " " clauses ++ " ELSE " ++ default ++ " END"

/-- The statement of a step; without the columns of a table no clause is dropped. -/
def render (columns : Option (List String)) : SqlStep → String
  | query text => text
  | condition output clauses default =>
    let replaced := columns.any fun names => names.contains output
    let column := Sql.quoteIdentifier (if replaced then stagingColumn else output)
    "SELECT *, " ++ valueText (liveClauses columns clauses) default ++ " AS " ++ column ++
      " FROM " ++ Sql.tableName

end SqlStep

end FocusBilling
