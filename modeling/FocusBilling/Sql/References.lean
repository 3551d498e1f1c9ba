import FocusBilling.Sql.Reads
import FocusBilling.Sql.Statement

/-!
# Columns that SQL texts read

* `Sql.referencedColumns` : the names that a text reads, each once, in the order of first use;
* `Sql.conditionColumns` : the names that `WHEN … THEN …` clauses read.

A text that cannot be read reads nothing.
-/

namespace FocusBilling.Sql

/-- The table that every statement of a plan reads. -/
def tableName : String := "TABLE_NAME"

/-- Each item once, at its first place. -/
def distinctNames (names : List String) : List String :=
  names.foldl (fun seen n => if seen.contains n then seen else seen ++ [n]) []

/-- The names that a text reads as columns, each once, in the order of first use. -/
def referencedColumns (s : String) : List String :=
  match parse? false s with
  | some statements => distinctNames (statements.flatMap Statement.reads)
  | none => []

/-- The text that is read in place of `WHEN … THEN …` clauses. -/
def conditionText (clauses : String) : String :=
  "SELECT CASE " ++ clauses ++ " END FROM " ++ tableName

/-- The names that `WHEN … THEN …` clauses read as columns. -/
def conditionColumns (clauses : String) : List String := referencedColumns (conditionText clauses)

end FocusBilling.Sql
