import FocusBilling.Sql.Projection

/-!
# Reading statements that change tables

* `Sql.insertForm`, `Sql.updateForm`, `Sql.mergeForm` : the expressions of such a statement;
* `Sql.deleteForm` : a statement that takes rows out of a table.
-/

namespace FocusBilling.Sql

open Parse

variable (g : Grammar)

/-- A table with its joins, as one expression. -/
def Relation.asExpr (r : Relation) : Expr :=
  .subquery (.ofBody (.select ⟨.keepAll, [], none, [], [⟨.listed, r, .none, []⟩], [], none, none,
    false, false, [], [], none, [], none, []⟩))

/-- Tables as one expression. -/
def tablesAsExpr (ts : List Join) : Expr := Relation.asExpr (.joined ts none)

/-- What is done where a row is there already, in front of the table. -/
def conflictWords : Parse Unit := do
  if ← keyword "OR" then
    let _ ← expectOneOf ["REPLACE", "ROLLBACK", "ABORT", "FAIL", "IGNORE"]
  else
    let _ ← keyword "REPLACE"

/-- An assignment of a value to a column. -/
def assignment : Parse Expr := do
  if ← sign "(" then
    let _ ← commaSeparated objectName
    expectSign ")"
  else
    let _ ← objectName
  expectSign "="
  g.expr

/-- Assignments with commas between them. -/
def assignments : Parse (List Expr) := commaSeparated (assignment g)

/-- What is done where a row is there already. -/
def conflictForm : Parse (List Expr) := do
  if ← keyword "ON" then
    if ← keyword "CONFLICT" then
      if ← keywords ["ON", "CONSTRAINT"] then
        let _ ← objectName
      else
        let _ ← optionalColumnList
      expectKeyword "DO"
      if ← keyword "NOTHING" then pure []
      else
        expectKeywords ["UPDATE", "SET"]
        let set ← assignments g
        let filter ← givenThat (keyword "WHERE") g.expr
        pure (set ++ filter.toList)
    else
      expectKeywords ["DUPLICATE", "KEY", "UPDATE"]
      assignments g
  else pure []

/-- Names of formats of files. -/
def fileFormats : List String :=
  ["AVRO", "JSONFILE", "ORC", "PARQUET", "RCFILE", "SEQUENCEFILE", "TEXTFILE"]

/-- `INSERT` behind its keyword. -/
def insertForm : Parse (List Expr) := do
  conflictWords
  let _ ← oneOf ["LOW_PRIORITY", "DELAYED", "HIGH_PRIORITY"]
  let _ ← keyword "IGNORE"
  let _ ← keyword "OVERWRITE"
  let _ ← keyword "INTO"
  let _ ← keyword "LOCAL"
  if ← keyword "DIRECTORY" then
    let _ ← literalText
    if ← keywords ["STORED", "AS"] then
      let _ ← expectOneOf fileFormats
    pure [.subquery (← g.query)]
  else
    let _ ← keyword "TABLE"
    let _ ← objectName
    let source ← if ← keywords ["DEFAULT", "VALUES"] then pure []
      else do
        let opensQuery := (← peekSign "(") && ((← peekAt 1).any (Token.isKeyword "SELECT"))
        let partition ← if opensQuery then pure []
          else do
            let _ ← optionalColumnList
            listedAfter (keyword "PARTITION") (inBrackets (commaSeparated g.expr))
        pure (.subquery (← g.query) :: partition)
    if ← keyword "AS" then
      let _ ← objectName
      let _ ← optionalColumnList
    let conflict ← conflictForm g
    pure (source ++ conflict ++ (← returning g))

/-- `UPDATE` behind its keyword. -/
def updateForm : Parse (List Expr) := do
  conflictWords
  let table ← tableAndJoins g
  expectKeyword "SET"
  let set ← assignments g
  let source ← givenThat (keyword "FROM") (tableAndJoins g)
  let filter ← givenThat (keyword "WHERE") g.expr
  pure (tablesAsExpr table :: set ++ (source.map tablesAsExpr).toList ++ filter.toList ++
    (← returning g))

/-- `DELETE` behind its keyword. -/
def deleteForm : Parse Statement := do
  let _ ← keyword "FROM"
  let tables ← commaSeparated (tableAndJoins g)
  let using_ ← listedAfter (keyword "USING") (commaSeparated (tableAndJoins g))
  let filter ← givenThat (keyword "WHERE") g.expr
  let isReturning ← peekKeyword "RETURNING"
  let returned ← returning g
  let order ← optionalOrder g
  let limit ← givenThat (keyword "LIMIT") do
    if ← keyword "ALL" then pure [] else pure [← g.expr]
  let isPlain := using_.isEmpty && !isReturning && order.isEmpty && (limit.getD []).isEmpty
  let parts := returned ++ order.flatMap (fun k => k.value :: k.fill) ++ limit.getD []
  let all := tables.flatten ++ using_.flatten
  pure (.delete all isPlain filter parts)

/-- One clause of `MERGE`. -/
def mergeClause : Parse (List Expr) := do
  let isNot ← keyword "NOT"
  expectKeyword "MATCHED"
  let bySource ← if isNot && (← keyword "BY") then
      (do pure ((← expectOneOf ["SOURCE", "TARGET"]) == "SOURCE"))
    else pure false
  let condition ← givenThat (keyword "AND") g.expr
  expectKeyword "THEN"
  let inserts := isNot && !bySource
  let action ← match ← expectOneOf ["UPDATE", "INSERT", "DELETE"] with
    | "UPDATE" => do
      if inserts then fail
      expectKeyword "SET"
      assignments g
    | "DELETE" => if inserts then fail else pure []
    | _ => do
      if !inserts then fail
      let _ ← optionalColumnList
      if ← keyword "ROW" then pure []
      else
        expectKeyword "VALUES"
        pure (← rowsForm g).2
  pure (condition.toList ++ action)

/-- `MERGE` behind its keyword. -/
def mergeForm : Parse (List Expr) := do
  let _ ← keyword "INTO"
  let depth := (← rest).length + 1
  let table ← tableFactor g (tablesFrom g depth)
  expectKeyword "USING"
  let source ← tableFactor g (tablesFrom g depth)
  expectKeyword "ON"
  let on ← g.expr
  let clauses ← whileSome do
    let isEnd := (← peek).isNone || (← peekSign ";")
    if isEnd then pure none
    else
      expectKeyword "WHEN"
      pure (some (← mergeClause g))
  pure (table.asExpr :: source.asExpr :: on :: clauses.flatten)

end FocusBilling.Sql
