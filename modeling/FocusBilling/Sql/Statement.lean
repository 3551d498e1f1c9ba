import FocusBilling.Sql.Lexer
import FocusBilling.Sql.Upkeep

/-!
# Reading statements

* `Sql.statementIn` : one statement, its nested forms read by a grammar one level down;
* `Sql.grammarAt` : the grammar that may nest a number of levels;
* `Sql.parseWith`, `Sql.parse?` : the statements of a text, and what is heard while it is read.

Statements stand between semicolons; a word `END` behind a statement ends the text.
-/

namespace FocusBilling.Sql

open Parse

variable (g : Grammar)

/-- How deep a text may nest. -/
def maxDepth : Nat := 50

/-- The call of a procedure, behind `CALL`. -/
def callForm : Parse (List Expr) := do
  let name ← objectName
  if ← peekSign "(" then
    pure [.call (← callBehind g (intervalForm (operandIn g)) name false)]
  else pure []

/-- `ATTACH` behind its keyword. -/
def attachForm : Parse (List Expr) := do
  let _ ← keyword "DATABASE"
  let file ← g.expr
  expectKeyword "AS"
  let _ ← identifier
  pure [file]

/-- A statement of which nothing is kept, behind its keyword. -/
def silentForm : String → Parse Unit
  | "KILL" => do
    let _ ← oneOf ["CONNECTION", "QUERY", "MUTATION"]
    discard wholeNumber
  | "FLUSH" => flushForm
  | "DETACH" => do
    let _ ← keyword "DATABASE"
    let _ ← keywords ["IF", "EXISTS"]
    discard identifier
  | "MSCK" => repairForm
  | "UNCACHE" => do
    expectKeyword "TABLE"
    let _ ← keywords ["IF", "EXISTS"]
    discard objectName
  | "DISCARD" => discard (expectOneOf ["ALL", "PLANS", "SEQUENCES", "TEMPORARY", "TEMP"])
  | "FETCH" => fetchStatement
  | "CLOSE" => do if ← keyword "ALL" then pure () else discard identifier
  | "USE" => discard objectName
  | "GRANT" => grantForm
  | "REVOKE" => revokeForm
  | "START" => do
    expectKeyword "TRANSACTION"
    transactionModes
  | "BEGIN" => beginForm
  | "END" => endForm
  | "COMMIT" => chainForm
  | "ROLLBACK" => rollbackForm
  | "SAVEPOINT" | "INSTALL" | "LOAD" => discard identifier
  | "RELEASE" => do
    let _ ← keyword "SAVEPOINT"
    discard identifier
  | "DEALLOCATE" => do
    let _ ← keyword "PREPARE"
    discard identifier
  | "PRAGMA" => pragmaForm
  | "COMMENT" => commentForm
  | _ => fail

/-- A statement behind its keyword. -/
def statementBehind : String → Parse Statement
  | "EXPLAIN" => explainForm g true
  | "DESC" | "DESCRIBE" => explainForm g false
  | "TRUNCATE" => truncateForm g
  | "CREATE" => createForm g
  | "DROP" => dropForm
  | "DELETE" => deleteForm g
  | "SHOW" => showForm g
  | "PREPARE" => do pure (.prepare (← prepareForm g))
  | "INSERT" | "REPLACE" => do pure (.other (← insertForm g))
  | "UPDATE" => do pure (.other (← updateForm g))
  | "MERGE" => do pure (.other (← mergeForm g))
  | "ALTER" => do pure (.other (← alterForm g))
  | "ANALYZE" => do pure (.other (← analyzeForm g))
  | "ATTACH" => do pure (.other (← attachForm g))
  | "CACHE" => do pure (.other (← cacheForm g))
  | "DECLARE" => do pure (.other (← declareForm g))
  | "CALL" => do pure (.other (← callForm g))
  | "COPY" => do pure (.other (← copyForm g))
  | "SET" => do pure (.other (← setForm g))
  | "ASSERT" => do
    let condition ← g.expr
    let message ← givenThat (keyword "AS") g.expr
    pure (.other (condition :: message.toList))
  | "EXECUTE" | "EXEC" => do pure (.other (← executeForm g))
  | "UNLOAD" => do pure (.other (← unloadForm g))
  | "OPTIMIZE" => do pure (.other (← optimizeForm g))
  | k => do
    silentForm k
    pure (.other [])

/-- One statement. -/
def statementIn : Parse Statement := do
  let opensQuery := (← peekSign "(") || (← peekOneOf ["SELECT", "WITH", "VALUES"])
  if opensQuery then pure (.query (← g.query))
  else
    match (← next).keyword? with
    | some k => statementBehind g k
    | none => fail

/-- The grammar that may nest a number of levels. -/
def grammarAt : Nat → Grammar
  | 0 => Grammar.limit
  | n + 1 =>
    let inner := grammarAt n
    ⟨expressionIn inner, queryIn inner, statementIn inner⟩

/-- The statements that follow, at most so many steps long.  `between` tells that one has just
ended, so that a separator or the end must follow. -/
def statementsFrom (g : Grammar) : Nat → Bool → Parse (List Statement)
  | 0, _ => fail
  | n + 1, between => do
    if ← sign ";" then statementsFrom g n false
    else if (← peek).isNone then pure []
    else if between then
      if ← peekKeyword "END" then pure [] else fail
    else
      let s ← g.statement
      pure (s :: (← statementsFrom g n true))

/-- The statements of a text, if it can be read, and what is heard while it is read, the first
first.  `trailingCommas` tells whether a comma may stand behind the last entry of a list. -/
def parseWith (trailingCommas : Bool) (text : String) : Option (List Statement) × List Event :=
  match tokens? text with
  | none => (none, [])
  | some ts =>
    let (found, reader) := (statementsFrom (grammarAt maxDepth) (2 * ts.length + 1) false).run
      |>.run ⟨ts, trailingCommas, false, []⟩
    (found.toOption, reader.heard.reverse)

/-- The statements of a text; `none` where it cannot be read. -/
def parse? (trailingCommas : Bool) (text : String) : Option (List Statement) :=
  (parseWith trailingCommas text).1

end FocusBilling.Sql
