import FocusBilling.Sql.Session

/-!
# Reading statements about stored things

* `Sql.prepareForm`, `Sql.executeForm`, `Sql.declareForm` : statements and queries that are kept;
* `Sql.copyForm`, `Sql.unloadForm`, `Sql.cacheForm` : tables that are carried elsewhere;
* `Sql.grantForm`, `Sql.revokeForm` : who may do what;
* `Sql.analyzeForm`, `Sql.optimizeForm`, `Sql.flushForm` : the care of tables.

Each reader stands behind its keyword and gives the expressions of the statement.
-/

namespace FocusBilling.Sql

open Parse

variable (g : Grammar)

/-! ### Statements and queries that are kept -/

/-- `PREPARE`: the statement that is kept. -/
def prepareForm : Parse Statement := do
  let _ ← identifier
  let _ ← optionalBrackets (commaSeparated typeName)
  expectKeyword "AS"
  g.statement

/-- `EXECUTE`. -/
def executeForm : Parse (List Expr) := do
  let _ ← objectName
  let args ← if ← sign "(" then (do
      let args ← commaSeparatedUntil ")" g.expr
      expectSign ")"
      pure args)
    else do
      let isDone := (← peek).isNone || (← peekSign ";") || (← peekKeyword "USING")
      if isDone then pure [] else commaSeparated g.expr
  let sources ← if ← keyword "USING" then (do
      let first ← g.expr
      pure (first :: (← whileSome (givenThat (sign ",") g.expr))))
    else pure []
  pure (args ++ sources)

/-- `DECLARE`. -/
def declareForm : Parse (List Expr) := do
  let _ ← identifier
  let _ ← keyword "BINARY"
  let _ ← oneOf ["INSENSITIVE", "ASENSITIVE"]
  if !(← keyword "SCROLL") then
    let _ ← keywords ["NO", "SCROLL"]
  expectKeyword "CURSOR"
  if (← oneOf ["WITH", "WITHOUT"]).isSome then expectKeyword "HOLD"
  expectKeyword "FOR"
  pure [.subquery (← g.query)]

/-- A number, or a placeholder of one. -/
def countValue : Parse Unit := do
  match ← value with
  | .number .. | .placeholder _ => pure ()
  | _ => fail

/-- `FETCH` as a statement. -/
def fetchStatement : Parse Unit := do
  match ← oneOf ["NEXT", "PRIOR", "FIRST", "LAST", "ABSOLUTE", "RELATIVE", "FORWARD", "BACKWARD",
      "ALL"] with
  | some "NEXT" | some "PRIOR" | some "FIRST" | some "LAST" | some "ALL" => pure ()
  | some "FORWARD" | some "BACKWARD" => if ← keyword "ALL" then pure () else countValue
  | _ => countValue
  let _ ← expectOneOf ["FROM", "IN"]
  let _ ← identifier
  let _ ← givenThat (keyword "INTO") objectName

/-! ### Tables that are carried elsewhere -/

/-- A text of one octet. -/
def literalOctet : Parse Unit := do
  if (← literalText).utf8ByteSize = 1 then pure () else fail

/-- An option in the brackets of `COPY`. -/
def copyOption : Parse Unit := do
  match ← expectOneOf ["FORMAT", "FREEZE", "DELIMITER", "NULL", "HEADER", "QUOTE", "ESCAPE",
      "FORCE_QUOTE", "FORCE_NOT_NULL", "FORCE_NULL", "ENCODING"] with
  | "FORMAT" => discard identifier
  | "FREEZE" | "HEADER" => discard (oneOf ["TRUE", "FALSE"])
  | "DELIMITER" | "QUOTE" | "ESCAPE" => literalOctet
  | "NULL" | "ENCODING" => discard literalText
  | _ => discard columnList

/-- An option of `COPY` for lines of separated values. -/
def copyLineOption : Parse Unit := do
  match ← expectOneOf ["HEADER", "QUOTE", "ESCAPE", "FORCE"] with
  | "HEADER" => pure ()
  | "FORCE" =>
    if !(← keywords ["NOT", "NULL"]) then expectKeyword "QUOTE"
    discard (commaSeparated identifier)
  | _ => do
    let _ ← keyword "AS"
    literalOctet

/-- An option of `COPY` without brackets. -/
def copyPlainOption : Parse Unit := do
  match ← expectOneOf ["BINARY", "DELIMITER", "NULL", "CSV"] with
  | "BINARY" => pure ()
  | "DELIMITER" =>
    let _ ← keyword "AS"
    literalOctet
  | "NULL" =>
    let _ ← keyword "AS"
    discard literalText
  | _ => discard (whileSome (attempt copyLineOption))

/-- What follows the data of a copied table, which end at a backslash and a point. -/
def behindData : List Located → List Located
  | [] => []
  | t :: ts =>
    if t.token.isSign "\\" then
      match ts with
      | u :: us => if u.token.isSign "." then us else behindData us
      | [] => []
    else behindData ts

/-- `COPY`. -/
def copyForm : Parse (List Expr) := do
  let query ← givenThat (sign "(") g.query
  if query.isSome then expectSign ")"
  else
    let _ ← objectName
    let _ ← optionalColumnList
  let direction ← expectOneOf ["FROM", "TO"]
  if direction = "FROM" && query.isSome then fail
  else
    let fromInput ← keyword "STDIN"
    if !fromInput && !(← keyword "STDOUT") then
      let _ ← keyword "PROGRAM"
      let _ ← literalText
    let _ ← keyword "WITH"
    let _ ← optionalBrackets (commaSeparated copyOption)
    let _ ← whileSome (attempt copyPlainOption)
    if fromInput then
      expectSign ";"
      goTo (behindData (← rest))
    pure (query.map Expr.subquery).toList

/-- `UNLOAD`. -/
def unloadForm : Parse (List Expr) := do
  let q ← inBrackets g.query
  expectKeyword "TO"
  let _ ← identifier
  pure (.subquery q :: (← optionsBehind g "WITH"))

/-- What is kept of a table: options, and the query that it is made of. -/
def cachedForm : Parse (List Expr) := do
  let _ ← objectName
  let options ← if ← peekKeyword "OPTIONS" then optionsBehind g "OPTIONS" else pure []
  if (← peek).isNone then pure options
  else
    let _ ← keyword "AS"
    pure (options ++ [.subquery (← g.query)])

/-- `CACHE`. -/
def cacheForm : Parse (List Expr) := do
  if !(← keyword "TABLE") then
    let _ ← objectName
    expectKeyword "TABLE"
  cachedForm g

/-! ### Rights -/

/-- One right. -/
def privilege : Parse Unit := do
  let plain := ["CONNECT", "CREATE", "DELETE", "EXECUTE", "TEMPORARY", "TRIGGER", "TRUNCATE",
    "USAGE"]
  let k ← expectOneOf (plain ++ ["INSERT", "REFERENCES", "SELECT", "UPDATE"])
  if plain.contains k then pure () else discard optionalColumnList

/-- Rights, and the objects that they are for. -/
def privilegesForm : Parse Unit := do
  if ← keyword "ALL" then
    let _ ← keyword "PRIVILEGES"
  else
    let _ ← commaSeparated privilege
  expectKeyword "ON"
  if !(← keywords ["ALL", "TABLES", "IN", "SCHEMA"]) then
    if !(← keywords ["ALL", "SEQUENCES", "IN", "SCHEMA"]) then
      let _ ← oneOf ["SEQUENCE", "SCHEMA", "TABLE"]
  let _ ← commaSeparated objectName

/-- `GRANT`. -/
def grantForm : Parse Unit := do
  privilegesForm
  expectKeyword "TO"
  let _ ← commaSeparated identifier
  let _ ← keywords ["WITH", "GRANT", "OPTION"]
  discard (givenThat (keywords ["GRANTED", "BY"]) identifier)

/-- `REVOKE`. -/
def revokeForm : Parse Unit := do
  privilegesForm
  expectKeyword "FROM"
  let _ ← commaSeparated identifier
  let _ ← givenThat (keywords ["GRANTED", "BY"]) identifier
  discard (oneOf ["CASCADE", "RESTRICT"])

/-! ### The care of tables -/

/-- A clause of `ANALYZE`, if one follows. -/
def analyzeClause : Parse (Option (List Expr)) := do
  match ← oneOf ["PARTITION", "FOR", "CACHE", "NOSCAN", "COMPUTE"] with
  | some "PARTITION" => do pure (some (← inBrackets (commaSeparated g.expr)))
  | some "FOR" => do
    expectKeyword "COLUMNS"
    let _ ← attempt (commaSeparated identifier)
    pure (some [])
  | some "CACHE" => do
    expectKeyword "METADATA"
    pure (some [])
  | some "COMPUTE" => do
    expectKeyword "STATISTICS"
    pure (some [])
  | some _ => pure (some [])
  | none => pure none

/-- `ANALYZE`. -/
def analyzeForm : Parse (List Expr) := do
  expectKeyword "TABLE"
  let _ ← objectName
  pure (← whileSome (analyzeClause g)).flatten

/-- `OPTIMIZE`. -/
def optimizeForm : Parse (List Expr) := do
  expectKeyword "TABLE"
  let _ ← objectName
  onCluster
  let partition ← listedAfter (keyword "PARTITION") do
    if ← keyword "ID" then
      let _ ← identifier
      pure []
    else pure [← g.expr]
  let _ ← keyword "FINAL"
  let keys ← listedAfter (keyword "DEDUPLICATE") do
    if ← keyword "BY" then pure [← g.expr] else pure []
  pure (partition ++ keys)

/-- `MSCK`. -/
def repairForm : Parse Unit := do
  let _ ← keyword "REPAIR"
  expectKeyword "TABLE"
  let _ ← objectName
  discard <| attempt do
    let _ ← oneOf ["ADD", "DROP", "SYNC"]
    expectKeyword "PARTITIONS"

/-- Tables behind `FLUSH TABLES`, up to a sign, which is taken. -/
def flushedTables : Parse Unit :=
  discard <| whileSome do
    match ← rest with
    | [] => pure none
    | t :: ts =>
      match t.token with
      | .word .. => do
        if t.token.isKeyword "WITH" then
          goTo ts
          let _ ← keywords ["READ", "LOCK"]
        else if t.token.isKeyword "FOR" then
          goTo ts
          let _ ← keyword "EXPORT"
        else if t.token.isPlainWord then
          let _ ← commaSeparated objectName
        else goTo ts
        pure (some ())
      | _ => do
        goTo ts
        pure none

/-- `FLUSH`. -/
def flushForm : Parse Unit := do
  let _ ← oneOf ["LOCAL", "NO_WRITE_TO_BINLOG"]
  match ← expectOneOf ["BINARY", "ENGINE", "ERROR", "GENERAL", "SLOW", "RELAY", "HOSTS",
      "PRIVILEGES", "LOGS", "OPTIMIZER_COSTS", "STATUS", "USER_RESOURCES", "TABLES"] with
  | "BINARY" | "ENGINE" | "ERROR" | "GENERAL" | "SLOW" => expectKeyword "LOGS"
  | "RELAY" => do
    expectKeyword "LOGS"
    discard (givenThat (keywords ["FOR", "CHANNEL"]) objectName)
  | "TABLES" => flushedTables
  | _ => pure ()

/-- `COMMENT`. -/
def commentForm : Parse Unit := do
  let _ ← keywords ["IF", "EXISTS"]
  expectKeyword "ON"
  let _ ← expectOneOf ["TABLE", "COLUMN", "EXTENSION", "SCHEMA", "DATABASE", "USER", "ROLE"]
  let _ ← objectName
  expectKeyword "IS"
  if ← keyword "NULL" then pure () else discard literalText

/-- `PRAGMA`. -/
def pragmaForm : Parse Unit := do
  let setting : Parse Unit := do
    match ← value with
    | .text .plain _ | .text .doubled _ | .number .. | .placeholder _ => pure ()
    | _ => fail
  let _ ← objectName
  if ← sign "(" then
    setting
    expectSign ")"
  else if ← sign "=" then setting

end FocusBilling.Sql
