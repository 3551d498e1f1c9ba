import FocusBilling.Sql.Selection

/-!
# Reading statements that define tables

* `Sql.createForm` : tables, views and indexes that are made;
* `Sql.dropForm` : objects that are taken away;
* `Sql.alterForm` : tables that are changed in their definition.
-/

namespace FocusBilling.Sql

open Parse

variable (g : Grammar)

/-! ### Options -/

/-- An option with its value. -/
def optionForm : Parse (List Expr) := do
  if ← keyword "HEAP" then pure []
  else
    let _ ← identifier
    expectSign "="
    pure [← g.expr]

/-- Options behind a keyword, if it follows. -/
def optionsBehind (k : String) : Parse (List Expr) := do
  if ← keyword k then
    let found ← inBrackets (commaSeparatedUntil ")" (optionForm g))
    pure found.flatten
  else pure []

/-- The cluster on which a statement is carried out, if it is said. -/
def onCluster : Parse Unit := do
  if ← keywords ["ON", "CLUSTER"] then
    let _ ← identifier

/-! ### Columns and constraints -/

/-- When a constraint is checked, as far as it is said. -/
def constraintTiming : Parse Unit := do
  let _ ← whileSome do
    if ← keywords ["NOT", "DEFERRABLE"] then pure (some ())
    else if ← keyword "DEFERRABLE" then pure (some ())
    else if ← keywords ["INITIALLY", "DEFERRED"] then pure (some ())
    else if ← keywords ["INITIALLY", "IMMEDIATE"] then pure (some ())
    else if ← keywords ["NOT", "ENFORCED"] then pure (some ())
    else if ← keyword "ENFORCED" then pure (some ())
    else pure none

/-- What happens where a row that others refer to is changed, as far as it is said. -/
def referentialActions : Parse Unit := do
  let _ ← whileSome do
    let found ← if ← keywords ["ON", "DELETE"] then pure true else keywords ["ON", "UPDATE"]
    if found then
      if ← keyword "RESTRICT" then pure (some ())
      else if ← keyword "CASCADE" then pure (some ())
      else if ← keywords ["SET", "NULL"] then pure (some ())
      else if ← keywords ["NO", "ACTION"] then pure (some ())
      else
        expectKeywords ["SET", "DEFAULT"]
        pure (some ())
    else pure none

/-- How a generated column gets its values. -/
def generatedForm : Parse (Option (List Expr)) := do
  let sequence : Parse (Option (List Expr)) := do
    if ← peekSign "(" then
      let found ← inBrackets <| whileSome do
        if ← peekSign ")" then pure none
        else
          let _ ← next
          pure (some ())
      pure (some (found.flatMap fun _ => []))
    else pure (some [])
  if ← keywords ["ALWAYS", "AS", "IDENTITY"] then sequence
  else if ← keywords ["BY", "DEFAULT", "AS", "IDENTITY"] then sequence
  else
    expectKeywords ["ALWAYS", "AS"]
    let e ← inBrackets g.expr
    let _ ← oneOf ["STORED", "VIRTUAL"]
    pure (some [e])

/-- One option of a column. -/
def columnOption : Parse (Option (List Expr)) := do
  if ← keywords ["CHARACTER", "SET"] then
    let _ ← objectName
    pure (some [])
  else if ← keywords ["NOT", "NULL"] then pure (some [])
  else if ← keyword "COMMENT" then
    match ← next with
    | .text .plain _ => pure (some [])
    | _ => fail
  else if ← keyword "NULL" then pure (some [])
  else if ← keyword "DEFAULT" then pure (some [← g.expr])
  else if ← keyword "MATERIALIZED" then pure (some [← g.expr])
  else if ← keyword "ALIAS" then pure (some [← g.expr])
  else if ← keyword "EPHEMERAL" then
    if (← peekSign ",") || (← peekSign ")") then pure (some []) else pure (some [← g.expr])
  else if ← keywords ["PRIMARY", "KEY"] then
    constraintTiming
    pure (some [])
  else if ← keyword "UNIQUE" then
    constraintTiming
    pure (some [])
  else if ← keyword "REFERENCES" then
    let _ ← objectName
    let _ ← optionalColumnList
    referentialActions
    constraintTiming
    pure (some [])
  else if ← keyword "CHECK" then pure (some [← inBrackets g.expr])
  else if ← keyword "AUTO_INCREMENT" then pure (some [])
  else if ← keyword "AUTOINCREMENT" then pure (some [])
  else if (← oneOf ["ASC", "DESC"]).isSome then pure (some [])
  else if ← keywords ["ON", "UPDATE"] then pure (some [← g.expr])
  else if ← keyword "GENERATED" then generatedForm g
  else if ← peekKeyword "OPTIONS" then pure (some (← optionsBehind g "OPTIONS"))
  else if ← keyword "AS" then
    let e ← inBrackets g.expr
    let _ ← oneOf ["STORED", "VIRTUAL"]
    pure (some [e])
  else if ← keyword "IDENTITY" then
    let _ ← optionalBrackets do
      let _ ← value
      expectSign ","
      value
    pure (some [])
  else pure none

/-- A column that is defined. -/
def columnForm : Parse (List Expr) := do
  let _ ← identifier
  let _ ← typeName
  if ← keyword "COLLATE" then
    let _ ← objectName
  let options ← whileSome do
    if ← keyword "CONSTRAINT" then
      let _ ← identifier
      match ← columnOption g with
      | some es => pure (some es)
      | none => fail
    else match ← columnOption g with
      | some es => pure (some es)
      | none =>
        if ← keyword "COLLATE" then
          let _ ← objectName
          pure (some [])
        else pure none
  pure options.flatten

/-- The name and the kind of an index, and its columns. -/
def indexedColumns : Parse Unit := do
  if !(← peekKeyword "USING") then
    let _ ← attempt identifier
  if ← keyword "USING" then
    let _ ← expectOneOf ["BTREE", "HASH"]
  let _ ← columnList
  if ← keyword "USING" then
    let _ ← expectOneOf ["BTREE", "HASH"]
  constraintTiming

/-- A constraint on a table, if one follows. -/
def tableConstraint : Parse (Option (List Expr)) := do
  let named ← keyword "CONSTRAINT"
  if named then
    let _ ← identifier
  if ← keyword "UNIQUE" then
    let _ ← oneOf ["KEY", "INDEX"]
    if ← keyword "NULLS" then
      let _ ← keyword "NOT"
      expectKeyword "DISTINCT"
    indexedColumns
    pure (some [])
  else if ← keyword "PRIMARY" then
    expectKeyword "KEY"
    indexedColumns
    pure (some [])
  else if ← keyword "FOREIGN" then
    expectKeyword "KEY"
    let _ ← columnList
    expectKeyword "REFERENCES"
    let _ ← objectName
    let _ ← columnList
    referentialActions
    constraintTiming
    pure (some [])
  else if ← keyword "CHECK" then pure (some [← inBrackets g.expr])
  else if !named && (← oneOf ["INDEX", "KEY"]).isSome then
    indexedColumns
    pure (some [])
  else if !named && (← oneOf ["FULLTEXT", "SPATIAL"]).isSome then
    let _ ← oneOf ["KEY", "INDEX"]
    let _ ← attempt identifier
    let _ ← columnList
    pure (some [])
  else if named then fail
  else pure none

/-- The columns and the constraints of a table, in brackets: their expressions. -/
def tableElements : Parse (List Expr × List Expr) := do
  if ← sign "(" then
    if ← sign ")" then pure ([], [])
    else
      let step (found : List Expr × List Expr × Bool) :
          Parse (Option (List Expr × List Expr × Bool)) := do
        let (columns, constraints, more) := found
        if !more then pure none
        else
          let (columns, constraints) ← match ← tableConstraint g with
            | some es => pure (columns, constraints ++ es)
            | none => do
              match ← peek with
              | some (.word ..) => do pure (columns ++ (← columnForm g), constraints)
              | _ => fail
          let comma ← sign ","
          let closing ← peekSign ")"
          if !comma && !closing then fail
          else if closing && (!comma || (← get).trailingCommas) then
            expectSign ")"
            pure (some (columns, constraints, false))
          else pure (some (columns, constraints, true))
      let (columns, constraints, _) ← iterate step ([], [], true)
      pure (columns, constraints)
  else pure ([], [])

/-! ### Statements -/

/-- `CREATE TABLE` behind these words. -/
def createTable : Parse Statement := do
  let ifMissing ← keywords ["IF", "NOT", "EXISTS"]
  let name ← objectName
  onCluster
  if (← oneOf ["LIKE", "ILIKE"]).isSome then
    let _ ← attempt objectName
  if ← keyword "CLONE" then
    let _ ← attempt objectName
  let (columns, constraints) ← tableElements g
  let _ ← keywords ["WITHOUT", "ROWID"]
  let partitioned ← listedAfter (keywords ["PARTITIONED", "BY"])
    (inBrackets (commaSeparated (columnForm g)))
  let before ← optionsBehind g "WITH"
  let properties ← optionsBehind g "TBLPROPERTIES"
  if ← keyword "ENGINE" then
    expectSign "="
    let _ ← identifier
    let _ ← optionalBrackets (commaSeparatedUntil ")" identifier)
  if ← keyword "AUTO_INCREMENT" then
    let _ ← sign "="
    let _ ← wholeNumber
  let key ← givenThat (keywords ["PRIMARY", "KEY"]) g.expr
  let order ← listedAfter (keywords ["ORDER", "BY"]) do
    if ← peekSign "(" then inBrackets (commaSeparatedUntil ")" g.expr) else pure [← g.expr]
  let partition ← givenThat (keywords ["PARTITION", "BY"]) g.expr
  if ← keywords ["CLUSTER", "BY"] then
    let _ ← commaSeparated identifier
  let late ← optionsBehind g "OPTIONS"
  if ← keywords ["DEFAULT", "CHARSET"] then
    expectSign "="
    let _ ← identifier
  if ← keyword "COLLATE" then
    expectSign "="
    let _ ← identifier
  if ← keywords ["ON", "COMMIT"] then
    if ← keyword "DROP" then pure ()
    else
      let _ ← expectOneOf ["DELETE", "PRESERVE"]
      expectKeyword "ROWS"
  let _ ← keyword "STRICT"
  if ← keyword "COMMENT" then
    let _ ← sign "="
    match ← next with
    | .text .plain _ => pure ()
    | _ => fail
  let parts := columns ++ constraints ++ partitioned.flatten ++ properties ++ before
  let behind := key.toList ++ order ++ partition.toList ++ late
  if ← keyword "AS" then pure (.createAs name ifMissing (← g.query) (parts ++ behind))
  else if ← peekKeyword "SELECT" then
    pure (.createAs name ifMissing (← g.query) (parts ++ behind))
  else pure (.other (parts ++ behind))

/-- `CREATE VIEW` behind these words. -/
def createView : Parse (List Expr) := do
  let _ ← keywords ["IF", "NOT", "EXISTS"]
  let _ ← objectName
  let columns ← optionalBrackets <| commaSeparatedUntil ")" do
    let _ ← identifier
    optionsBehind g "OPTIONS"
  let before ← optionsBehind g "WITH"
  if ← keywords ["CLUSTER", "BY"] then
    let _ ← optionalColumnList
  let options ← optionsBehind g "OPTIONS"
  let _ ← givenThat (keyword "TO") objectName
  if ← keyword "COMMENT" then
    expectSign "="
    let _ ← literalText
  expectKeyword "AS"
  let q ← g.query
  let _ ← keywords ["WITH", "NO", "SCHEMA", "BINDING"]
  pure ((columns.getD []).flatten ++ [.subquery q] ++ before ++ options)

/-- `CREATE INDEX` behind these words. -/
def createIndex : Parse (List Expr) := do
  let _ ← keyword "CONCURRENTLY"
  let ifMissing ← keywords ["IF", "NOT", "EXISTS"]
  let unnamed ← if ifMissing then pure false else keyword "ON"
  if !unnamed then
    let _ ← objectName
    expectKeyword "ON"
  let _ ← objectName
  let _ ← givenThat (keyword "USING") identifier
  let keys ← inBrackets (commaSeparated (orderKey g))
  let _ ← givenThat (keyword "INCLUDE") columnList
  if ← keyword "NULLS" then
    let _ ← keyword "NOT"
    expectKeyword "DISTINCT"
  let options ← listedAfter (keyword "WITH") (inBrackets (commaSeparated g.expr))
  let filter ← givenThat (keyword "WHERE") g.expr
  pure (keys.map (·.value) ++ options ++ filter.toList)

/-- `CREATE` behind its keyword. -/
def createForm : Parse Statement := do
  let replaces ← keywords ["OR", "REPLACE"]
  let _ ← keywords ["OR", "ALTER"]
  let _ ← keyword "LOCAL"
  let _ ← keyword "GLOBAL"
  let _ ← keyword "TRANSIENT"
  let _ ← oneOf ["TEMP", "TEMPORARY"]
  if ← keyword "TABLE" then createTable g
  else if ← keyword "MATERIALIZED" then
    expectKeyword "VIEW"
    pure (.other (← createView g))
  else if ← keyword "VIEW" then pure (.other (← createView g))
  else if replaces then fail
  else if ← keyword "INDEX" then pure (.other (← createIndex g))
  else if ← keywords ["UNIQUE", "INDEX"] then pure (.other (← createIndex g))
  else if ← keyword "SCHEMA" then
    let _ ← keywords ["IF", "NOT", "EXISTS"]
    if ← keyword "AUTHORIZATION" then
      let _ ← identifier
    else
      let _ ← objectName
      if ← keyword "AUTHORIZATION" then
        let _ ← identifier
    pure (.other [])
  else if ← keyword "DATABASE" then
    let _ ← keywords ["IF", "NOT", "EXISTS"]
    let _ ← objectName
    pure (.other [])
  else if ← keyword "EXTENSION" then
    let _ ← keywords ["IF", "NOT", "EXISTS"]
    let _ ← identifier
    pure (.other [])
  else if ← keyword "SEQUENCE" then
    let _ ← keywords ["IF", "NOT", "EXISTS"]
    let _ ← objectName
    pure (.other [])
  else if ← keyword "ROLE" then
    let _ ← keywords ["IF", "NOT", "EXISTS"]
    let _ ← commaSeparated objectName
    pure (.other [])
  else fail

/-- Kinds of objects that can be taken away. -/
def droppedKinds : List String :=
  ["TABLE", "VIEW", "INDEX", "ROLE", "SCHEMA", "DATABASE", "SEQUENCE", "STAGE", "TYPE"]

/-- `DROP` behind its keyword. -/
def dropForm : Parse Statement := do
  let _ ← keyword "TEMPORARY"
  let kind ← expectOneOf droppedKinds
  let ifExists ← keywords ["IF", "EXISTS"]
  let names ← commaSeparated objectName
  let cascade ← keyword "CASCADE"
  let restrict ← keyword "RESTRICT"
  let purge ← keyword "PURGE"
  if cascade && restrict then fail
  else if kind = "ROLE" && (cascade || restrict || purge) then fail
  else if kind = "TABLE" then pure (.dropTables names ifExists)
  else pure (.other [])

/-- One change of a table in its definition. -/
def alteration : Parse (List Expr) := do
  if ← keyword "ADD" then
    match ← tableConstraint g with
    | some es => pure es
    | none => do
      let _ ← keyword "COLUMN"
      let _ ← keywords ["IF", "NOT", "EXISTS"]
      columnForm g
  else if ← keyword "RENAME" then
    if ← keyword "TO" then
      let _ ← objectName
      pure []
    else
      let _ ← keyword "CONSTRAINT"
      let _ ← keyword "COLUMN"
      let _ ← identifier
      expectKeyword "TO"
      let _ ← identifier
      pure []
  else if ← keyword "DROP" then
    if ← keywords ["PRIMARY", "KEY"] then pure []
    else
      let constraint ← keyword "CONSTRAINT"
      if !constraint then
        let _ ← keyword "COLUMN"
      let _ ← keywords ["IF", "EXISTS"]
      let _ ← identifier
      let _ ← oneOf ["CASCADE", "RESTRICT"]
      pure []
  else if ← keyword "ALTER" then
    let _ ← keyword "COLUMN"
    let _ ← identifier
    if ← keywords ["SET", "NOT", "NULL"] then pure []
    else if ← keywords ["DROP", "NOT", "NULL"] then pure []
    else if ← keywords ["SET", "DEFAULT"] then pure [← g.expr]
    else if ← keywords ["DROP", "DEFAULT"] then pure []
    else
      if !(← keywords ["SET", "DATA", "TYPE"]) then expectKeyword "TYPE"
      let _ ← typeName
      let e ← givenThat (keyword "USING") g.expr
      pure e.toList
  else fail

/-- `ALTER` behind its keyword. -/
def alterForm : Parse (List Expr) := do
  if ← keyword "TABLE" then
    let _ ← keywords ["IF", "EXISTS"]
    let _ ← keyword "ONLY"
    let _ ← objectName
    onCluster
    pure (← commaSeparated (alteration g)).flatten
  else if ← keyword "VIEW" then
    let _ ← objectName
    let _ ← optionalColumnList
    let options ← optionsBehind g "WITH"
    expectKeyword "AS"
    pure (.subquery (← g.query) :: options)
  else
    expectKeyword "INDEX"
    let _ ← objectName
    expectKeywords ["RENAME", "TO"]
    let _ ← objectName
    pure []

/-- `TRUNCATE` behind its keyword. -/
def truncateForm : Parse Statement := do
  let _ ← keyword "TABLE"
  let _ ← keyword "ONLY"
  let names ← commaSeparated objectName
  let partition ← listedAfter (keyword "PARTITION") (inBrackets (commaSeparated g.expr))
  if !(← keywords ["RESTART", "IDENTITY"]) then
    let _ ← keywords ["CONTINUE", "IDENTITY"]
  let _ ← oneOf ["CASCADE", "RESTRICT"]
  onCluster
  pure (.truncate names partition)

end FocusBilling.Sql
