import FocusBilling.Sql.Definition

/-!
# Reading statements about a session

* `Sql.beginForm`, `Sql.endForm`, `Sql.rollbackForm` : where transactions start and end;
* `Sql.setForm` : variables that are set;
* `Sql.showForm` : what is listed, tables among it.
-/

namespace FocusBilling.Sql

open Parse

variable (g : Grammar)

/-! ### Transactions -/

/-- One mode of a transaction, if one follows. -/
def transactionMode : Parse Bool := do
  if ← keywords ["ISOLATION", "LEVEL"] then
    if ← keywords ["READ", "UNCOMMITTED"] then pure true
    else if ← keywords ["READ", "COMMITTED"] then pure true
    else if ← keywords ["REPEATABLE", "READ"] then pure true
    else
      expectKeyword "SERIALIZABLE"
      pure true
  else if ← keywords ["READ", "ONLY"] then pure true
  else keywords ["READ", "WRITE"]

/-- The modes of a transaction; behind a comma one must follow. -/
def transactionModes : Parse Unit :=
  discard <| iterate (fun (required : Bool) => do
    if ← transactionMode then pure (some (← sign ","))
    else if required then fail
    else pure none) false

/-- `BEGIN` behind its keyword. -/
def beginForm : Parse Unit := do
  let _ ← oneOf ["DEFERRED", "IMMEDIATE", "EXCLUSIVE"]
  let _ ← oneOf ["TRANSACTION", "WORK"]
  transactionModes

/-- Whether a transaction follows the one that ends. -/
def chainForm : Parse Unit := do
  let _ ← oneOf ["TRANSACTION", "WORK"]
  if ← keyword "AND" then
    let _ ← keyword "NO"
    expectKeyword "CHAIN"

/-- `END` behind its keyword. -/
def endForm : Parse Unit := do
  let _ ← oneOf ["TRY", "CATCH"]
  chainForm

/-- `ROLLBACK` behind its keyword. -/
def rollbackForm : Parse Unit := do
  chainForm
  if ← keyword "TO" then
    let _ ← keyword "SAVEPOINT"
    let _ ← identifier

/-! ### Variables -/

/-- A role behind `SET`. -/
def roleForm : Parse Unit := do
  expectKeyword "ROLE"
  if ← keyword "NONE" then pure ()
  else
    let _ ← identifier

/-- What a variable is set to. -/
def settingValue : Parse Expr := do
  if ← peekQuery then pure (.subquery (← g.query)) else g.expr

/-- The values behind a variable, which an equality sign or `TO` opens. -/
def settingValues (isListed : Bool) : Parse (List Expr) := do
  if isListed then expectSign "("
  let first ← settingValue g
  let others ← whileSome (givenThat (sign ",") (settingValue g))
  if isListed then expectSign ")"
  pure (first :: others)

/-- Whether a name is an unquoted word, in any case. -/
def Name.isWord (n : Name) (word : String) : Bool := n.quote.isNone && Text.upper n.text == word

/-- `SET` behind its keyword. -/
def setForm : Parse (List Expr) := do
  let scope ← oneOf ["SESSION", "LOCAL", "HIVEVAR"]
  let role ← if scope = some "HIVEVAR" then (do
      expectSign ":"
      pure none)
    else attempt roleForm
  if role.isSome then pure []
  else
    let isZone ← keywords ["TIME", "ZONE"]
    let isListed ← if isZone then pure false else sign "("
    let target ← if isZone then pure [⟨"TIMEZONE", none, .nowhere⟩]
      else if isListed then (do
        let names ← commaSeparated identifier
        expectSign ")"
        pure names)
      else objectName
    let isNamed (word : String) : Bool := match target with
      | [n] => !isListed && n.isWord word
      | _ => false
    if isNamed "NAMES" then
      if ← keyword "DEFAULT" then pure []
      else
        let _ ← literalText
        let _ ← givenThat (keyword "COLLATE") literalText
        pure []
    else if ← (do if ← sign "=" then pure true else keyword "TO") then settingValues g isListed
    else if isNamed "TIMEZONE" then pure [← g.expr]
    else if isNamed "CHARACTERISTICS" then
      expectKeywords ["AS", "TRANSACTION"]
      transactionModes
      pure []
    else if isNamed "TRANSACTION" && scope.isNone then
      if ← keyword "SNAPSHOT" then
        let _ ← value
        pure []
      else
        transactionModes
        pure []
    else fail

/-! ### Lists of objects -/

/-- In what objects are listed. -/
def showPlace : Parse Unit := do
  if (← oneOf ["FROM", "IN"]).isSome then
    if (← oneOf ["ACCOUNT", "DATABASE", "SCHEMA", "TABLE", "VIEW"]).isSome then
      let opensLater := (← peekKeyword "LIMIT") || ((← peekKeyword "STARTS") &&
        ((← peekAt 1).any (Token.isKeyword "WITH")))
      if !opensLater then
        let _ ← attempt objectName
    else
      let _ ← objectName
      if (← oneOf ["FROM", "IN"]).isSome then
        let _ ← identifier

/-- Which objects are listed. -/
def showFilter : Parse (List Expr) := do
  if (← oneOf ["LIKE", "ILIKE"]).isSome then
    let _ ← literalText
    pure []
  else if ← keyword "WHERE" then pure [← g.expr]
  else
    let _ ← attempt literalText
    pure []

/-- In what, which and how many objects are listed. -/
def showOptions : Parse (List Expr) := do
  showPlace
  let filter ← showFilter g
  let _ ← givenThat (keywords ["STARTS", "WITH"]) value
  let limit ← givenThat (keyword "LIMIT") g.expr
  let _ ← givenThat (keyword "FROM") value
  pure (filter ++ limit.toList)

/-- Everything up to an equality sign or the end. -/
def restOfShow : Parse Unit :=
  discard <| whileSome do
    match ← peek with
    | none => pure none
    | some t =>
      if t.isSign "=" then pure none
      else
        let _ ← next
        pure (some ())

/-- `SHOW` behind its keyword. -/
def showForm : Parse Statement := do
  let _ ← keyword "TERSE"
  let extended ← keyword "EXTENDED"
  let full ← keyword "FULL"
  let _ ← keyword "SESSION"
  let _ ← keyword "GLOBAL"
  let _ ← keyword "EXTERNAL"
  if (← oneOf ["COLUMNS", "FIELDS"]).isSome then pure (.other (← showOptions g))
  else if ← keyword "TABLES" then pure (.showTables (← showOptions g))
  else if ← keywords ["MATERIALIZED", "VIEWS"] then pure (.other (← showOptions g))
  else if ← keyword "VIEWS" then pure (.other (← showOptions g))
  else if ← keyword "FUNCTIONS" then pure (.other (← showFilter g))
  else if extended || full then fail
  else if ← keyword "CREATE" then
    let _ ← expectOneOf ["TABLE", "TRIGGER", "FUNCTION", "PROCEDURE", "EVENT", "VIEW"]
    let _ ← objectName
    pure (.other [])
  else if (← oneOf ["COLLATION", "VARIABLES", "STATUS"]).isSome then
    pure (.other (← showFilter g))
  else if (← oneOf ["DATABASES", "SCHEMAS"]).isSome then
    let _ ← keyword "HISTORY"
    pure (.other (← showOptions g))
  else
    restOfShow
    pure (.other [])

/-! ### Plans of statements -/

/-- An option of a plan, perhaps with a value. -/
def planOption : Parse (List Expr) := do
  let _ ← identifier
  if (← peekSign ",") || (← peekSign ")") then pure [] else pure [← g.expr]

/-- `EXPLAIN`, or another word for it, behind its keyword: the plan of a statement, or a table. -/
def explainForm (isExplain : Bool) : Parse Statement := do
  let options ← if isExplain && (← peekSign "(") then
      (do pure (← inBrackets (commaSeparated (planOption g))).flatten)
    else do
      if ← keywords ["QUERY", "PLAN"] then pure []
      else if ← keyword "ESTIMATE" then pure []
      else
        let _ ← keyword "ANALYZE"
        let _ ← keyword "VERBOSE"
        if ← keyword "FORMAT" then
          let _ ← expectOneOf ["TEXT", "GRAPHVIZ", "JSON"]
        pure []
  match ← attempt g.statement with
  | some (.explain ..) | some (.describe _) => fail
  | some s => pure (.explain s options)
  | none => do
    let _ ← oneOf ["EXTENDED", "FORMATTED"]
    let _ ← keyword "TABLE"
    pure (.describe (← objectName))

end FocusBilling.Sql
