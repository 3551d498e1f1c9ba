import FocusBilling.Sql.Change

/-!
# Reading queries

* `Sql.selectForm` : a plain `SELECT`;
* `Sql.queryIn` : a query with its nested forms read by a grammar one level down.
-/

namespace FocusBilling.Sql

open Parse

variable (g : Grammar)

/-! ### Clauses -/

/-- What stands behind `TOP`. -/
def topForm : Parse (Option Expr) := givenThat (keyword "TOP") do
  let n ← if ← peekSign "(" then inBrackets g.expr
    else do
      let t ← peek
      let _ ← wholeNumber
      match t with
      | some (.number s long) => pure (.value (.number s long))
      | _ => fail
  let _ ← keyword "PERCENT"
  let _ ← keywords ["WITH", "TIES"]
  pure n

/-- What stands between `SELECT` and the list of columns: how rows are merged, and by what. -/
def distinctForm : Parse (Distinct × List Expr) := do
  let all ← keyword "ALL"
  let distinct ← keyword "DISTINCT"
  if all && distinct then fail
  else if !distinct then pure (.keepAll, [])
  else if ← keyword "ON" then
    expectSign "("
    let keys ← if ← peekSign ")" then pure [] else commaSeparated g.expr
    expectSign ")"
    pure (.on, keys)
  else pure (.distinct, [])

/-- Keys in brackets, perhaps none; without brackets one key may stand alone. -/
def keyTuple (liftsOne : Bool) : Parse (List Expr) := do
  if ← sign "(" then
    if ← sign ")" then pure []
    else
      let xs ← commaSeparated g.expr
      expectSign ")"
      pure xs
  else if liftsOne then pure [← g.expr]
  else fail

/-- A key of groups. -/
def groupKey : Parse Expr := do
  let sets (label : String) (liftsOne : Bool) : Parse Expr := do
    let found ← inBrackets (commaSeparated (keyTuple g liftsOne))
    pure (.groupingSets label found.flatten)
  if ← keywords ["GROUPING", "SETS"] then sets "GroupingSets" false
  else if ← keyword "CUBE" then sets "Cube" true
  else if ← keyword "ROLLUP" then sets "Rollup" true
  else
    let empty := (← peekSign "(") && ((← peekAt 1).any (Token.isSign ")"))
    if empty then
      let _ ← next
      let _ ← next
      pure (.tuple [])
    else g.expr

/-- What stands behind `GROUP BY`: whether all columns are keys, whether there are groups of groups,
and the keys. -/
def groupForm : Parse (Bool × Bool × List Expr) := do
  if ← keywords ["GROUP", "BY"] then
    let (byAll, keys) ← if ← keyword "ALL" then pure (true, [])
      else (do pure (false, ← commaSeparated (groupKey g)))
    let found ← whileSome (givenThat (keyword "WITH") (expectOneOf ["ROLLUP", "CUBE", "TOTALS"]))
    pure (byAll, !found.isEmpty, keys)
  else pure (false, false, [])

/-- Expressions behind keywords, if these follow. -/
def listBehind (ks : List String) : Parse (List Expr) :=
  listedAfter (keywords ks) (commaSeparated g.expr)

/-- An expression behind a keyword, if it follows. -/
def exprBehind (k : String) : Parse (Option Expr) := givenThat (keyword k) g.expr

/-- Lateral views. -/
def lateralViews : Parse (List Expr) := whileSome <| givenThat (keywords ["LATERAL", "VIEW"]) do
  let _ ← keyword "OUTER"
  let e ← g.expr
  let _ ← objectName
  let _ ← commaSeparated (optionalAlias ["WHERE", "GROUP", "CLUSTER", "HAVING", "LATERAL"])
  pure e

/-- Named windows. -/
def windowsForm : Parse (List Expr) := do
  let found ← commaSeparated do
    let _ ← identifier
    expectKeyword "AS"
    if ← sign "(" then
      let w ← windowSpec g (intervalForm (operandIn g))
      pure (w.partition ++ w.order.flatMap (fun k => k.value :: k.fill) ++ w.frame)
    else
      let _ ← identifier
      pure []
  pure found.flatten

/-- Named windows and the condition on windows, in either order. -/
def windowClauses : Parse (List Expr × Option Expr) := do
  if ← keyword "WINDOW" then
    let windows ← windowsForm g
    pure (windows, ← exprBehind g "QUALIFY")
  else if ← keyword "QUALIFY" then
    let condition ← g.expr
    pure (← listedAfter (keyword "WINDOW") (windowsForm g), some condition)
  else pure ([], none)

/-- How rows follow one another in a hierarchy. -/
def hierarchyKeys : Parse (List Expr) := do
  let before := (← get).inHierarchy
  modify fun r => { r with inHierarchy := true }
  let leave : Parse Unit := modify fun r => { r with inHierarchy := before }
  let keys ← tryCatch (commaSeparated g.expr) fun e => do
    leave
    throw e
  leave
  pure keys

/-- The start of a hierarchy, and how rows follow one another in it. -/
def hierarchyForm : Parse (List Expr) := do
  if ← peekOneOf ["START", "CONNECT"] then
    if ← keywords ["CONNECT", "BY"] then
      let keys ← hierarchyKeys g
      expectKeywords ["START", "WITH"]
      pure ((← g.expr) :: keys)
    else
      expectKeywords ["START", "WITH"]
      let condition ← g.expr
      expectKeywords ["CONNECT", "BY"]
      pure (condition :: (← hierarchyKeys g))
  else pure []

/-- A plain `SELECT`. -/
def selectForm : Parse Select := do
  expectKeyword "SELECT"
  let (merging, distinctKeys) ← distinctForm g
  let top ← topForm g
  let items ← selectItems g
  if ← keyword "INTO" then
    let _ ← oneOf ["TEMP", "TEMPORARY"]
    let _ ← keyword "UNLOGGED"
    let _ ← keyword "TABLE"
    let _ ← objectName
  let tables ← listedAfter (keyword "FROM") (commaSeparated (tableAndJoins g))
  let views ← lateralViews g
  let prewhere ← exprBehind g "PREWHERE"
  let filter ← exprBehind g "WHERE"
  let (groupsByAll, hasSuperGroups, groupKeys) ← groupForm g
  let cluster ← listBehind g ["CLUSTER", "BY"]
  let distribute ← listBehind g ["DISTRIBUTE", "BY"]
  let sort ← listBehind g ["SORT", "BY"]
  let having ← exprBehind g "HAVING"
  let (windows, qualify) ← windowClauses g
  let hierarchy ← hierarchyForm g
  pure ⟨merging, distinctKeys, top, items, tables.flatten, views, prewhere, filter, groupsByAll,
    hasSuperGroups, groupKeys, cluster ++ distribute ++ sort, having, windows, qualify, hierarchy⟩

/-! ### Bodies -/

/-- The set operator that is next, and how tight it binds. -/
def setOp? : Option Token → Option (SetOp × Nat)
  | some t =>
    match t.keyword? with
    | some "UNION" => some (.union, 10)
    | some "EXCEPT" => some (.except, 10)
    | some "INTERSECT" => some (.intersect, 20)
    | _ => none
  | none => none

/-- What may stand behind a set operator. -/
def setQuantifier (op : SetOp) : Parse SetQuantifier := do
  let byName := if op = .union then keywords ["BY", "NAME"] else pure false
  if op = .union && (← keywords ["DISTINCT", "BY", "NAME"]) then pure .distinctByName
  else if ← byName then pure .byName
  else if ← keyword "ALL" then
    if ← byName then pure .allByName else pure .all
  else if ← keyword "DISTINCT" then pure .distinct
  else pure .unsaid

/-- The body of a query without set operators behind it. -/
def simpleBody : Parse Body := do
  if ← peekKeyword "SELECT" then pure (.select (← selectForm g))
  else if ← sign "(" then
    let q ← g.query
    expectSign ")"
    pure (.nested q)
  else if ← keyword "VALUES" then
    let (sizes, cells) ← rowsForm g
    pure (.rows sizes cells)
  else if ← keyword "TABLE" then
    let ts ← rest
    goTo (ts.drop 3)
    match ts.map Located.token with
    | .word s _ :: .sign "." :: .word t _ :: _ => pure (.table [s, t])
    | .word _ _ :: .sign "." :: _ => fail
    | .word s _ :: _ => pure (.table [s])
    | _ => fail
  else fail

/-- The body of a query whose set operators bind tighter than a bound; the bound grows at each
level, so few levels are enough. -/
def bodyFrom : Nat → Nat → Parse Body
  | 0, _ => fail
  | n + 1, bound => do
    let first ← simpleBody g
    iterate (fun left => do
      match setOp? (← peek) with
      | some (op, p) => do
        if p ≤ bound then pure none
        else
          let _ ← next
          let quantifier ← setQuantifier op
          pure (some (.setOperation op quantifier left (← bodyFrom n p)))
      | none => pure none) first

/-! ### Queries -/

/-- A query with a name. -/
def namedQuery : Parse (TableLabel × Query) := do
  let name ← identifier
  let columns ← if ← keyword "AS" then pure []
    else do
      let found ← optionalBrackets <| commaSeparated do
        let n ← identifier
        let _ ← attempt typeName
        pure n
      expectKeyword "AS"
      pure (found.getD [])
  let q ← inBrackets g.query
  if ← keyword "FROM" then
    let _ ← identifier
  pure (⟨name, columns⟩, q)

/-- What stands behind `FETCH`. -/
def fetchForm : Parse Unit := do
  if ← keyword "FETCH" then
    let _ ← expectOneOf ["FIRST", "NEXT"]
    if (← oneOf ["ROW", "ROWS"]).isNone then
      let _ ← value
      let _ ← keyword "PERCENT"
      let _ ← expectOneOf ["ROW", "ROWS"]
    if ← keyword "ONLY" then pure () else need (keywords ["WITH", "TIES"])

/-- Words behind commas in a document clause. -/
def documentOptions (forXml : Bool) : Parse Unit := do
  let _ ← whileSome <| givenThat (sign ",") do
    if ← keyword "ROOT" then
      let _ ← inBrackets literalText
    else if forXml then
      if ← keyword "ELEMENTS" then pure ()
      else if ← keyword "BINARY" then expectKeyword "BASE64"
      else
        let _ ← keyword "TYPE"
    else
      let _ ← oneOf ["INCLUDE_NULL_VALUES", "WITHOUT_ARRAY_WRAPPER"]

/-- Locks on rows, or the form in which rows are given, behind `FOR`; whether the latter. -/
def forForm : Parse Bool := do
  if ← keyword "XML" then
    match ← expectOneOf ["RAW", "AUTO", "EXPLICIT", "PATH"] with
    | "RAW" | "PATH" => do
      let _ ← optionalBrackets literalText
    | _ => pure ()
    documentOptions true
    pure true
  else if ← keyword "JSON" then
    let _ ← expectOneOf ["AUTO", "PATH"]
    documentOptions false
    pure true
  else if ← keyword "BROWSE" then pure true
  else
    let _ ← expectOneOf ["UPDATE", "SHARE"]
    let _ ← givenThat (keyword "OF") objectName
    if ← keyword "NOWAIT" then pure false
    else
      let _ ← keywords ["SKIP", "LOCKED"]
      pure false

/-- Clauses behind `FOR`, up to one that gives rows a form. -/
def forClauses : Parse Unit := do
  let _ ← iterate (fun (done : Bool) => do
    if done then pure none
    else givenThat (keyword "FOR") forForm) false

/-- A row count and an offset, in either order. -/
def limitForm : Parse (Option Expr × Option Expr) := do
  let step (found : Option Expr × Option Expr) : Parse (Option Expr × Option Expr) := do
    let (limit, offset) := found
    let limit ← if limit.isNone && (← keyword "LIMIT") then
        if ← keyword "ALL" then pure none else (do pure (some (← g.expr)))
      else pure limit
    let offset ← if offset.isNone && (← keyword "OFFSET") then do
        let e ← g.expr
        let _ ← oneOf ["ROW", "ROWS"]
        pure (some e)
      else pure offset
    if limit.isSome && offset.isNone && (← sign ",") then
      pure (some (← g.expr), limit)
    else pure (limit, offset)
  step (← step (none, none))

/-- Expressions that fill in rows of an order. -/
def interpolations : Parse (List Expr) := do
  if ← keyword "INTERPOLATE" then
    if ← sign "(" then
      let found ← commaSeparatedUntil ")" do
        let _ ← identifier
        givenThat (keyword "AS") g.expr
      expectSign ")"
      pure (found.filterMap id)
    else pure []
  else pure []

/-- A query. -/
def queryIn : Parse Query := do
  let (isRecursive, queries) ← if ← keyword "WITH" then do
      let recursive ← keyword "RECURSIVE"
      pure (recursive, ← commaSeparated (namedQuery g))
    else pure (false, [])
  let names := queries.map (·.1)
  let named := queries.map (·.2)
  let changing (parts : List Expr) : Query :=
    { Query.ofBody (.change parts) with names, isRecursive, named }
  if ← keyword "INSERT" then pure (changing (← insertForm g))
  else if ← keyword "UPDATE" then pure (changing (← updateForm g))
  else
    let body ← bodyFrom g 4 0
    let isOrdered ← keywords ["ORDER", "BY"]
    let orderBy ← if isOrdered then commaSeparated (orderKey g) else pure []
    let interpolated ← if isOrdered then interpolations g else pure []
    let (limit, offset) ← limitForm g
    let limitBy ← listedAfter (keyword "BY") (commaSeparated g.expr)
    let _ ← settingsForm
    fetchForm
    forClauses
    if ← keyword "FORMAT" then
      let _ ← identifier
    pure ⟨names, isRecursive, named, body, orderBy, interpolated, limit, limitBy, offset⟩

end FocusBilling.Sql
