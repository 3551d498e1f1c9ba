import FocusBilling.Sql.Operator

/-!
# Reading tables

* `Sql.tablesFrom` : a table with its joins;
* `Sql.tableFactor` : one table: by its name, derived from a query, or out of a function.

A bracket in front of a table opens a query or a join in brackets; both are tried.
-/

namespace FocusBilling.Sql

open Parse

variable (g : Grammar)

/-- The name given to a table, and the names of its columns. -/
def tableLabel : Parse (Option TableLabel) := do
  match ← optionalAlias reservedForTable with
  | some name => do
    let columns ← optionalBrackets <| commaSeparated do
      let n ← identifier
      let _ ← attempt typeName
      pure n
    pure (some ⟨name, columns.getD []⟩)
  | none => pure none

/-- A derived table behind its opening bracket. -/
def derivedTable (lateral : Bool) : Parse Relation := do
  let q ← g.query
  expectSign ")"
  pure (.derived lateral q (← tableLabel))

/-- The settings of a query, if they follow. -/
def settingsForm : Parse Bool := do
  if ← keyword "SETTINGS" then
    let _ ← commaSeparated do
      let _ ← identifier
      expectSign "="
      value
    pure true
  else pure false

/-- The rows behind `VALUES`: how many values each has, and the values. -/
def rowsForm : Parse (List Nat × List Expr) := do
  let rows ← commaSeparated do
    let _ ← keyword "ROW"
    inBrackets (commaSeparated g.expr)
  pure (rows.map List.length, rows.flatten)

/-- The arguments of a table function up to the closing bracket, settings among them. -/
def tableArguments : Parse (List Expr) := do
  if ← sign ")" then pure []
  else
    let step (found : List Expr × Bool) : Parse (Option (List Expr × Bool)) := do
      let (args, more) := found
      if !more then pure none
      else if ← settingsForm then pure (some (args, false))
      else
        let (_, e) ← argument g
        pure (some (args ++ [e], ← moreEntries))
    let (args, _) ← iterate step ([], true)
    expectSign ")"
    pure args

/-! ### Columns of documents -/

/-- What is done where a column of a document is empty or wrong. -/
def documentFallback : Parse (Option Unit) := do
  let found ← if ← keyword "NULL" then pure true
    else if ← keyword "ERROR" then pure true
    else if ← keyword "DEFAULT" then (do
      let _ ← value
      pure true)
    else pure false
  if found then
    expectKeyword "ON"
    let _ ← expectOneOf ["EMPTY", "ERROR"]
    pure (some ())
  else pure none

/-- A column of a document; columns nested at most so deep. -/
def documentColumn : Nat → Parse Unit
  | 0 => fail
  | n + 1 => do
    if ← keyword "NESTED" then
      let _ ← keyword "PATH"
      let _ ← value
      expectKeyword "COLUMNS"
      let _ ← inBrackets (commaSeparated (documentColumn n))
    else
      let _ ← identifier
      if ← keyword "FOR" then expectKeyword "ORDINALITY"
      else
        let _ ← typeName
        let _ ← keyword "EXISTS"
        expectKeyword "PATH"
        let _ ← value
        let _ ← whileSome documentFallback

/-- A table out of a document, behind its keyword and an opening bracket. -/
def documentTable : Parse Relation := do
  let e ← g.expr
  expectSign ","
  let _ ← value
  expectKeyword "COLUMNS"
  let depth := (← rest).length + 1
  let _ ← inBrackets (commaSeparated (documentColumn depth))
  expectSign ")"
  pure (.composed [] [e] [] (← tableLabel))

/-- A table out of an open document, behind its keyword and an opening bracket. -/
def openDocumentTable : Parse Relation := do
  let e ← g.expr
  let _ ← givenThat (sign ",") value
  expectSign ")"
  if ← keyword "WITH" then
    let _ ← inBrackets <| commaSeparated do
      let _ ← identifier
      let _ ← typeName
      match ← peek with
      | some (.text .plain _) => do
        let _ ← next
      | _ => pure ()
      if ← keyword "AS" then expectKeyword "JSON"
  pure (.composed [] [e] [] (← tableLabel))

/-! ### Pivots -/

/-- A table turned by the values of a column, behind the keyword. -/
def pivotForm (table : Relation) : Parse Relation := do
  let interval := intervalForm (operandIn g)
  expectSign "("
  let totals ← commaSeparated do
    match ← next with
    | .word s q => do
      let c ← callBehind g interval [⟨s, q, .nowhere⟩] false
      let _ ← givenThat (keyword "AS") identifier
      pure (Expr.call c)
    | _ => fail
  expectKeyword "FOR"
  let _ ← objectName
  expectKeyword "IN"
  expectSign "("
  let (parts, queries) ←
    if ← keyword "ANY" then do
      let keys ← optionalOrder g
      pure (keys.flatMap fun k => k.value :: k.fill, [])
    else if ← peekQuery then (do pure ([], [← g.query]))
    else do
      let values ← commaSeparated do
        let e ← g.expr
        let _ ← givenThat (keyword "AS") identifier
        pure e
      pure (values, [])
  expectSign ")"
  let otherwise ← givenThat (keywords ["DEFAULT", "ON", "NULL"]) (inBrackets g.expr)
  expectSign ")"
  let all := totals ++ parts ++ queries.map Expr.subquery ++ otherwise.toList
  pure (.composed [⟨.listed, table, .none, []⟩] all [] (← tableLabel))

/-- Columns of a table turned to rows, behind the keyword. -/
def unpivotForm (table : Relation) : Parse Relation := do
  expectSign "("
  let _ ← identifier
  expectKeyword "FOR"
  let _ ← identifier
  expectKeyword "IN"
  let _ ← columnList
  expectSign ")"
  pure (.composed [⟨.listed, table, .none, []⟩] [] [] (← tableLabel))

/-- Pivots behind a table. -/
def pivots (table : Relation) : Parse Relation :=
  iterate (fun t => do
    match ← oneOf ["PIVOT", "UNPIVOT"] with
    | some "PIVOT" => do pure (some (← pivotForm g t))
    | some _ => do pure (some (← unpivotForm t))
    | none => pure none) table

/-! ### Patterns of rows -/

/-- A symbol of a pattern, or a pattern in brackets. -/
def patternSymbol (inner : Parse Unit) : Parse Unit := do
  let here ← rest
  match ← next with
  | .sign "^" => pure ()
  | .placeholder "$" => pure ()
  | .sign "\x7b" => do
    expectSign "-"
    let _ ← identifier
    expectSign "-"
    expectSign "\x7d"
  | .word "PERMUTE" none => do
    let _ ← columnList
  | .sign "(" => do
    inner
    expectSign ")"
  | _ => do
    goTo here
    let _ ← identifier

/-- How often a symbol is repeated, if it is said. -/
def patternRepeat : Parse (Option Unit) := do
  let number : Parse Unit := do
    match ← next with
    | .number .. => pure ()
    | _ => fail
  match ← peek with
  | some (.sign "*") | some (.sign "+") | some (.placeholder "?") => do
    let _ ← next
    pure (some ())
  | some (.sign "\x7b") => do
    let _ ← next
    if ← sign "," then
      number
      expectSign "\x7d"
      pure (some ())
    else
      number
      if ← sign "," then
        if ← sign "\x7d" then pure (some ())
        else
          number
          expectSign "\x7d"
          pure (some ())
      else
        expectSign "\x7d"
        pure (some ())
  | _ => pure none

/-- A pattern of rows, nested at most so deep. -/
def rowPattern : Nat → Parse Unit
  | 0 => fail
  | n + 1 => do
    let one : Parse Unit := do
      patternSymbol (rowPattern n)
      let _ ← whileSome patternRepeat
    let branch : Parse Unit := do
      one
      let _ ← whileSome do
        if (← peekSign ")") || (← peekSign "|") then pure none
        else
          one
          pure (some ())
    branch
    let _ ← whileSome (givenThat (sign "|") branch)

/-- Rows of a table that follow a pattern, behind the keyword. -/
def matchRows (table : Relation) : Parse Relation := do
  expectSign "("
  let partition ← listedAfter (keywords ["PARTITION", "BY"]) (commaSeparated g.expr)
  let order ← optionalOrder g
  let measures ← listedAfter (keyword "MEASURES") <| commaSeparated do
    let e ← g.expr
    let _ ← keyword "AS"
    let _ ← identifier
    pure e
  if ← keywords ["ONE", "ROW", "PER", "MATCH"] then pure ()
  else if ← keywords ["ALL", "ROWS", "PER", "MATCH"] then
    if ← keywords ["SHOW", "EMPTY", "MATCHES"] then pure ()
    else if ← keywords ["OMIT", "EMPTY", "MATCHES"] then pure ()
    else
      let _ ← keywords ["WITH", "UNMATCHED", "ROWS"]
  if ← keywords ["AFTER", "MATCH", "SKIP"] then
    if ← keywords ["PAST", "LAST", "ROW"] then pure ()
    else if ← keywords ["TO", "NEXT", "ROW"] then pure ()
    else if ← keywords ["TO", "FIRST"] then
      let _ ← identifier
    else if ← keywords ["TO", "LAST"] then
      let _ ← identifier
    else fail
  expectKeyword "PATTERN"
  let depth := (← rest).length + 1
  inBrackets (rowPattern depth)
  expectKeyword "DEFINE"
  let definitions ← commaSeparated do
    let _ ← identifier
    expectKeyword "AS"
    g.expr
  expectSign ")"
  let parts := partition ++ order.flatMap (fun k => k.value :: k.fill) ++ measures ++ definitions
  pure (.composed [⟨.listed, table, .none, []⟩] parts [] (← tableLabel))

/-! ### Tables -/

/-- The label of a table in brackets, which may stand inside or behind them. -/
def relabelled (table : Relation) (label : Option TableLabel) : Parse Relation := do
  match label with
  | none => pure table
  | some _ =>
    match table with
    | .table name none => pure (.table name label)
    | .function name args none => pure (.function name args label)
    | .derived lateral q none => pure (.derived lateral q label)
    | .joined ts none => pure (.joined ts label)
    | .unnest xs o none => pure (.unnest xs o label)
    | .composed ts xs qs none => pure (.composed ts xs qs label)
    | _ => fail

/-- A table behind an opening bracket; `nested` reads what stands in the bracket. -/
def bracketTable (nested : Parse (List Join)) : Parse Relation := do
  match ← attempt (derivedTable g false) with
  | some t => pivots g t
  | none => do
    match ← nested with
    | [⟨_, .joined ts l, _, _⟩] => do
      expectSign ")"
      pure (.joined [⟨.listed, .joined ts l, .none, []⟩] (← tableLabel))
    | [⟨_, t, _, _⟩] => do
      expectSign ")"
      relabelled t (← tableLabel)
    | ts => do
      expectSign ")"
      pure (.joined ts (← tableLabel))

/-- A table by its name, or a function, with hints, pivots and patterns behind it. -/
def namedTable : Parse Relation := do
  let name ← objectName
  if ← keyword "PARTITION" then
    let _ ← columnList
  let args ← givenThat (sign "(") (tableArguments g)
  let _ ← keywords ["WITH", "ORDINALITY"]
  let label ← tableLabel
  let here ← rest
  let hints ← if ← keyword "WITH" then
      if ← peekSign "(" then inBrackets (commaSeparated g.expr)
      else do
        goTo here
        pure []
    else pure []
  let table := match args, hints with
    | none, [] => Relation.table name label
    | none, hints => .composed [] hints [] label
    | some args, hints => .function name (args ++ hints) label
  let turned ← pivots g table
  if ← keyword "MATCH_RECOGNIZE" then matchRows g turned else pure turned

/-- One table; `nested` reads what stands in brackets. -/
def tableFactor (nested : Parse (List Join)) : Parse Relation := do
  if ← keyword "LATERAL" then
    if ← sign "(" then derivedTable g true
    else
      let name ← objectName
      expectSign "("
      let args ← if ← sign ")" then pure []
        else do
          let args ← commaSeparated (argument g)
          expectSign ")"
          pure (args.map (·.2))
      pure (.function name args (← tableLabel))
  else if ← keyword "TABLE" then
    let e ← inBrackets g.expr
    pure (.composed [] [e] [] (← tableLabel))
  else if ← sign "(" then bracketTable g nested
  else
    let opensBracket := (← peekAt 1).any (Token.isSign "(")
    if opensBracket && (← keyword "VALUES") then
      let (sizes, cells) ← rowsForm g
      pure (.derived false (.ofBody (.rows sizes cells)) (← tableLabel))
    else if ← keyword "UNNEST" then
      let arrays ← inBrackets (commaSeparated g.expr)
      let _ ← keywords ["WITH", "ORDINALITY"]
      let label ← tableLabel
      let withOffset ← keywords ["WITH", "OFFSET"]
      if withOffset then
        let _ ← optionalAlias reservedForColumn
      pure (.unnest arrays withOffset label)
    else if opensBracket && (← keyword "JSON_TABLE") then
      expectSign "("
      documentTable g
    else if opensBracket && (← keyword "OPENJSON") then
      expectSign "("
      openDocumentTable g
    else namedTable g

/-! ### Joins -/

/-- The condition of a join. -/
def joinCondition (natural : Bool) : Parse (ConstraintShape × List Expr) := do
  if natural then pure (.natural, [])
  else if ← keyword "ON" then pure (.on, [← g.expr])
  else if ← keyword "USING" then pure (.using (← columnList), [])
  else pure (.none, [])

/-- The words of a join that takes a condition; none where no join follows. -/
def joinWords : Parse (Option JoinKind) := do
  let joined (k : JoinKind) : Parse (Option JoinKind) := do
    expectKeyword "JOIN"
    pure (some k)
  if ← keyword "INNER" then joined .inner
  else if ← keyword "JOIN" then pure (some .inner)
  else match ← oneOf ["LEFT", "RIGHT", "ANTI", "SEMI", "FULL"] with
    | some "ANTI" => joined .anti
    | some "SEMI" => joined .semi
    | some "FULL" => do
      let _ ← keyword "OUTER"
      joined .full
    | some side => do
      let isLeft := side == "LEFT"
      match ← oneOf ["OUTER", "SEMI", "ANTI", "JOIN"] with
      | some "JOIN" => pure (some (if isLeft then .left else .right))
      | some "OUTER" => joined (if isLeft then .left else .right)
      | some "SEMI" => joined (if isLeft then .leftSemi else .rightSemi)
      | some _ => joined (if isLeft then .leftAnti else .rightAnti)
      | none => fail
    | none => pure none

/-- One more join behind a table. -/
def joinForm (nested : Parse (List Join)) : Parse (Option Join) := do
  let _ ← keyword "GLOBAL"
  if ← keyword "CROSS" then
    let k ← expectOneOf ["JOIN", "APPLY"]
    pure (some ⟨if k = "JOIN" then .cross else .crossApply, ← tableFactor g nested, .none, []⟩)
  else if ← keyword "OUTER" then
    expectKeyword "APPLY"
    pure (some ⟨.outerApply, ← tableFactor g nested, .none, []⟩)
  else if ← keyword "ASOF" then
    expectKeyword "JOIN"
    let t ← tableFactor g nested
    expectKeyword "MATCH_CONDITION"
    let near ← inBrackets g.expr
    let (shape, on) ← joinCondition g false
    pure (some ⟨.asof, t, shape, near :: on⟩)
  else
    let natural ← keyword "NATURAL"
    match ← joinWords with
    | some kind => do
      let t ← tableFactor g nested
      let (shape, on) ← joinCondition g natural
      pure (some ⟨kind, t, shape, on⟩)
    | none => if natural then fail else pure none

/-- A table with its joins, brackets around tables nested at most so deep. -/
def tablesFrom : Nat → Parse (List Join)
  | 0 => fail
  | n + 1 => do
    let first ← tableFactor g (tablesFrom n)
    let joins ← whileSome (joinForm g (tablesFrom n))
    pure (⟨.listed, first, .none, []⟩ :: joins)

/-- A table with its joins. -/
def tableAndJoins : Parse (List Join) := do tablesFrom g ((← rest).length + 1)

end FocusBilling.Sql
