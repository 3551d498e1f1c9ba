import FocusBilling.Sql.Parse

/-!
# Reading calls of functions

* `Sql.callBehind` : a call behind the name of its function: arguments, the order within a group,
  the window.
* `Sql.starOrExpr` : an expression, or a star for all columns, perhaps of one table.
* `Sql.orderKey` : an expression with its direction.
-/

namespace FocusBilling.Sql

open Parse

variable (g : Grammar)

/-! ### Orders -/

/-- Start, end and step of values that are filled in. -/
def fillForm : Parse (List Expr) := do
  if ← keywords ["WITH", "FILL"] then
    let start ← givenThat (keyword "FROM") g.expr
    let stop ← givenThat (keyword "TO") g.expr
    let step ← givenThat (keyword "STEP") g.expr
    pure (start.toList ++ stop.toList ++ step.toList)
  else pure []

/-- One key of an order, with its direction. -/
def orderKey : Parse OrderKey := do
  let value ← g.expr
  let ascending ← match ← oneOf ["ASC", "DESC"] with
    | some k => pure (some (k == "ASC"))
    | none => pure none
  let nullsFirst ←
    if ← keywords ["NULLS", "FIRST"] then pure (some true)
    else if ← keywords ["NULLS", "LAST"] then pure (some false)
    else pure none
  pure ⟨value, ascending, nullsFirst, ← fillForm g⟩

/-- The keys behind `ORDER BY`, if it follows. -/
def optionalOrder : Parse (List OrderKey) :=
  listedAfter (keywords ["ORDER", "BY"]) (commaSeparated (orderKey g))

/-! ### Arguments -/

/-- Names with points between them up to a star, at most so many; none where no star ends them. -/
def starPath : Nat → List Name → Parse (Option (List Name))
  | 0, _ => pure none
  | n + 1, path => do
    if ← sign "." then
      if ← sign "*" then pure (some path) else starPath n (path ++ [← identifier])
    else pure none

/-- An expression, all columns, or all columns of a table. -/
def starOrExpr : Parse Expr := do
  let ts ← rest
  let t ← nextLocated
  if t.token.isSign "*" then pure .star
  else
    let path ← match nameOf t with
      | some first => starPath ts.length [first]
      | none => pure none
    match path with
    | some path => pure (.starOf path)
    | none => do
      goTo ts
      g.expr

/-- Whether missing values are left out, where it is said. -/
def nullTreatment : Parse (Option Bool) := do
  match ← oneOf ["RESPECT", "IGNORE"] with
  | some k => do
    expectKeyword "NULLS"
    pure (some (k == "IGNORE"))
  | none => pure none

/-- An argument, perhaps behind its name. -/
def argument : Parse (Option (Name × NameSign) × Expr) := do
  let named ← attempt do
    let name ← identifier
    let mark ← if ← keyword "VALUE" then pure .word
      else if ← sign "=>" then pure .arrow
      else do
        expectSign ":="
        pure NameSign.assignment
    pure (some (name, mark), ← starOrExpr g)
  match named with
  | some found => pure found
  | none => do pure (none, ← starOrExpr g)

/-- What a list of arguments is made into where there is nothing, if that is said. -/
def jsonNull : Parse (List ClauseShape) := do
  if ← keywords ["ABSENT", "ON", "NULL"] then pure [.jsonNull true]
  else if ← keywords ["NULL", "ON", "NULL"] then pure [.jsonNull false]
  else pure []

/-- What is done where a list grows too long, if that is said. -/
def overflowClause : Parse (List ClauseShape × List Expr) := do
  if ← keywords ["ON", "OVERFLOW"] then
    if ← keyword "ERROR" then pure ([.overflow false none], [])
    else
      expectKeyword "TRUNCATE"
      let filler ← match ← peek with
        | some (.text style _) =>
          if [.plain, .escaped, .unicode, .national, .hexadecimal].contains style then
            do pure [← g.expr]
          else fail
        | some t => if t.isKeyword "WITH" || t.isKeyword "WITHOUT" then pure [] else fail
        | none => fail
      let k ← expectOneOf ["WITH", "WITHOUT"]
      expectKeyword "COUNT"
      pure ([.overflow (!filler.isEmpty) (some (k == "WITH"))], filler)
  else pure ([], [])

/-- The arguments of a call with their clauses, behind the opening bracket: their shape, the
arguments, their order, and the expressions of the clauses behind it. -/
def argumentList : Parse (ArgumentShape × List Expr × List OrderKey × List Expr) := do
  let early ← jsonNull
  if ← sign ")" then pure (.listed none [] early, [], [], [])
  else
    let all ← keyword "ALL"
    let distinct ← keyword "DISTINCT"
    if all && distinct then fail
    else
      let args ← commaSeparated (argument g)
      let nulls := match ← nullTreatment with
        | some yes => [ClauseShape.ignoresNulls yes]
        | none => []
      let order ← optionalOrder g
      let orders := if order.isEmpty then [] else [ClauseShape.orderBy]
      let limit ← givenThat (keyword "LIMIT") g.expr
      let limits := if limit.isSome then [ClauseShape.limit] else []
      let having ← givenThat (keyword "HAVING") do
        let k ← expectOneOf ["MIN", "MAX"]
        pure (k == "MAX", ← g.expr)
      let havings := (having.map fun h => ClauseShape.having h.1).toList
      let separators ← if ← keyword "SEPARATOR" then
          (do pure [ClauseShape.separator (← value)])
        else pure []
      let (overflows, filler) ← overflowClause g
      let late ← jsonNull
      expectSign ")"
      let treated := if all then some false else if distinct then some true else none
      pure (.listed treated (args.map (·.1))
          (early ++ nulls ++ orders ++ limits ++ havings ++ separators ++ overflows ++ late),
        args.map (·.2), order, limit.toList ++ (having.map (·.2)).toList ++ filler)

/-- Whether arguments say already how missing values are treated. -/
def ArgumentShape.treatsNulls : ArgumentShape → Bool
  | .listed _ _ clauses => clauses.any fun
    | .ignoresNulls _ => true
    | _ => false
  | _ => false

/-! ### Windows -/

/-- One end of a window frame; `interval` reads an interval behind its keyword. -/
def frameBound (interval : Parse Expr) : Parse (BoundShape × List Expr) := do
  if ← keywords ["CURRENT", "ROW"] then pure (.current, [])
  else
    let rows ← if ← keyword "UNBOUNDED" then pure []
      else match ← peek with
        | some (.text .plain _) => do pure [← interval]
        | _ => do pure [← g.expr]
    match ← expectOneOf ["PRECEDING", "FOLLOWING"] with
    | "PRECEDING" => pure (.preceding (!rows.isEmpty), rows)
    | _ => pure (.following (!rows.isEmpty), rows)

/-- The frame of a window. -/
def frameForm (interval : Parse Expr) : Parse (FrameShape × List Expr) := do
  let units ← match ← expectOneOf ["ROWS", "RANGE", "GROUPS"] with
    | "ROWS" => pure FrameUnits.rows
    | "RANGE" => pure .range
    | _ => pure .groups
  if ← keyword "BETWEEN" then
    let (a, xs) ← frameBound g interval
    expectKeyword "AND"
    let (b, ys) ← frameBound g interval
    pure (⟨units, a, some b⟩, xs ++ ys)
  else
    let (a, xs) ← frameBound g interval
    pure (⟨units, a, none⟩, xs)

/-- A window, with its parts, its order and the expressions of its frame. -/
structure WindowParts where
  /-- What it holds beside its expressions. -/
  shape : WindowShape
  /-- The keys of its parts. -/
  partition : List Expr
  /-- Its order. -/
  order : List OrderKey
  /-- The expressions of its frame. -/
  frame : List Expr

/-- A window up to its closing bracket. -/
def windowSpec (interval : Parse Expr) : Parse WindowParts := do
  let base ← match ← peek with
    | some t@(.word ..) => if t.isPlainWord then (do pure (some (← identifier))) else pure none
    | _ => pure none
  let partition ← listedAfter (keywords ["PARTITION", "BY"]) (commaSeparated g.expr)
  let order ← optionalOrder g
  if ← sign ")" then pure ⟨.spec base none, partition, order, []⟩
  else
    let (shape, parts) ← frameForm g interval
    expectSign ")"
    pure ⟨.spec base (some shape), partition, order, parts⟩

/-! ### Calls -/

/-- A call behind the name of its function. -/
def callBehind (interval : Parse Expr) (name : List Name) (inBraces : Bool) : Parse Call := do
  expectSign "("
  let (shape, args, order, clauses) ← argumentList g
  let (before, parameters, shape, args, order, clauses) ←
    if ← sign "(" then do
      let (s, xs, ks, ys) ← argumentList g
      pure (shape, args ++ order.map (·.value) ++ clauses, s, xs, ks, ys)
    else pure (ArgumentShape.absent, [], shape, args, order, clauses)
  let within ← listedAfter (keywords ["WITHIN", "GROUP"]) <| inBrackets do
    expectKeywords ["ORDER", "BY"]
    commaSeparated (orderKey g)
  let nulls ← if shape.treatsNulls then pure none else nullTreatment
  let window ← givenThat (keyword "OVER") do
    if ← sign "(" then windowSpec g interval
    else pure ⟨.named (← identifier), [], [], []⟩
  pure ⟨⟨name, inBraces, before, shape, nulls, window.map (·.shape)⟩, parameters, args, order,
    clauses, ((window.map (·.partition)).getD []), ((window.map (·.order)).getD []),
    ((window.map (·.frame)).getD []), within⟩

/-- The call of a function without brackets. -/
def bareCall (name : Name) : Call :=
  ⟨⟨[name], false, .absent, .absent, none, none⟩, [], [], [], [], [], [], [], []⟩

end FocusBilling.Sql
