import FocusBilling.Sql.Relation

/-!
# Reading lists of columns

* `Sql.selectItem` : one entry: an expression with its label, or all columns;
* `Sql.selectItems` : the list behind `SELECT`.
-/

namespace FocusBilling.Sql

open Parse

variable (g : Grammar)

/-- One name, or several in brackets. -/
def oneOrMore {α : Type} (p : Parse α) : Parse (List α) := do
  if ← peekSign "(" then inBrackets (commaSeparated p) else pure [← p]

/-- One name that is given another. -/
def newName : Parse (Name × Name) := do
  let a ← identifier
  expectKeyword "AS"
  pure (a, ← identifier)

/-- An expression in place of a column. -/
def replacement : Parse (Expr × Name) := do
  let e ← g.expr
  let _ ← keyword "AS"
  pure (e, ← identifier)

/-- What may follow all columns. -/
def starOptions (table : List Name) : Parse SelectItem := do
  let ilike ← givenThat (keyword "ILIKE") do
    match ← next with
    | .text .plain s => pure s
    | _ => fail
  let excluded ← if ilike.isSome then pure []
    else listedAfter (keyword "EXCLUDE") (oneOrMore identifier)
  let excepted ← listedAfter (keyword "EXCEPT") (oneOrMore identifier)
  let replaced ← listedAfter (keyword "REPLACE") (inBrackets (commaSeparated (replacement g)))
  let renamed ← listedAfter (keyword "RENAME") (oneOrMore newName)
  pure (.wildcard ⟨table, ilike, excluded, excepted, replaced.map (·.2), renamed⟩
    (replaced.map (·.1)))

/-- One entry of the list of columns. -/
def selectItem : Parse SelectItem := do
  match ← starOrExpr g with
  | .star => starOptions g []
  | .starOf table => starOptions g table
  | e => do
    match e.name? with
    | some n =>
      if n.quote.isNone && Text.lower n.text = "from" then fail
      else pure (.expr e (← optionalAlias reservedForColumn))
    | none => pure (.expr e (← optionalAlias reservedForColumn))

/-- The list of columns. -/
def selectItems : Parse (List SelectItem) := commaSeparated (selectItem g)

/-- The expressions behind `RETURNING`, if it follows. -/
def returning : Parse (List Expr) := do
  let items ← listedAfter (keyword "RETURNING") (selectItems g)
  pure (items.flatMap fun
    | .expr e _ => [e]
    | .wildcard _ es => es)

end FocusBilling.Sql
