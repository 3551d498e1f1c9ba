import FocusBilling.Sql.Grouping
import FocusBilling.Sql.Join
import FocusBilling.Sql.SelectList

/-!
# What a `SELECT` makes of a table

* `Sql.filtered` : the rows on which a condition is true, or those that are left without them;
* `Sql.selectedPlainly` : a list of columns without groups;
* `Sql.selectedByGroups` : a list of columns for each group of rows;
* `Sql.Select.run` : a `SELECT` over a table.

A column of the list that is written without a total or a column fills all rows of the table, if all
others do.  An order may use the columns of the table and those of the list.
-/

namespace FocusBilling.Sql

/-! ### Conditions -/

/-- The truth value of a condition that compares nothing but values that are written out. -/
def fixedTruth? : Expr → Option Bool
  | .value (.bool b) => some b
  | .binary .eq (.value a) (.value b) => some (decide (a = b))
  | .binary .ne (.value a) (.value b) => some (decide (a ≠ b))
  | _ => none

/-- No rows of a table. -/
def Grid.cleared (g : Grid) : Grid :=
  ⟨.ok 0, g.columns.map fun (n, d) => (n, ⟨d.dtype, .ok []⟩)⟩

/-- A condition on a query inside a condition: its only column, or the column of that name of the
table itself. -/
def columnOfQuery (schema : List (String × DType)) (d : Draft) : Elaborated Formula := do
  match (← settled d).columns with
  | [(name, values)] =>
    pure (if (schema.lookup name).isSome then .column name else .listed values)
  | _ => unsupported

/-- The rows on which a condition is true, or with `removes` those that are left without them. -/
def filtered (c : Catalog) (query : Query → Elaborated Draft) (removes : Bool)
    (condition : Option Expr) (d : Draft) : Elaborated Draft :=
  match condition with
  | none => .ok d
  | some e => do
    let g ← settled d
    match fixedTruth? e with
    | some b => pure (if b != removes then d else .ok g.cleared)
    | none =>
      let s : Scope := ⟨c, g.schema, fun q => do columnOfQuery g.schema (← query q)⟩
      let a ← s.formula e
      pure do g.kept (fun cell => cell.isTrue != removes) (← a.eval false g)

/-! ### Lists without groups -/

/-- A table with the columns of a list beside its own, row by row. -/
def besideOwn (items : List Formula) (g : Grid) : Draft := do
  let made ← g.select (← evaluated g items)
  let places : Except FrameError (List (Option Nat)) := do
    let m ← g.count
    pure ((List.range (← made.count)).map fun i => if i < m then some i else none)
  made.beside (g.pickOption places) "_right"

/-- A table with formulas over the columns of their names, or behind the others. -/
def extendedBy (items : List Formula) (d : Draft) : Draft := do
  let g ← d
  g.extend (← evaluated g items)

/-- A table of formulas alone. -/
def selectedBy (items : List Formula) (d : Draft) : Draft := do
  let g ← d
  g.select (← evaluated g items)

/-- A list of columns without groups. -/
def selectedPlainly (c : Catalog) (keys : List OrderKey) (items : List Formula) (m : Modifiers)
    (d : Draft) : Elaborated Draft := do
  let kept := items.filter fun a => m.admits a.name
  let names := kept.map fun a => Formula.column a.name
  let isOrdered := !keys.isEmpty
  let fillsRows := kept.all fun a => a.height = .inherited
  let hasRows := kept.any fun a => a.height = .ofRows
  let retained := if isOrdered then names else kept
  let d := if !isOrdered then d else if hasRows || fillsRows then extendedBy items d
    else d.bind (besideOwn items)
  let d := if m.replaced.isEmpty then d else extendedBy m.replaced d
  let copies := m.renamed.map fun (old, new) => Formula.named (.column old) new
  let d := if copies.isEmpty then d else extendedBy copies d
  let d ← ordered c keys (some retained) d
  let d := if fillsRows && !isOrdered then selectedBy names (extendedBy retained d)
    else selectedBy retained d
  pure (if m.renamed.isEmpty then d else d.bind fun g => g.rename m.renamed)

/-! ### Groups -/

/-- The keys of groups. -/
def groupKeysOf (s : Scope) (q : Select) (items : List Formula) : Elaborated (List Formula) :=
  if q.hasSuperGroups then unsupported
  else if q.groupsByAll then .ok (items.filterMap Formula.implicitKey?)
  else q.groupKeys.mapM (s.ordinalOr items)

/-- A list of columns for each group of rows, in an order, and the groups on which a condition is
true. -/
def selectedByGroups (c : Catalog) (keys : List OrderKey) (groupKeys items : List Formula)
    (having : Option Expr) (g : Grid) (d : Draft) : Elaborated Draft := do
  let _ ← groupKeys.mapM (checked g)
  let _ ← items.mapM (checked g)
  let plan ← groupedPlan groupKeys items
  let groups : Draft := do (← d).grouped plan.keys plan.totals
  let d ← ordered c keys none (selectedBy plan.selected groups)
  let result ← settled d
  match having with
  | none => pure d
  | some e =>
    let s : Scope := ⟨c, result.schema, fun _ => unsupported⟩
    let a ← s.formula e
    pure do result.kept Cell.isTrue (← a.eval false result)

/-! ### Equal rows -/

/-- The names of columns by which rows are merged. -/
def mergingNames (s : Scope) (keys : List Expr) : Elaborated (List String) :=
  keys.mapM fun e => do
    match ← s.formula e with
    | .column name => pure name
    | _ => unsupported

/-- The first of equal rows.  Where rows are merged by some columns, they are put in order first. -/
def merged (c : Catalog) (merging : Distinct) (distinctKeys : List Expr) (keys : List OrderKey)
    (d : Draft) : Elaborated Draft :=
  match merging with
  | .keepAll => .ok d
  | .distinct => .ok (d.bind fun g => g.unique g.names)
  | .on => do
    let g ← settled d
    let names ← mergingNames ⟨c, g.schema, fun _ => unsupported⟩ distinctKeys
    let d ← ordered c keys none d
    pure (d.bind fun g => g.unique names)

/-- A `SELECT` over a table. -/
def Select.run (q : Select) (c : Catalog) (query : Query → Elaborated Draft)
    (keys : List OrderKey) (d : Draft) : Elaborated Draft := do
  let before ← settled d
  let d ← filtered c query false q.filter d
  let s : Scope := ⟨c, before.schema, fun _ => unsupported⟩
  let (items, m) ← s.listFormulas q.items
  let groupKeys ← groupKeysOf s q items
  let d ← if groupKeys.isEmpty then
      if q.having.isSome then unsupported
      else do
        let _ ← items.mapM (checked before)
        selectedPlainly c keys items m d
    else selectedByGroups c keys groupKeys items q.having before d
  merged c q.distinct q.distinctKeys keys d

end FocusBilling.Sql
