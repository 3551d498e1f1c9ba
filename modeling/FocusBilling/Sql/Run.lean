import FocusBilling.Sql.Plan
import FocusBilling.Sql.References

/-!
# Running SQL statements

* `Sql.Statement.run` : what a statement makes, and the tables that there are after it;
* `Sql.execute` : the same for the text of a statement;
* `Sql.runOn` : the table that the text of a statement makes of one table.

Most statements are queries.  Those that change a table give what is left of it, and leave the table
itself as it is, except that a table may be emptied, dropped or created.
-/

namespace FocusBilling.Sql

/-- A column of texts as a table. -/
def textTable (name : String) (values : List String) : Grid :=
  ⟨.ok values.length, [(name, ⟨.text, .ok (values.map Cell.text)⟩)]⟩

/-- The rows of a table without those on which a condition is true, or no rows. -/
def deletion (p : Planner) (tables : List Join) (condition : Option Expr) : Planning Draft := do
  match tables with
  | [j] => do
    let d := (← relationPlan p j.relation).draft
    let c ← get
    let nested (q : Query) : Elaborated Draft :=
      if q.names.isEmpty then ((p.query q).run c).map (·.1) else unsupported
    match condition with
    | none => do
      let g ← settled d
      pure (.ok g.cleared)
    | some _ => filtered c nested true condition d
  | _ => noPlan

/-- A table without its rows. -/
def truncation (names : List (List Name)) : Planning Draft := do
  match names with
  | [path] => do
    let name := writtenPath path
    match (← get).tables.lookup name with
    | some d => do
      let g ← settled d
      modify fun c => c.putTable name (.ok g.cleared)
      pure (.ok g.cleared)
    | none => noPlan
  | _ => noPlan

/-- A table that is created. -/
def creation (p : Planner) (path : List Name) (ifMissing : Bool) (q : Query) : Planning Draft := do
  let name := (path.head?.map (·.text)).getD ""
  if ifMissing && ((← get).tables.lookup name).isSome then noPlan
  else
    let d ← p.whole q
    modify fun c => c.putTable name d
    pure (.ok (textTable "Response" ["CREATE TABLE"]))

namespace Statement

/-- What a statement makes. -/
def run (p : Planner) : Statement → Planning Draft
  | .query q => p.whole q
  | .delete tables true condition _ => deletion p tables condition
  | .truncate tables partition => if partition.isEmpty then truncation tables else noPlan
  | .createAs name ifMissing q _ => creation p name ifMissing q
  | .dropTables names _ => do
    let gone := names.map writtenPath
    modify fun c => { c with tables := c.tables.filter fun t => !gone.contains t.1 }
    pure (.ok Grid.empty)
  | .showTables _ => do
    let names := ((← get).tables.map (·.1)).mergeSort (· ≤ ·)
    pure (.ok (textTable "name" names))
  | _ => noPlan

end Statement

/-- What the text of a statement makes, and the tables that there are after it.  Nothing in a text
nests deeper than the text is long. -/
def execute (text : String) (c : Catalog) : Elaborated (Draft × Catalog) :=
  match parse? true text with
  | some [s] =>
    ((s.run (plannerAt (4 * text.length + 4))).run c).map fun (d, c) => (d, c.betweenStatements)
  | some _ => unsupported
  | none => .error .unreadable

/-- The table that the text of a statement makes of one table, which takes the place of the one that
statements read, and the tables that there are after it. -/
def runOn (text : String) (t : Table) (c : Catalog) : Elaborated (Table × Catalog) := do
  let (d, c) ← execute text (c.putTable tableName (.ok (.ofTable t)))
  pure ((← d.mapError .frame).toTable, c)

end FocusBilling.Sql
