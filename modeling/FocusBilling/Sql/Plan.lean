import FocusBilling.Sql.Reads
import FocusBilling.Sql.Select

/-!
# What queries make of tables

* `Sql.Planner` : what the parts of a query that nest come to;
* `Sql.joinedTables` : tables behind `FROM`, each joined to those in front of it;
* `Sql.queryPlan`, `Sql.bodyPlan` : a query and its body;
* `Sql.plannerAt` : a planner for queries that nest so deep.

The queries in front of a query are known to all that follows them in the statement.  The queries in
front of a nested one are not carried out, so that nothing may name them.
-/

namespace FocusBilling.Sql

/-- What is done with tables at hand. -/
abbrev Planning := StateT Catalog (Except SqlError)

/-- What the parts of a query that nest come to. -/
structure Planner where
  /-- A query after those in front of it. -/
  whole : Query → Planning Draft
  /-- A query without those in front of it. -/
  query : Query → Planning Draft
  /-- The body of a query that is put in an order. -/
  body : List OrderKey → Body → Planning Draft
  /-- Tables with their joins. -/
  tables : List Join → Planning Draft

/-- A form that is not carried out. -/
def noPlan {α : Type} : Planning α := throw .unsupported

/-- A table with the names that a label gives to its columns. -/
def withColumnNames (label : TableLabel) (d : Draft) : Elaborated Draft := do
  if label.columns.isEmpty then pure d
  else
    let g ← settled d
    let names := label.columns.map (·.text)
    if names.length != g.names.length then unsupported
    else pure (g.rename (g.names.zip names))

/-! ### Joins -/

/-- Tables that are joined, and the name of the first of them. -/
structure Joined where
  /-- The name of the first table. -/
  name : String
  /-- The tables side by side. -/
  draft : Draft

/-- A table to join, its columns known. -/
structure JoinSide where
  /-- The name. -/
  name : String
  /-- The table. -/
  grid : Grid

/-- Whether all columns that a formula reads are in a table; it must read some. -/
def JoinSide.holds (t : JoinSide) (a : Formula) : Bool :=
  !a.reads.isEmpty && a.reads.all t.grid.names.contains

/-- Whether an expression names a column of a table by the name of the table. -/
def JoinSide.isNamedIn (t : JoinSide) (e : Expr) : Bool :=
  e.paths.any fun path => path.length > 1 && (path.head?.map (·.text)) = some t.name

/-- The sides of an equation in the order of two tables. -/
def sidesOf (left right : JoinSide) (x y : Expr) (a b : Formula) :
    Elaborated (Formula × Formula) :=
  match (left.isNamedIn x, right.isNamedIn x), (left.isNamedIn y, right.isNamedIn y) with
  | (true, false), (false, true) => .ok (a, b)
  | (false, true), (true, false) => .ok (b, a)
  | (inLeft, inRight), (inLeft', inRight') =>
    if left.name != right.name && ((inLeft && inRight) || (inLeft' && inRight')) then unsupported
    else
      match (left.holds a, right.holds a), (left.holds b, right.holds b) with
      | (true, false), (_, true) | (true, true), (_, true) => .ok (a, b)
      | (false, true), (true, _) | (true, true), (true, false) => .ok (b, a)
      | _, _ => unsupported

/-- A formula without a label. -/
def unlabelled : Formula → Formula
  | .named a _ => a
  | a => a

/-- The pairs of keys of a condition: equations with `AND` between them. -/
def joinKeys (s : Scope) (left right : JoinSide) : Expr → Elaborated (List (Formula × Formula))
  | .binary .and a b => do
    let keys ← joinKeys s left right a
    pure (keys ++ (← joinKeys s left right b))
  | .binary .eq a b => do
    let x := unlabelled (← s.formula a)
    let y := unlabelled (← s.formula b)
    pure [← sidesOf left right a b x y]
  | .nested a => joinKeys s left right a
  | _ => unsupported

/-- The outcomes of formulas over a table. -/
def outcomesOf (g : Grid) (as : List Formula) : Except FrameError (List Outcome) :=
  as.mapM (Formula.eval false g)

/-- Which rows a join keeps. -/
def keepingOf : JoinKind → Elaborated Keeping
  | .inner => .ok .none
  | .left => .ok .left
  | .right => .ok .right
  | .full => .ok .both
  | _ => unsupported

/-- A table joined to another by a condition. -/
def joinedBy (s : Scope) (k : Keeping) (left right : JoinSide) (constraint : ConstraintShape)
    (conditions : List Expr) : Elaborated Draft := do
  let suffix := ":" ++ right.name
  let byKeys (keys : List (Formula × Formula)) : Draft := do
    let lefts ← outcomesOf left.grid (keys.map (·.1))
    left.grid.join k right.grid lefts (← outcomesOf right.grid (keys.map (·.2))) suffix
  match constraint, conditions with
  | .on, [e] => do pure (byKeys (← joinKeys s left right e))
  | .using columns, _ =>
    if columns.isEmpty then unsupported
    else pure (byKeys (columns.map fun n => (.column n.text, .column n.text)))
  | .natural, _ =>
    let names := left.grid.names.filter right.grid.names.contains
    if names.isEmpty then unsupported
    else pure (left.grid.joinNaturally k right.grid names suffix)
  | _, _ => unsupported

/-- The columns of a joined table that had to take another name. -/
def renamedIn (left right : JoinSide) (joined : Grid) : List (String × String) :=
  right.grid.names.filterMap fun n =>
    let taken := n ++ ":" ++ right.name
    if left.grid.names.contains n && joined.names.contains taken then some (n, taken) else none

/-! ### Tables -/

variable (p : Planner)

/-- A table behind `FROM` and its name, which may be empty. -/
def relationPlan : Relation → Planning Joined
  | .table name label => do
    let c ← get
    let known := (name.head?.map (·.text)).getD ""
    match c.find? known, label with
    | some d, none => pure ⟨known, d⟩
    | some d, some l => do
      set { c with labels := (l.name.text, known) :: c.labels }
      pure ⟨l.written, d⟩
    | none, _ => noPlan
  | .derived false q label => do
    let d ← p.query q
    match label with
    | none => pure ⟨"", d⟩
    | some l => do
      let d ← withColumnNames l d
      modify fun c => c.putTable l.name.text d
      pure ⟨l.name.text, d⟩
  | .joined tables label => do
    let d ← p.tables tables
    pure ⟨(label.map (·.name.text)).getD "", d⟩
  | _ => noPlan

/-- Tables with one table more. -/
def joinOne (sofar : Joined) (j : Join) : Planning Joined := do
  let other ← relationPlan p j.relation
  if other.name.isEmpty then noPlan
  else
    let left : JoinSide := ⟨sofar.name, ← settled sofar.draft⟩
    let right : JoinSide := ⟨other.name, ← settled other.draft⟩
    let schema := left.grid.schema ++ right.grid.schema
    let s : Scope := ⟨← get, schema, fun _ => unsupported⟩
    let d ← if j.kind = .cross then pure (left.grid.cross right.grid (":" ++ right.name))
      else joinedBy s (← keepingOf j.kind) left right j.constraint j.conditions
    let joined ← settled d
    modify fun c =>
      { c with renamed := (right.name, renamedIn left right joined) :: c.renamed }
    pure ⟨sofar.name, d⟩

/-- Tables behind `FROM`, each joined to those in front of it. -/
def joinedTables : List Join → Planning Draft
  | [] => pure (.ok Grid.empty)
  | first :: others => do
    if others.any fun j => j.kind = .listed then noPlan
    else
      let start ← relationPlan p first.relation
      pure (← others.foldlM (joinOne p) start).draft

/-! ### Bodies -/

/-- The type and the cell of a value that is written out. -/
def writtenCell : Formula → Elaborated (DType × Cell)
  | .constant c t => .ok (t, c)
  | .whole n => .ok ((Typing.whole n).dtype, .int n)
  | .fraction x => .ok (.float64, .float x)
  | _ => unsupported

/-- Rows of values that are written out, cut off a list. -/
def rowsOfSizes {α : Type} : List Nat → List α → List (List α)
  | [], _ => []
  | n :: ns, xs => xs.take n :: rowsOfSizes ns (xs.drop n)

/-- The table of rows of values that are written out. -/
def valuesTable (sizes : List Nat) (values : List Expr) : Elaborated Grid := do
  let width := sizes.headD 0
  let s : Scope := ⟨.empty, [], fun _ => unsupported⟩
  let cells ← (← s.formulas values).mapM writtenCell
  if sizes.any (· != width) then unsupported
  else
    let rows := rowsOfSizes sizes cells
    let column (i : Nat) : String × Deferred :=
      let found := rows.filterMap fun row => row[i]?
      let t := ((found.filterMap fun f => if f.1.same .null then none else some f.1).foldl
        (fun t u => match t with
          | none => some u
          | some t => some ((commonType t u).getD .text)) none).getD .null
      ("column_" ++ toString i, ⟨t, .ok (found.map fun (u, c) => c.cast u t)⟩)
    pure ⟨.ok rows.length, (List.range width).map column⟩

/-- The rows of two tables, without those that repeat unless all are asked for. -/
def unionOf (quantifier : SetQuantifier) (a b : Draft) : Elaborated Draft := do
  let g ← settled a
  let h ← settled b
  if g.names.length != h.names.length then unsupported
  else
    match quantifier with
    | .all => pure (g.below h)
    | .distinct | .unsaid => pure do
      let both ← g.below h
      both.unique both.names
    | _ => unsupported

/-- The body of a query that is put in an order. -/
def bodyPlan (keys : List OrderKey) : Body → Planning Draft
  | .select q => do
    let d ← p.tables q.tables
    let c ← get
    let nested (inner : Query) : Elaborated Draft :=
      if inner.names.isEmpty then ((p.query inner).run c).map (·.1) else unsupported
    q.run c nested keys d
  | .nested q => p.query q
  | .setOperation .union quantifier a b => do
    let left ← p.body keys a
    unionOf quantifier left (← p.body keys b)
  | .rows sizes values => do pure (.ok (← valuesTable sizes values))
  | .table name => do
    match (← get).find? (name.getLastD "") with
    | some d => pure d
    | none => noPlan
  | _ => noPlan

/-! ### Queries -/

/-- The rows from one position on, at most so many; both must be plain numbers. -/
def limited (offset limit : Option Expr) (d : Draft) : Elaborated Draft :=
  match offset, limit with
  | none, none => .ok d
  | none, some l =>
    (plainNumber? l).elim unsupported fun n => .ok (d.map fun g => g.slice 0 (some n))
  | some o, none =>
    (plainNumber? o).elim unsupported fun n => .ok (d.map fun g => g.slice n none)
  | some o, some l =>
    match plainNumber? o, plainNumber? l with
    | some m, some n => .ok (d.map fun g => g.slice m (some n))
    | _, _ => unsupported

/-- A query without those in front of it. -/
def queryPlan (q : Query) : Planning Draft := do
  let d ← p.body q.orderBy q.body
  limited q.offset q.limit d

/-- A query after those in front of it. -/
def wholePlan (q : Query) : Planning Draft := do
  if q.isRecursive then noPlan
  else
    let _ ← (q.names.zip q.named).mapM fun (label, inner) => do
      let d ← withColumnNames label (← p.whole inner)
      modify fun c => { c with queries := (label.name.text, d) :: c.queries }
    p.query q

/-- A planner for queries that nest so deep. -/
def plannerAt : Nat → Planner
  | 0 => ⟨fun _ => noPlan, fun _ => noPlan, fun _ _ => noPlan, fun _ => noPlan⟩
  | n + 1 =>
    ⟨fun q => wholePlan (plannerAt n) q, fun q => queryPlan (plannerAt n) q,
      fun keys b => bodyPlan (plannerAt n) keys b, fun tables => joinedTables (plannerAt n) tables⟩

end FocusBilling.Sql
