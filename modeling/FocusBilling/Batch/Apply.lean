import FocusBilling.Compile.CompiledPlan
import FocusBilling.Sql.Run

/-!
# Applying a plan to a batch

* `CompiledPlan.apply` : the table that a plan makes of a batch, and the columns to export;
* `Working` : the table between two steps, with the columns that each output was expanded to;
* `ApplyError` : why a plan cannot be applied.

Steps that fill columns come first, in order, then the steps in SQL, in order; a table that one of
these names anew is known to those behind it.  At the end the temporary columns are dropped.  Names
and types are settled here; cells are computed when the result is collected.
-/

namespace FocusBilling

/-- Why a plan cannot be applied to a batch. -/
inductive ApplyError where
  | missingColumn (name : String)
  /-- A statement cannot be carried out. -/
  | sql (statement : String)
  | frame (error : FrameError)
  deriving DecidableEq

namespace ApplyError

/-- An error of a table. -/
def ofFrame : FrameError → ApplyError
  | .missingColumn name => missingColumn name
  | e => frame e

/-- An error of a statement. -/
def ofSql (statement : String) : Sql.SqlError → ApplyError
  | .frame e => ofFrame e
  | .unreadable | .unsupported => sql statement

end ApplyError

/-- The columns that outputs were expanded to, in the order of first use. -/
abbrev Expanded := List (String × List String)

namespace Expanded

/-- The columns of an output and some more, each once. -/
def addIn (output : String) (names : List String) : Expanded → Expanded
  | [] => [(output, names.foldl CompiledPlan.addOnce [])]
  | (a, known) :: rest =>
    if a = output then (a, names.foldl CompiledPlan.addOnce known) :: rest
    else (a, known) :: addIn output names rest

/-- Names with the expanded ones replaced by the columns of a table that they were expanded
to. -/
def resolve (e : Expanded) (columns : List String) (names : List String) : List String :=
  names.flatMap fun n =>
    match e.lookup n with
    | some known => known.filter columns.contains
    | none => [n]

end Expanded

/-- The table between two steps. -/
structure Working where
  /-- The table. -/
  table : Table
  /-- The columns that outputs were expanded to. -/
  expanded : Expanded

namespace Working

/-- One step that fills columns. -/
def assign (w : Working) (a : Assignment) : Except FrameError Working := do
  let expanded ← match a with
    | .expanded output _ => do
      pure (Expanded.addIn output ((← a.columns w.table).map (·.1)) w.expanded)
    | _ => pure w.expanded
  pure ⟨← a.run w.table, expanded⟩

end Working

namespace SqlStep

/-- A table whose staging column has taken the place of another. -/
def unstage (t : Table) (columns : List String) (replaced : String) : Except FrameError Table := do
  let found ← columns.mapM fun n =>
    if n = replaced then do pure [(n, ← t.get stagingColumn)]
    else do (← t.matching n).mapM fun m => do pure (m, ← t.get m)
  Table.ofColumns t.height found.flatten

/-- A table after a step in SQL, and the other tables that steps have made. -/
def run (s : SqlStep) (t : Table) (c : Sql.Catalog) : Except ApplyError (Table × Sql.Catalog) := do
  let columns := t.names
  let statement := s.render (some columns)
  let (result, c) ← (Sql.runOn statement t c).mapError (ApplyError.ofSql statement)
  match s.replacedColumn columns with
  | some replaced => do pure (← (unstage result columns replaced).mapError .ofFrame, c)
  | none => pure (result, c)

end SqlStep

/-- A batch with a plan applied. -/
structure AppliedBatch where
  /-- The table. -/
  table : Table
  /-- The columns to export. -/
  targetColumns : List String

namespace CompiledPlan

/-- The columns of a table that a plan does not drop. -/
def withoutTemporaries (t : Table) (temporaries : List String) : Except FrameError Table :=
  if t.names.any temporaries.contains then
    t.select (t.names.filter fun n => !temporaries.contains n)
  else .ok t

/-- The table between the steps that fill columns and those in SQL. -/
def assignAll (p : CompiledPlan) (t : Table) : Except FrameError Working :=
  p.assignments.foldlM Working.assign ⟨t, []⟩

/-- A plan applied to a batch. -/
def apply (p : CompiledPlan) (t : Table) : Except ApplyError AppliedBatch := do
  let w ← (p.assignAll t).mapError .ofFrame
  let (t, _) ← p.statements.foldlM (fun (t, c) s => s.run t c) (w.table, Sql.Catalog.empty)
  let temporaries := w.expanded.resolve t.names p.temporaryColumns
  let t ← (withoutTemporaries t temporaries).mapError .ofFrame
  pure ⟨t, w.expanded.resolve t.names p.targetColumns⟩

end CompiledPlan

end FocusBilling
