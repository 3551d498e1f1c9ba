import FocusBilling.Proofs.FilledColumns
import FocusBilling.Proofs.Literals

/-!
# Defaults of conditions

A condition none of whose clauses is live gives its default to all rows.  The default gets there as
a text that is read again, whereas a static rule gives its literal to the rows as it is.

* `Working.filled` : one value put into a column, in all rows; `Literal.IsGiven.filled_eq_iff` :
  when what a literal means in SQL fills it as the literal itself does;
* `SqlStep.run_default_eq_ok` : what a condition without live clauses makes of a table;
* `CompiledPlan.undropped_static`, `CompiledPlan.undropped_condition_eq_ok` : a plan with one more
  rule behind its expressions, of either kind;
* `CompiledPlan.undropped_default` : **when the two kinds of rules give the same column**, and what
  a condition gives instead.  The names of columns and the name of the staging column are the limits
  of all conditions, told in `FocusBilling.Proofs.Conditions`; what concerns the literal is
  `Literal.IsKeptInSql`.
-/

namespace FocusBilling

open Sql

namespace Working

/-- One value put into a column, in all rows. -/
def filled (w : Working) (o : String) (d : DType) (x : Cell) : Working :=
  ⟨⟨w.table.height, Table.putIn o ⟨d, .ok (List.replicate w.table.height x)⟩ w.table.columns⟩,
    w.expanded⟩

theorem find?_filled (w : Working) (o : String) (d : DType) (x : Cell) :
    (w.filled o d x).table.find? o = some ⟨d, .ok (List.replicate w.table.height x)⟩ :=
  Table.lookup_putIn_self

end Working

/-- A column filled with what a literal means in SQL is the column filled with the literal if that
is kept. -/
theorem Literal.IsGiven.filled_eq_iff {d : Literal} (hd : d.IsGiven) (w : Working) (o : String) :
    (∃ D, d.sqlFormula? = some D ∧
      w.filled o d.dtype (Cell.ofLiteral d) = w.filled o D.written.1.dtype D.written.2) ↔
        d.IsKeptInSql := by
  constructor
  · rintro ⟨D, hD, hsame⟩
    have hfind := congrArg (fun v : Working => v.table.find? o) hsame
    simp only [Working.find?_filled] at hfind
    exact hd.isKeptInSql_iff.2 ⟨D, hD, (Deferred.mk.inj (Option.some.inj hfind)).1.symm⟩
  · intro hk
    obtain ⟨D, hD, hdtype, hcell⟩ := hd.sqlFormula?_of_kept hk
    exact ⟨D, hD, by rw [hdtype, hcell]⟩

namespace SqlStep

variable {t u : Table} {o : String} {clauses : List String} {d : Literal} {D : Formula}
  {c c' : Catalog}

/-- The column that a literal fills, in the type in which SQL settles it. -/
theorem spread_written {n : ℕ} (hd : d.IsGiven) (h : d.sqlFormula? = some D) :
    Grid.spread (.ok n) ⟨D.written.1, true, .ok [D.written.2]⟩ =
      ⟨D.written.1.dtype, .ok (List.replicate n D.written.2)⟩ := by
  have hsettled : inType D.written.1.held D.written.1.dtype D.written.2 = D.written.2 := by
    rcases sqlFormula?_eq_some h with ⟨v, t, rfl⟩ | ⟨m, rfl⟩ | ⟨x, rfl⟩
    · simp [Formula.written, Typing.held, Typing.dtype, inType]
    · rw [show (Formula.whole m).written = (.whole m, .int m) from rfl,
        Literal.dtype_whole (hd.fits_of_sqlFormula? h)]
      by_cases hsmall : IntType.i32.fits m = true
      · have hcast : inType .i64 .i32 (.int m) = Cell.ranged .i32 m := rfl
        simp [Literal.dtype, hsmall, Typing.held, hcast, Cell.ranged]
      · simp [Literal.dtype, hsmall, Typing.held, inType]
    · rfl
  have hgives : (⟨D.written.1, true, .ok [D.written.2]⟩ : Outcome).Gives n fun _ => D.written.2 :=
    ⟨fun _ _ => rfl, rfl⟩
  refine (Outcome.spread_gives hgives).trans ?_
  change (⟨D.written.1.dtype, .ok ((List.range n).map fun _ =>
    inType D.written.1.held D.written.1.dtype D.written.2)⟩ : Deferred) = _
  rw [hsettled, List.map_const', List.length_range]

/-- When a condition without live clauses succeeds, and the column that its default fills. -/
theorem run_default_eq_ok (ht : t.columns ≠ []) (hdistinct : t.names.Nodup)
    (hlive : ∀ clause ∈ clauses, isLive t.names clause = false) (hd : d.IsGiven) :
    (condition o clauses d.sql).run t c = .ok (u, c') ↔
      (∀ n ∈ t.names, Table.IsPlain n) ∧ (o ∈ t.names → stagingColumn ∉ t.names) ∧
      ∃ D, d.sqlFormula? = some D ∧
        u = ⟨t.height, Table.putIn o
          ⟨D.written.1.dtype, .ok (List.replicate t.height D.written.2)⟩ t.columns⟩ ∧
        c' = (c.putTable Sql.tableName (.ok (.ofTable t))).betweenStatements := by
  have hnone : clauses.filter (isLive t.names) = [] := by
    rw [List.filter_eq_nil_iff]
    exact fun clause hc => by simp [hlive clause hc]
  obtain ⟨branches, default, label, place, hlabel, htext, hbranches, hdefault⟩ :=
    @Sql.exists_parse_render Unit (fun _ _ _ => True) clauses t.names [] (hnone ▸ .nil) o d
  cases hbranches
  rw [run_condition_eq_ok ht hdistinct hlabel htext]
  refine and_congr_right fun _ => and_congr_right fun _ => ?_
  change (∃ F found, (besideScope t c).formula default = .ok F ∧ _) ↔ _
  simp only [hdefault, hd.sqlReading_eq_ok]
  constructor
  · rintro ⟨D, found, hD, -, hfound, rfl, rfl⟩
    rw [(eval_sqlFormula hD).2] at hfound
    cases hfound
    exact ⟨D, hD, by rw [spread_written hd hD], rfl⟩
  · rintro ⟨D, hD, rfl, rfl⟩
    obtain ⟨hreads, heval⟩ := eval_sqlFormula hD
    exact ⟨D, _, hD, by simp [hreads], heval _ _, by rw [spread_written hd hD], rfl⟩

end SqlStep

/-! ### Rules -/

namespace Rule

variable {r : Rule} {conditions : List String} {d : Literal}

/-- A rule that fills a column by clauses, with a literal where none applies. -/
structure HasDefault (r : Rule) (conditions : List String) (d : Literal) : Prop where
  kind : r.kind = .sqlCondition
  args : r.args = .sqlCondition ⟨conditions, d⟩

/-- A rule that fills a column with a literal. -/
structure IsStatic (r : Rule) (d : Literal) : Prop where
  kind : r.kind = .staticValue
  args : r.args = .staticValue d

theorem HasDefault.step (h : r.HasDefault conditions d) : r.step .standard =
    .ok (.sql (.condition r.output (conditions.map Text.trim) d.sql)) :=
  step_of_condition h.kind h.args

theorem IsStatic.step (h : r.IsStatic d) :
    r.step .standard = .ok (.assign (.column r.output (.literal d))) :=
  step_eq_assign.2 (.constant h.kind h.args)

end Rule

/-! ### Plans -/

namespace CompiledPlan

variable {plan : Plan} {p : CompiledPlan} {t : Table} {w : Working} {r s : Rule}
  {step : PlanStep} {conditions : List String} {d : Literal}

/-- Applying a plan is the drop of temporary columns behind all steps. -/
theorem apply_eq (p : CompiledPlan) (t : Table) : p.apply t = (do
    let w ← p.undropped t
    let u ← (withoutTemporaries w.table
      (w.expanded.resolve w.table.names p.temporaryColumns)).mapError .ofFrame
    pure ⟨u, w.expanded.resolve u.names p.targetColumns⟩) := by
  simp only [apply, undropped, bind_assoc, pure_bind]

/-- A plan without rules puts the name of the provider into a table. -/
theorem undropped_start (provider : String) (ht : t.columns ≠ []) :
    (start provider).undropped t =
      .ok ((⟨t, []⟩ : Working).filled providerColumn .text (.text provider)) := by
  refine (undropped_eq_ok rfl).2 (bind_eq_ok.2 ⟨_, ?_, rfl⟩)
  exact Working.assign_column ht (Scalar.expand_of_plain nofun) rfl

section Behind

variable (hs : p.statements = []) (hw : p.undropped t = .ok w)

include hs hw

/-- A plan with one more step, which fills a column with a literal. -/
theorem undropped_static (hcolumns : w.table.columns ≠ []) (o : String) :
    (p.behind s (.assign (.column o (.literal d)))).undropped t =
      .ok (w.filled o d.dtype (Cell.ofLiteral d)) := by
  have hreads : (Scalar.literal d).reads = [] := by rw [Scalar.literal, Scalar.reads]
  have hexpand := @Scalar.expand_of_plain w.table (.literal d) (by simp [hreads])
  refine (undropped_eq_ok (by simp [behind, hs, PlanStep.statement?])).2 ?_
  rw [assignAll_behind ((undropped_eq_ok hs).1 hw)]
  exact Working.assign_column hcolumns hexpand rfl

/-- A plan with one more step, which is a statement. -/
theorem undropped_sql_eq_ok {step : SqlStep} {v : Working} :
    (p.behind r (.sql step)).undropped t = .ok v ↔
      (∃ c, step.run w.table .empty = .ok (v.table, c)) ∧ v.expanded = w.expanded := by
  have hassigned := (undropped_eq_ok hs).1 hw
  have hassign : (p.behind r (.sql step)).assignAll t = .ok w := by
    rw [← hassigned]
    exact congrArg (List.foldlM Working.assign _) (List.append_nil p.assignments)
  have hstatements : (p.behind r (.sql step)).statements = [step] := by
    simp [behind, hs, PlanStep.statement?]
  simp only [undropped, hassign, hstatements, List.foldlM_cons, List.foldlM_nil, bind_eq_ok,
    mapError_eq_ok, pure_eq_ok, Except.ok.injEq, exists_eq_left']
  constructor
  · rintro ⟨_, ⟨⟨u, c⟩, hrun, rfl⟩, rfl⟩
    exact ⟨⟨c, hrun⟩, rfl⟩
  · rintro ⟨⟨c, hrun⟩, hexpanded⟩
    exact ⟨_, ⟨_, hrun, rfl⟩, by rw [← hexpanded]⟩

/-- A plan with one more step, which is a condition without live clauses. -/
theorem undropped_condition_eq_ok {o : String} {clauses : List String} {v : Working}
    (hcolumns : w.table.columns ≠ []) (hdistinct : w.table.names.Nodup)
    (hlive : ∀ clause ∈ clauses, SqlStep.isLive w.table.names clause = false) (hd : d.IsGiven) :
    (p.behind r (.sql (.condition o clauses d.sql))).undropped t = .ok v ↔
      (∀ n ∈ w.table.names, Table.IsPlain n) ∧
      (o ∈ w.table.names → SqlStep.stagingColumn ∉ w.table.names) ∧
      ∃ D, d.sqlFormula? = some D ∧ v = w.filled o D.written.1.dtype D.written.2 := by
  simp only [undropped_sql_eq_ok hs hw, SqlStep.run_default_eq_ok hcolumns hdistinct hlive hd]
  constructor
  · rintro ⟨⟨_, hplain, hstaging, D, hD, htable, -⟩, hexpanded⟩
    exact ⟨hplain, hstaging, D, hD, by rw [Working.filled, ← htable, ← hexpanded]⟩
  · rintro ⟨hplain, hstaging, D, hD, rfl⟩
    exact ⟨⟨_, hplain, hstaging, D, hD, rfl, rfl⟩, rfl⟩

end Behind

/-- Two, as a double, is spelled without a point. -/
theorem sqlFormula?_two :
    (Literal.float (.finite false (2 ^ 52) (-51))).sqlFormula? = some (.whole 2) := by
  have hread : numberOf (Layout.plain.write .double (.finite false (2 ^ 52) (-51))) =
      .ok (.inl 2) := by
    decide +kernel
  rw [Literal.sqlFormula?, signedNumber?, hread]
  rfl

end CompiledPlan

end FocusBilling
