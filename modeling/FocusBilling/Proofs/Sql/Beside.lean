import FocusBilling.Proofs.Sql.Choices
import FocusBilling.Proofs.Sql.Missing
import FocusBilling.Proofs.Sql.Reading
import FocusBilling.Proofs.Tables
import FocusBilling.Sql.Run

/-!
# One more column beside all others

What a `SELECT` of all columns of a table and of one more makes of that table.

* `besideScope` : what the expression of the new column may name;
* `checked_named`, `run_selectBeside` : what is refused, and the list of columns over the table;
* `runOn_beside` : **the statement keeps all columns and adds the new one, or fails as the formula
  of the new column fails.**
-/

namespace FocusBilling

namespace Sql

/-! ### Columns of a grid -/

section Columns

variable {g : Grid} {count : Except FrameError Nat} {d : Deferred}

@[simp] theorem Grid.spread_ofColumn : Grid.spread count (.ofColumn d) = d := by
  obtain ⟨t, cells⟩ := d
  have hsettled : (Outcome.ofColumn ⟨t, cells⟩).settled = Outcome.ofColumn ⟨t, cells⟩ :=
    if_pos (DType.same_self t)
  simp only [Grid.spread, hsettled]
  rfl

/-- All columns of a table by their names. -/
theorem evaluated_columns (h : g.names.Nodup) :
    evaluated g (g.names.map .column) =
      .ok (g.columns.map fun c => (c.1, Outcome.ofColumn c.2)) := by
  have hall : ∀ c ∈ g.columns, g.columns.lookup c.1 = some c.2 := fun c hc =>
    Table.lookup_eq_some h hc
  rw [Grid.names, evaluated, List.map_map, mapM_eq_ok, List.forall₂_map_left_iff,
    List.forall₂_map_right_iff, List.forall₂_same]
  intro c hc
  simp [Formula.eval, Formula.name, Grid.column, hall c hc]

end Columns

/-! ### The list of columns -/

section List

variable {t : Table} {c : Catalog} {e : Expr} {F : Formula} {label table : Name}

/-- What an expression in a statement about a table may name. -/
def besideScope (t : Table) (c : Catalog) : Scope :=
  ⟨c.putTable tableName (.ok (.ofTable t)), (Grid.ofTable t).schema, fun _ => unsupported⟩

/-- A table with one more column. -/
def withColumn (t : Table) (label : String) (o : Outcome) : Grid :=
  ⟨.ok t.height, t.columns ++ [(label, Grid.spread (.ok t.height) o)]⟩

/-- The formulas of all columns of a table and of one more. -/
def besideItems (t : Table) (F : Formula) (label : String) : List Formula :=
  t.names.map .column ++ [.named F label]

/-- A list of all columns and one more. -/
theorem selectedBy_beside (ht : t.Proper) (hlabel : label.text ∉ t.names) :
    selectedBy (besideItems t F label.text) (.ok (.ofTable t)) =
      (F.eval false (.ofTable t)).map (withColumn t label.text) := by
  have hcolumns := evaluated_columns (g := .ofTable t) ht.distinct
  have hitems : evaluated (.ofTable t) (besideItems t F label.text) =
      (F.eval false (.ofTable t)).map fun o =>
        (t.columns.map fun c => (c.1, Outcome.ofColumn c.2)) ++ [(label.text, o)] := by
    have hcolumns : (t.names.map Formula.column).mapM (fun a => do
        pure (a.name, ← a.eval false (.ofTable t))) =
          .ok (t.columns.map fun c => (c.1, Outcome.ofColumn c.2)) := hcolumns
    rw [besideItems, evaluated, List.mapM_append, hcolumns, List.mapM_cons, List.mapM_nil,
      Formula.eval]
    cases F.eval false (.ofTable t) <;> rfl
  have hselect : ∀ o : Outcome, (Grid.ofTable t).select
      ((t.columns.map fun c => (c.1, Outcome.ofColumn c.2)) ++ [(label.text, o)]) =
        .ok (withColumn t label.text o) := by
    intro o
    have hnames : ((t.columns.map fun c => (c.1, Outcome.ofColumn c.2)) ++
        [(label.text, o)]).map (·.1) = t.names ++ [label.text] := by
      simp [Table.names]
    have hdistinct : (t.names ++ [label.text]).Nodup := by
      refine List.nodup_append.2 ⟨ht.distinct, by simp, ?_⟩
      rintro n hn m hm rfl
      exact hlabel (List.mem_singleton.1 hm ▸ hn)
    -- there is a column with a cell for each row
    have hscalar : ((t.columns.map fun c => (c.1, Outcome.ofColumn c.2)) ++
        [(label.text, o)]).all (·.2.isScalar) = false := by
      obtain ⟨c, columns, hc⟩ := List.exists_cons_of_ne_nil ht.columns
      simp [hc, Outcome.ofColumn]
    rw [Grid.select, Grid.ifDistinct, hnames, Table.repeated?_eq_none hdistinct, hscalar]
    simp [withColumn, Grid.ofTable, Function.comp_def]
  have hrun : selectedBy (besideItems t F label.text) (.ok (.ofTable t)) =
      evaluated (.ofTable t) (besideItems t F label.text) >>=
        (Grid.ofTable t).select := rfl
  rw [hrun, hitems]
  cases F.eval false (.ofTable t) with
  | error e => rfl
  | ok o => exact hselect o

/-- A table whose columns are asked for by their names has none that it lacks. -/
theorem checked_column {n : String} (hn : Table.IsPlain n) (hmem : n ∈ t.names) :
    checked (.ofTable t) (.column n) = .ok () := by
  have hplain : ((Formula.column n).reads.any fun n => n = "*" || Table.isPattern n) = false := by
    simp [Formula.reads, hn.1, hn.2]
  rw [checked, hplain, Formula.eval, Grid.column]
  obtain ⟨⟨m, d⟩, hc, rfl⟩ := List.mem_map.1 hmem
  cases hlookup : (Grid.ofTable t).columns.lookup m with
  | some d => rfl
  | none =>
    rw [List.lookup_eq_none_iff] at hlookup
    simpa using hlookup (m, d) hc

/-- All columns of the table are there, so that only the new one can be refused. -/
theorem mapM_checked_beside (ht : t.Proper) (F : Formula) (label : String) :
    (besideItems t F label).mapM (checked (.ofTable t)) =
      (checked (.ofTable t) (.named F label)).map fun _ => t.names.map (fun _ => ()) ++ [()] := by
  have hcolumns : (t.names.map Formula.column).mapM (checked (.ofTable t)) =
      .ok (t.names.map fun _ => ()) := by
    rw [mapM_eq_ok, List.forall₂_map_left_iff, List.forall₂_map_right_iff, List.forall₂_same]
    exact fun n hn => checked_column (ht.plain n hn) hn
  rw [besideItems, List.mapM_append, hcolumns, List.mapM_cons, List.mapM_nil]
  cases checked (Grid.ofTable t) (.named F label) <;> rfl

/-- The new column is refused only if its type or a column that it reads is not known. -/
theorem checked_named (hreads : ∀ n ∈ F.reads, Table.IsPlain n) (label : String) :
    checked (.ofTable t) (.named F label) =
      match F.eval false (.ofTable t) with
      | .error (.missingColumn n) => .error (.frame (.missingColumn n))
      | .error .untyped => unsupported
      | _ => .ok () := by
  have hpatterns : ((Formula.named F label).reads.any fun n =>
      n = "*" || Table.isPattern n) = false := by
    rw [List.any_eq_false]
    intro n hn
    have hplain := hreads n hn
    simp [hplain.1, hplain.2]
  rw [checked, hpatterns, Formula.eval]
  rfl

/-- Nothing is left out of the list of columns, and it has a column of the table in it, so that it
is as high as the table. -/
theorem selectedPlainly_beside (ht : t.columns ≠ []) (label : String) (d : Catalog) :
    selectedPlainly d [] (besideItems t F label) .none (.ok (.ofTable t)) =
      .ok (selectedBy (besideItems t F label) (.ok (.ofTable t))) := by
  have hkept : (besideItems t F label).filter
      (fun a => Modifiers.none.admits a.name) = besideItems t F label := by
    rw [List.filter_eq_self]
    exact fun a _ => rfl
  have hrows : (besideItems t F label).all
      (fun a => a.height = .inherited) = false := by
    obtain ⟨c, columns, hc⟩ := List.exists_cons_of_ne_nil ht
    simp [besideItems, Table.names, hc, Formula.height, Formula.any, Formula.reads,
      Formula.isTotal]
  simp only [selectedPlainly, hkept, hrows]
  rfl

/-- The list of columns over the table. -/
theorem run_selectBeside {query : Query → Elaborated Draft} (ht : t.columns ≠ []) :
    (selectBeside e label table).run (c.putTable tableName (.ok (.ofTable t))) query []
        (.ok (.ofTable t)) =
      (do
        let F ← (besideScope t c).formula e
        let _ ← (besideItems t F label.text).mapM (checked (.ofTable t))
        pure (selectedBy (besideItems t F label.text) (.ok (.ofTable t)))) := by
  have hstar : (besideScope t c).starColumns [] = .ok (t.names.map .column) := by
    simp [Scope.starColumns, besideScope, Grid.schema, Grid.ofTable, Table.names]
  have hitems : (besideScope t c).listFormulas (selectBeside e label table).items =
      (besideScope t c).formula e >>= fun F => .ok (besideItems t F label.text, .none) := by
    simp only [selectBeside, Scope.listFormulas, Scope.itemFormulas, hstar]
    cases (besideScope t c).formula e <;> rfl
  have hbefore : settled (.ok (.ofTable t)) = .ok (.ofTable t) := rfl
  simp only [Select.run, hbefore]
  change ((besideScope t c).listFormulas (selectBeside e label table).items >>= _) = _
  rw [hitems]
  cases (besideScope t c).formula e with
  | error e => rfl
  | ok F =>
    change ((besideItems t F label.text).mapM (checked (.ofTable t)) >>= fun _ => selectedPlainly
      (c.putTable tableName (.ok (.ofTable t))) [] (besideItems t F label.text) .none
        (.ok (.ofTable t)) >>= _) = _
    rw [selectedPlainly_beside ht]
    rfl

/-! ### The statement -/

section Plan

variable {α β : Type} {p : Planning α} {f : α → Planning β} {x : Elaborated α} {d : Catalog}

theorem bind_planning (h : p c = x.map fun a => (a, d)) : (p >>= f) c = x.bind fun a => f a d := by
  have hbind : (p >>= f) c = (p c).bind fun r => f r.1 r.2 := rfl
  rw [hbind, h]
  cases x <;> rfl

theorem lift_planning : (liftM x : Planning α) c = x.map fun a => (a, c) := by
  cases x <;> rfl

end Plan

/-- The plan of the statement. -/
theorem run_statementBeside (t : Table) (c : Catalog) (e : Expr) (label : Name) (p : Span)
    (n : Nat) : ∃ query,
    (Statement.query (.ofBody (.select (selectBeside e label ⟨tableName, none, p⟩)))).run
        (plannerAt (n + 4)) (c.putTable tableName (.ok (.ofTable t))) =
      ((selectBeside e label ⟨tableName, none, p⟩).run (c.putTable tableName (.ok (.ofTable t)))
        query [] (.ok (.ofTable t))).map fun d =>
          (d, c.putTable tableName (.ok (.ofTable t))) := by
  generalize hq : selectBeside e label ⟨tableName, none, p⟩ = q
  generalize hc : c.putTable tableName (.ok (.ofTable t)) = c'
  -- the only table is found by its name, and no step changes the tables that are known
  have htables : (plannerAt (n + 1)).tables q.tables c' =
      (.ok (.ok (.ofTable t)) : Elaborated Draft).map fun d => (d, c') := by
    subst hq hc
    rfl
  obtain ⟨query, hbody⟩ : ∃ query, (plannerAt (n + 2)).body [] (.select q) c' =
      (q.run c' query [] (.ok (.ofTable t))).map fun d => (d, c') := by
    refine ⟨fun q => if q.names.isEmpty then
      (((plannerAt (n + 1)).query q).run c').map (·.1) else unsupported, ?_⟩
    change bodyPlan (plannerAt (n + 1)) [] (.select q) c' = _
    unfold bodyPlan
    refine (bind_planning htables).trans ?_
    refine (bind_planning (x := .ok c') rfl).trans ?_
    exact lift_planning
  refine ⟨query, ?_⟩
  have hquery : (plannerAt (n + 3)).query (.ofBody (.select q)) c' =
      (q.run c' query [] (.ok (.ofTable t))).map fun d => (d, c') := by
    change queryPlan (plannerAt (n + 2)) (.ofBody (.select q)) c' = _
    unfold queryPlan
    refine (bind_planning hbody).trans ?_
    cases q.run c' query [] (.ok (.ofTable t)) <;> rfl
  exact hquery

/-- What a statement makes that puts one more column beside all others, and how it fails. -/
theorem runOn_eq {text : String} {place : Span} (ht : t.columns ≠ [])
    (htext : parse? true text =
      some [.query (.ofBody (.select (selectBeside e label ⟨tableName, none, place⟩)))]) :
    runOn text t c =
      (do
        let F ← (besideScope t c).formula e
        let _ ← (besideItems t F label.text).mapM (checked (.ofTable t))
        let g ← (selectedBy (besideItems t F label.text) (.ok (.ofTable t))).mapError .frame
        pure (g.toTable, (c.putTable tableName (.ok (.ofTable t))).betweenStatements)) := by
  obtain ⟨query, hrun⟩ := run_statementBeside t c e label place (4 * text.length)
  have hexecute : execute text (c.putTable tableName (.ok (.ofTable t))) =
      (do
        let F ← (besideScope t c).formula e
        let _ ← (besideItems t F label.text).mapM (checked (.ofTable t))
        pure (selectedBy (besideItems t F label.text) (.ok (.ofTable t)),
          (c.putTable tableName (.ok (.ofTable t))).betweenStatements)) := by
    rw [execute, htext]
    change Except.map _ (Statement.run _ _ _) = _
    rw [hrun, run_selectBeside ht]
    cases (besideScope t c).formula e with
    | error e => rfl
    | ok F =>
      change Except.map _ (Except.map _ ((besideItems t F label.text).mapM _ >>= _)) =
        ((besideItems t F label.text).mapM _ >>= _)
      cases (besideItems t F label.text).mapM (checked (.ofTable t)) <;> rfl
  rw [runOn, hexecute]
  cases (besideScope t c).formula e with
  | error e => rfl
  | ok F =>
    change ((besideItems t F label.text).mapM _ >>= _) >>= _ =
      ((besideItems t F label.text).mapM _ >>= _)
    cases (besideItems t F label.text).mapM (checked (.ofTable t)) <;> rfl

/-- What a statement makes that puts one more column beside all others. -/
theorem runOn_beside {text : String} {place : Span} (ht : t.Proper) (hlabel : label.text ∉ t.names)
    (htext : parse? true text =
      some [.query (.ofBody (.select (selectBeside e label ⟨tableName, none, place⟩)))])
    (he : (besideScope t c).formula e = .ok F) (hreads : ∀ n ∈ F.reads, Table.IsPlain n) :
    runOn text t c = match F.eval false (.ofTable t) with
      | .error .untyped => unsupported
      | .error e => .error (.frame e)
      | .ok o => .ok ((withColumn t label.text o).toTable,
          (c.putTable tableName (.ok (.ofTable t))).betweenStatements) := by
  rw [runOn_eq ht.columns htext, he]
  change ((besideItems t F label.text).mapM (checked (.ofTable t)) >>= _) = _
  rw [mapM_checked_beside ht, selectedBy_beside ht hlabel, checked_named hreads]
  cases F.eval false (.ofTable t) with
  | ok o => rfl
  | error e => cases e <;> rfl

/-- A list of columns has no name twice. -/
theorem nodup_of_selectedBy {items : List Formula} {g g' : Grid}
    (h : selectedBy items (.ok g) = .ok g') : (items.map Formula.name).Nodup := by
  obtain ⟨outcomes, houtcomes, hselect⟩ :
      ∃ outcomes, evaluated g items = .ok outcomes ∧ g.select outcomes = .ok g' := by
    have hrun : evaluated g items >>= g.select = .ok g' := h
    simpa using hrun
  have hnames : outcomes.map (·.1) = items.map Formula.name := by
    refine map_eq_of_mapM houtcomes fun a o ho => ?_
    simp only [bind_eq_ok, pure_eq_ok] at ho
    obtain ⟨_, _, rfl⟩ := ho
    rfl
  rw [← hnames]
  rw [Grid.select, Grid.ifDistinct] at hselect
  split at hselect
  next => cases hselect
  next hnone => exact Table.nodup_of_repeated? hnone

theorem isPlain_of_checked {g : Grid} (h : checked g F = .ok ()) :
    ∀ n ∈ F.reads, Table.IsPlain n := by
  intro n hn
  rw [checked] at h
  split at h
  next => cases h
  next hany =>
    simp only [List.any_eq_true, not_exists, not_and, Bool.or_eq_true, decide_eq_true_eq,
      not_or, Bool.not_eq_true] at hany
    exact hany n hn

/-- **When a statement succeeds that puts one more column beside all others**, and what it makes:
all names must be plain, the new one must be new, and its formula must mean something. -/
theorem runOn_eq_ok {text : String} {place : Span} {u : Table} {c' : Catalog}
    (ht : t.columns ≠ []) (hdistinct : t.names.Nodup)
    (htext : parse? true text =
      some [.query (.ofBody (.select (selectBeside e label ⟨tableName, none, place⟩)))]) :
    runOn text t c = .ok (u, c') ↔
      (∀ n ∈ t.names, Table.IsPlain n) ∧ label.text ∉ t.names ∧
      ∃ F o, (besideScope t c).formula e = .ok F ∧ (∀ n ∈ F.reads, Table.IsPlain n) ∧
        F.eval false (.ofTable t) = .ok o ∧ u = (withColumn t label.text o).toTable ∧
        c' = (c.putTable tableName (.ok (.ofTable t))).betweenStatements := by
  constructor
  · intro h
    have hsteps := h
    rw [runOn_eq ht htext] at hsteps
    simp only [bind_eq_ok, pure_eq_ok, mapError_eq_ok] at hsteps
    obtain ⟨F, hF, _, hchecked, g, hg, _⟩ := hsteps
    have hall : ∀ a ∈ besideItems t F label.text, checked (.ofTable t) a = .ok () := by
      intro a ha
      obtain ⟨_, _, h⟩ := exists_of_mem_mapM hchecked ha
      exact h
    have hplain : ∀ n ∈ t.names, Table.IsPlain n := fun n hn =>
      isPlain_of_checked (hall (.column n) (List.mem_append_left _ (List.mem_map_of_mem hn))) n
        (by simp [Formula.reads])
    have hreads : ∀ n ∈ F.reads, Table.IsPlain n := fun n hn =>
      isPlain_of_checked (hall (.named F label.text) (by simp [besideItems])) n
        (by rwa [Formula.reads])
    have hlabel : label.text ∉ t.names := by
      have hnodup := nodup_of_selectedBy hg
      simp only [besideItems, List.map_append, List.map_map, List.map_cons, List.map_nil,
        Function.comp_def, Formula.name, List.map_id', List.nodup_append] at hnodup
      exact fun hmem => hnodup.2.2 _ hmem _ (List.mem_singleton.2 rfl) rfl
    have hrun := runOn_beside (c := c) ⟨ht, hdistinct, hplain⟩ hlabel htext hF hreads
    rw [h] at hrun
    refine ⟨hplain, hlabel, F, ?_⟩
    cases ho : F.eval false (.ofTable t) with
    | error e =>
      rw [ho] at hrun
      cases e <;> cases hrun
    | ok o =>
      rw [ho] at hrun
      cases hrun
      exact ⟨o, hF, hreads, rfl, rfl, rfl⟩
  · rintro ⟨hplain, hlabel, F, o, he, hreads, ho, rfl, rfl⟩
    rw [runOn_beside ⟨ht, hdistinct, hplain⟩ hlabel htext he hreads, ho]

end List

end Sql

end FocusBilling
