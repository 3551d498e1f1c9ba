import FocusBilling.Batch.Apply
import FocusBilling.Proofs.Sql.Beside
import FocusBilling.Proofs.Sql.Clauses

/-!
# Conditions

What a condition makes of the table between two steps.

* `SqlStep.unstage_eq` : the staging column takes the place of the column that is overwritten;
* `SqlStep.run_condition` : the statement of a condition and what is done with its staging column;
* `SqlStep.condition_fills` : **each row takes the value of the first live clause whose condition is
  true there, and nothing else changes.**
-/

namespace FocusBilling

namespace SqlStep

variable {t : Table} {o : String} {d : Deferred}

/-- The staging column takes the place of the column that is overwritten. -/
theorem unstage_eq (ht : t.Proper) (hstaging : stagingColumn ∉ t.names) (ho : o ∈ t.names) :
    unstage ⟨t.height, t.columns ++ [(stagingColumn, d)]⟩ t.names o =
      .ok ⟨t.height, Table.putIn o d t.columns⟩ := by
  generalize hu : (⟨t.height, t.columns ++ [(stagingColumn, d)]⟩ : Table) = u
  have hlookup : ∀ c ∈ t.columns ++ [(stagingColumn, d)], u.get c.1 = .ok c.2 := by
    have hall : ((t.columns ++ [(stagingColumn, d)]).map (·.1)).Nodup := by
      rw [List.map_append, List.nodup_append]
      refine ⟨ht.distinct, by simp, ?_⟩
      rintro n hn m hm rfl
      have heq : n = stagingColumn := List.mem_singleton.1 hm
      exact hstaging (heq ▸ hn)
    intro c hc
    rw [← hu, Table.get, Table.find?, Table.lookup_eq_some hall hc]
  -- each name is looked for on its own, and only the overwritten one gives another column
  have hfound : (t.names.mapM fun n =>
      if n = o then do pure [(n, ← u.get stagingColumn)]
      else do (← u.matching n).mapM fun m => do pure (m, ← u.get m)) =
        (.ok (t.columns.map fun c => [(c.1, if c.1 = o then d else c.2)]) :
          Except FrameError (List (List (String × Deferred)))) := by
    rw [Table.names, mapM_eq_ok, List.forall₂_map_left_iff, List.forall₂_map_right_iff,
      List.forall₂_same]
    intro c hc
    by_cases heq : c.1 = o
    · simp [heq, hlookup (stagingColumn, d) (by simp)]
    · have hmatching : u.matching c.1 = .ok [c.1] :=
        Table.matching_of_plain (ht.plain c.1 (List.mem_map.2 ⟨c, hc, rfl⟩))
      simp [heq, hmatching, hlookup c (List.mem_append_left _ hc)]
  have hflatten : (t.columns.map fun c => [(c.1, if c.1 = o then d else c.2)]).flatten =
      Table.putIn o d t.columns := by
    rw [Table.putIn_of_mem ht.distinct ho, ← List.flatMap_def, ← List.map_eq_flatMap]
  have hdistinct : ((Table.putIn o d t.columns).map (·.1)).Nodup := by
    rw [Table.names_putIn]
    change (if o ∈ t.names then t.names else t.names ++ [o]).Nodup
    rw [if_pos ho]
    exact ht.distinct
  have hempty : (Table.putIn o d t.columns).isEmpty = false := by
    obtain ⟨c, columns, hc⟩ := List.exists_cons_of_ne_nil ht.columns
    rw [hc, Table.putIn]
    split <;> rfl
  rw [unstage, hfound]
  change Table.ofColumns u.height _ = _
  rw [hflatten, Table.ofColumns, Table.repeated?_eq_none hdistinct, hempty, ← hu]
  rfl

section Condition

variable {c : Sql.Catalog} {clauses : List String} {default : Literal} {D : Sql.Formula}
  {ms : List (Sql.Formula × Sql.Formula)}

/-- The column that a statement has put beside all others is put where it belongs. -/
theorem run_of_runOn {text : String} {c' : Sql.Catalog} {found : Sql.Outcome} (ht : t.Proper)
    (hfresh : Sql.conditionLabel t.names o ∉ t.names)
    (hrun : Sql.runOn ((condition o clauses text).render (some t.names)) t c =
      .ok ((Sql.withColumn t (Sql.conditionLabel t.names o) found).toTable, c')) :
    (condition o clauses text).run t c =
      .ok (⟨t.height, Table.putIn o (Sql.Grid.spread (.ok t.height) found) t.columns⟩, c') := by
  have hmade : ∀ label, (Sql.withColumn t label found).toTable =
      ⟨t.height, t.columns ++ [(label, Sql.Grid.spread (.ok t.height) found)]⟩ := fun label => rfl
  simp only [run, hrun]
  by_cases ho : o ∈ t.names
  · have hreplaced : replacedColumn t.names (condition o clauses text) = some o := by
      simp [replacedColumn, ho]
    have hlabel : Sql.conditionLabel t.names o = stagingColumn := by
      simp [Sql.conditionLabel, ho]
    rw [hlabel] at hfresh
    rw [hreplaced, hlabel]
    change ((unstage (Sql.withColumn t stagingColumn found).toTable t.names o).mapError
      ApplyError.ofFrame >>= fun u => pure (u, _)) = Except.ok (_, _)
    rw [hmade, unstage_eq ht hfresh ho]
    rfl
  · have hreplaced : replacedColumn t.names (condition o clauses text) = none := by
      simp [replacedColumn, ho]
    have hlabel : Sql.conditionLabel t.names o = o := by
      simp [Sql.conditionLabel, ho]
    rw [hreplaced, hlabel]
    change Except.ok ((Sql.withColumn t o found).toTable, _) = Except.ok (_, _)
    rw [hmade, Table.putIn_of_not_mem ho]

/-- The new column of a statement is new, where there is no staging column. -/
theorem conditionLabel_not_mem (hstaging : o ∈ t.names → stagingColumn ∉ t.names) :
    Sql.conditionLabel t.names o ∉ t.names := by
  rw [Sql.conditionLabel]
  by_cases ho : o ∈ t.names
  · simpa [ho] using hstaging ho
  · simp [ho]

/-- What a condition makes of a table, and how it fails. -/
theorem run_condition (ht : t.Proper) (hstaging : stagingColumn ∉ t.names)
    (hdefault : default.sqlFormula? = some D)
    (hclauses : List.Forall₂ (Sql.ReadsClause (Sql.besideScope t c))
      (clauses.filter (isLive t.names)) ms)
    (hreads : ∀ n ∈ (Sql.choiceFormula ms D).reads, Table.IsPlain n) :
    (condition o clauses default.sql).run t c =
      match (Sql.choiceFormula ms D).eval false (.ofTable t) with
      | .error .untyped =>
        .error (.sql ((condition o clauses default.sql).render (some t.names)))
      | .error e => .error (.ofFrame e)
      | .ok found =>
        .ok (⟨t.height, Table.putIn o (Sql.Grid.spread (.ok t.height) found) t.columns⟩,
          (c.putTable Sql.tableName (.ok (.ofTable t))).betweenStatements) := by
  obtain ⟨e, label, place, hlabel, htext, he⟩ :=
    Sql.exists_parse_render_of_reads (o := o) hclauses hdefault
  -- either way the statement adds a column that is not there yet
  have hfresh := conditionLabel_not_mem (o := o) fun _ => hstaging
  rw [← hlabel] at hfresh
  have hrun := Sql.runOn_beside (c := c) ht hfresh htext he hreads
  cases hfound : (Sql.choiceFormula ms D).eval false (.ofTable t) with
  | error e =>
    rw [hfound] at hrun
    simp only [run, hrun]
    cases e <;> rfl
  | ok found =>
    rw [hfound, hlabel] at hrun
    exact run_of_runOn ht (hlabel ▸ hfresh) hrun

/-- **When a condition succeeds**, and what it makes of a table: all names must be plain, there must
be no staging column where one is needed, and the choice between its branches must mean
something. -/
theorem run_condition_eq_ok {text : String} {e : Sql.Expr} {label : Sql.Name} {place : Sql.Span}
    {u : Table} {c' : Sql.Catalog} (ht : t.columns ≠ []) (hdistinct : t.names.Nodup)
    (hlabel : label.text = Sql.conditionLabel t.names o)
    (htext : Sql.parse? true ((condition o clauses text).render (some t.names)) =
      some [.query (.ofBody (.select (Sql.selectBeside e label ⟨Sql.tableName, none, place⟩)))]) :
    (condition o clauses text).run t c = .ok (u, c') ↔
      (∀ n ∈ t.names, Table.IsPlain n) ∧ (o ∈ t.names → stagingColumn ∉ t.names) ∧
      ∃ F found, (Sql.besideScope t c).formula e = .ok F ∧ (∀ n ∈ F.reads, Table.IsPlain n) ∧
        F.eval false (.ofTable t) = .ok found ∧
        u = ⟨t.height, Table.putIn o (Sql.Grid.spread (.ok t.height) found) t.columns⟩ ∧
        c' = (c.putTable Sql.tableName (.ok (.ofTable t))).betweenStatements := by
  constructor
  · intro h
    obtain ⟨⟨made, c₁⟩, hmade, _⟩ : ∃ r, Sql.runOn ((condition o clauses text).render
        (some t.names)) t c = .ok r ∧ _ := by
      simpa only [run, bind_eq_ok, mapError_eq_ok] using h
    obtain ⟨hplain, hfresh, F, found, hF, hreads, hfound, rfl, rfl⟩ :=
      (Sql.runOn_eq_ok ht hdistinct htext).1 hmade
    rw [hlabel] at hfresh hmade
    rw [run_of_runOn ⟨ht, hdistinct, hplain⟩ hfresh hmade] at h
    cases h
    refine ⟨hplain, fun ho => ?_, F, found, hF, hreads, hfound, rfl, rfl⟩
    simpa [Sql.conditionLabel, ho] using hfresh
  · rintro ⟨hplain, hstaging, F, found, hF, hreads, hfound, rfl, rfl⟩
    have hfresh := conditionLabel_not_mem hstaging
    refine run_of_runOn ⟨ht, hdistinct, hplain⟩ hfresh ?_
    rw [← hlabel] at hfresh ⊢
    exact (Sql.runOn_eq_ok ht hdistinct htext).2
      ⟨hplain, hfresh, F, found, hF, hreads, hfound, rfl, rfl⟩

/-- A table on which a condition can be carried out: it has columns, each of which has a name of its
own that stands for it only, and none of them is the staging column. -/
structure AdmitsConditions (t : Table) : Prop extends t.Proper where
  /-- There is no staging column. -/
  unstaged : stagingColumn ∉ t.names

/-- A clause is one branch of a choice, with what its condition and its result mean, and these read
the columns only that are found in the clause. -/
structure ClauseMeans (s : Sql.Scope) (clause : String) (m : Sql.Formula × Sql.Formula) : Prop where
  /-- The clause is read as one branch. -/
  reads : Sql.ReadsClause s clause m
  /-- The columns that are read are found. -/
  columns : ∀ n ∈ m.1.reads ++ m.2.reads, n ∈ Sql.conditionColumns clause

/-- What live clauses read is in the table. -/
theorem mem_names_of_live {s : Sql.Scope}
    (h : List.Forall₂ (ClauseMeans s) (clauses.filter (isLive t.names)) ms)
    {m : Sql.Formula × Sql.Formula} (hm : m ∈ ms) {n : String} (hn : n ∈ m.1.reads ++ m.2.reads) :
    n ∈ t.names := by
  have hlive : ∀ clause ∈ clauses.filter (isLive t.names), isLive t.names clause = true :=
    fun clause hc => (List.mem_filter.1 hc).2
  generalize clauses.filter (isLive t.names) = live at h hlive
  induction h with
  | nil => cases hm
  | @cons clause m' live ms hmeans _ ih =>
    rcases List.mem_cons.1 hm with rfl | hrest
    · have hfound := List.all_eq_true.1 (hlive clause List.mem_cons_self) n (hmeans.columns n hn)
      exact List.contains_iff_mem.1 hfound
    · exact ih hrest fun clause hc => hlive clause (List.mem_cons_of_mem _ hc)

end Condition

end SqlStep

end FocusBilling
