import FocusBilling.Proofs.Assignments
import FocusBilling.Proofs.Conditions
import FocusBilling.Proofs.Frames
import FocusBilling.Proofs.Sql.RowFormulas

/-!
# Plans over stacked batches

A plan looks at one row at a time, so it does not matter where a batch is cut.

* `Frame.stacked_toTable`, `Frame.stacked_collect` : the rows of a frame below those of another;
* `SqlStep.joined_run` : a condition over two parts and over the whole;
* `CompiledPlan.apply_append` : **what a plan makes of two frames one below the other is what it
  makes of each of them, one below the other.**
-/

namespace FocusBilling

/-! ### Frames -/

namespace Frame

variable {f₁ f₂ : Frame} {σ : List (String × DType)}

theorem names_toTable (f : Frame) : f.toTable.names = f.names := by
  rw [Table.names, Frame.toTable, List.map_map]
  rfl

/-- The columns of the table of a frame are those of its schema. -/
theorem Fits.names_toTable {f : Frame} (hf : f.Fits σ) : f.toTable.names = σ.map (·.1) := by
  rw [← hf.schema_eq, Table.names, toTable, schema, List.map_map, List.map_map]
  rfl

theorem Fits.columns_ne_nil {f : Frame} (hf : f.Fits σ) (hσ : σ ≠ []) : f.toTable.columns ≠ [] := by
  intro h
  have hnames := hf.names_toTable
  rw [Table.names, h, List.map_nil] at hnames
  exact hσ (List.map_eq_nil_iff.1 hnames.symm)

/-- The tables of frames, one below the other. -/
theorem stacked_toTable (hf₁ : f₁.Fits σ) (hf₂ : f₂.Fits σ) :
    Table.Stacked f₁.height f₂.height f₁.toTable f₂.toTable (f₁.append f₂).toTable := by
  refine ⟨rfl, rfl, rfl, ?_⟩
  obtain ⟨h₁, cs₁⟩ := f₁
  obtain ⟨h₂, cs₂⟩ := f₂
  have hschema : cs₁.map (fun c => (c.name, c.dtype)) = cs₂.map fun c => (c.name, c.dtype) :=
    hf₁.schema_eq.trans hf₂.schema_eq.symm
  have hlen₁ : ∀ c ∈ cs₁, c.cells.length = h₁ := hf₁.length_cells
  have hlen₂ : ∀ c ∈ cs₂, c.cells.length = h₂ := hf₂.length_cells
  clear hf₁ hf₂
  simp only [toTable, append, List.map_map]
  induction cs₁ generalizing cs₂ with
  | nil =>
    obtain rfl := List.map_eq_nil_iff.1 hschema.symm
    exact .nil
  | cons c₁ cs₁ ih =>
    obtain ⟨c₂, rest, rfl, hkind, hrest⟩ := List.map_eq_cons_iff.1 hschema.symm
    obtain ⟨n, t, x₁⟩ := c₁
    obtain ⟨_, _, x₂⟩ := c₂
    cases hkind
    have hcells : Appended h₁ h₂ x₁ x₂ (x₁ ++ x₂) :=
      ⟨hlen₁ _ List.mem_cons_self, hlen₂ _ List.mem_cons_self, rfl⟩
    exact .cons (.mk (.mk (.ok hcells))) (ih rest hrest.symm
      (fun c hc => hlen₁ c (List.mem_cons_of_mem _ hc))
      fun c hc => hlen₂ c (List.mem_cons_of_mem _ hc))

/-- Columns at hand, one below the other. -/
def ColumnAppended (h₁ h₂ : Nat) (c₁ c₂ c : Column) : Prop :=
  (c₁.name = c.name ∧ c₁.dtype = c.dtype) ∧ (c₂.name = c.name ∧ c₂.dtype = c.dtype) ∧
    Appended h₁ h₂ c₁.cells c₂.cells c.cells

/-- Frames of columns that stand one below the other. -/
theorem append_of_columns {h₁ h₂ : Nat} {cs₁ cs₂ cs : List Column}
    (h : Each (ColumnAppended h₁ h₂) cs₁ cs₂ cs) :
    (Frame.mk (h₁ + h₂) cs = (Frame.mk h₁ cs₁).append ⟨h₂, cs₂⟩) ∧
      (Frame.mk h₁ cs₁).Fits (Frame.mk (h₁ + h₂) cs).schema ∧
        (Frame.mk h₂ cs₂).Fits (Frame.mk (h₁ + h₂) cs).schema := by
  have hschema := h.map_eq (f := fun c => (c.name, c.dtype)) fun c₁ c₂ c hc => by
    rw [hc.1.1, hc.1.2, hc.2.1.1, hc.2.1.2]
    exact ⟨rfl, rfl⟩
  have happend : cs = (cs₁.zip cs₂).map fun c => { c.1 with cells := c.1.cells ++ c.2.cells } := by
    clear hschema
    induction h with
    | nil => rfl
    | @cons c₁ c₂ c _ _ _ hc _ ih =>
      obtain ⟨n, t, x⟩ := c
      obtain ⟨⟨rfl, rfl⟩, _, hcells⟩ := hc
      rw [List.zip_cons_cons, List.map_cons, ← ih, ← hcells.whole]
  have hlen : (∀ c ∈ cs₁, c.cells.length = h₁) ∧ ∀ c ∈ cs₂, c.cells.length = h₂ := by
    clear hschema happend
    induction h with
    | nil => exact ⟨nofun, nofun⟩
    | cons hc _ ih =>
      simp only [List.mem_cons, forall_eq_or_imp]
      exact ⟨⟨hc.2.2.first, ih.1⟩, hc.2.2.second, ih.2⟩
  exact ⟨congrArg (Frame.mk (h₁ + h₂)) happend, ⟨hschema.1, hlen.1⟩, ⟨hschema.2, hlen.2⟩⟩

/-- The frame of a table is made of the frames of its parts. -/
theorem stacked_collect {h₁ h₂ : Nat} {t₁ t₂ t : Table}
    (h : Table.Stacked h₁ h₂ t₁ t₂ t) :
    Both (fun g₁ g₂ g => g = g₁.append g₂ ∧ g₁.Fits g.schema ∧ g₂.Fits g.schema)
      t₁.collect t₂.collect t.collect := by
  have hcolumns : Both (Each (ColumnAppended h₁ h₂))
      (t₁.columns.mapM fun c => do pure (Column.mk c.1 c.2.dtype (← c.2.cells)))
      (t₂.columns.mapM fun c => do pure (Column.mk c.1 c.2.dtype (← c.2.cells)))
      (t.columns.mapM fun c => do pure (Column.mk c.1 c.2.dtype (← c.2.cells))) := by
    refine .mapM h.columns fun _ _ _ hc => ?_
    obtain ⟨⟨hx⟩⟩ := hc
    exact hx.bind fun _ _ _ hcells => .ok ⟨⟨rfl, rfl⟩, ⟨rfl, rfl⟩, hcells⟩
  refine hcolumns.bind fun cs₁ cs₂ cs hcs => ?_
  rw [h.height₁, h.height₂, h.height]
  exact .ok (append_of_columns hcs)

end Frame

/-! ### Conditions -/

namespace Sql

/-- A text is one or more branches of a choice; what their conditions and results mean, if they mean
something, has a property. -/
def ReadsBranches (s : Scope) (P : Formula → Prop) (clause : String) : Prop :=
  ∃ branches : List Unit, SpellsBranches (fun _ c v => (∀ F, s.formula c = .ok F → P F) ∧
    ∀ F, s.formula v = .ok F → P F) clause branches

theorem ReadsBranches.imp {s : Scope} {P Q : Formula → Prop} {clause : String}
    (h : ReadsBranches s P clause) (hPQ : ∀ F, P F → Q F) : ReadsBranches s Q clause := by
  obtain ⟨branches, tss, hne, hspells, htakes⟩ := h
  refine ⟨branches, tss, hne, hspells, htakes.imp fun _ _ ht => ht.mono fun c v hcv => ?_⟩
  exact ⟨fun F hF => hPQ F (hcv.1 F hF), fun F hF => hPQ F (hcv.2 F hF)⟩

/-- A clause of one branch. -/
theorem ReadsClause.readsBranches {s : Scope} {P : Formula → Prop} {clause : String}
    {m : Formula × Formula} (h : ReadsClause s clause m) (hm : P m.1 ∧ P m.2) :
    ReadsBranches s P clause := by
  obtain ⟨ts, hspells, hreads⟩ := h
  refine ⟨[()], [ts], by simp, by simpa using hspells,
    .cons (TakesBranch.mono hreads fun c v hcv => ?_) .nil⟩
  constructor
  · intro F hF
    cases hcv.1.symm.trans hF
    exact hm.1
  · intro F hF
    cases hcv.2.symm.trans hF
    exact hm.2

/-- A catalog in which nothing is named but the table of a statement. -/
def Catalog.IsBare (c : Catalog) : Prop :=
  ∀ d, c.putTable tableName d = Catalog.empty.putTable tableName d

theorem Catalog.isBare_empty : empty.IsBare := fun _ => rfl

theorem Catalog.IsBare.next {c : Catalog} (h : c.IsBare) (d : Draft) :
    (c.putTable tableName d).betweenStatements.IsBare := by
  intro e
  rw [h d]
  simp [putTable, betweenStatements, empty]

/-- In front of tables of one schema the same columns may be named. -/
theorem besideScope_agrees {t u : Table} {c d : Catalog} (h : t.schema = u.schema) (hc : c.IsBare)
    (hd : d.IsBare) : (besideScope t c).Agrees (besideScope u d) := by
  have hgrid : (Grid.ofTable t).schema = (Grid.ofTable u).schema := h
  refine ⟨hgrid, rfl, ?_⟩
  funext path
  have hfind : ∀ (d : Draft) (root : String), (Catalog.empty.putTable tableName d).find? root =
      if root = tableName then some d else none := by
    intro d root
    by_cases hroot : root = tableName
    · simp [Catalog.find?, Catalog.putTable, Catalog.empty, hroot]
    · simp [Catalog.find?, Catalog.putTable, Catalog.empty, hroot]
  have hrenamed : ∀ (d : Draft) (a b : String),
      (Catalog.empty.putTable tableName d).renamedColumn a b = b := fun _ _ _ => rfl
  match path with
  | [] | [_] => rfl
  | root :: second :: rest =>
    simp only [besideScope, Scope.columns, Scope.columnOf, hc (.ok _), hd (.ok _), hfind, hrenamed]
    by_cases hroot : root = tableName
    · simp only [hroot, ↓reduceIte, settled, Except.mapError, bind, Except.bind, hgrid]
    · simp only [hroot, ↓reduceIte, hgrid]

end Sql

namespace SqlStep

/-- The live clauses of a condition are branches made of formulas with a property. -/
def ReadsBranches (P : Sql.Formula → Prop) (t : Table) (c : Sql.Catalog) : SqlStep → Prop
  | condition _ clauses _ =>
    ∀ clause ∈ clauses.filter (isLive t.names), Sql.ReadsBranches (Sql.besideScope t c) P clause
  | query _ => True

theorem ReadsBranches.imp {P Q : Sql.Formula → Prop} {t : Table} {c : Sql.Catalog} {s : SqlStep}
    (h : s.ReadsBranches P t c) (hPQ : ∀ F, P F → Q F) : s.ReadsBranches Q t c := by
  cases s with
  | condition o clauses text => exact fun clause hc => (h clause hc).imp hPQ
  | query _ => trivial

/-- Tables and catalogs between two steps in SQL, over two parts and over the whole. -/
structure RunJoined (h₁ h₂ : Nat) (r₁ r₂ r : Table × Sql.Catalog) : Prop where
  table : Table.Joined h₁ h₂ r₁.1 r₂.1 r.1
  distinct : r.1.names.Nodup
  bare₁ : r₁.2.IsBare
  bare₂ : r₂.2.IsBare
  bare : r.2.IsBare

/-- The formulas that do in each row of two parts what they do in the whole. -/
def RowFormula (h₁ h₂ : Nat) (t : Table) (F : Sql.Formula) : Prop :=
  F.isRowwise = true ∧ (h₁ = 0 ∨ h₂ = 0 ∨ F.IsLocal h₁ h₂ t)

variable {h₁ h₂ : Nat} {t₁ t₂ t : Table} {c₁ c₂ c : Sql.Catalog} {o : String}
  {clauses : List String}
  {d : Literal}

/-- The statement of a condition whose live clauses are branches is read as a choice between
them. -/
theorem exists_parse_condition {P : Sql.Formula → Prop}
    (h : ReadsBranches P t c (condition o clauses d.sql))
    (hchoose : ∀ c a b, P c → P a → P b → P (.choose c a b))
    (hdefault : ∀ F, d.sqlReading = .ok F → P F) :
    ∃ e label place, label.text = Sql.conditionLabel t.names o ∧
      Sql.parse? true ((condition o clauses d.sql).render (some t.names)) =
        some [.query (.ofBody (.select (Sql.selectBeside e label ⟨Sql.tableName, none, place⟩)))] ∧
      ∀ F, (Sql.besideScope t c).formula e = .ok F → P F := by
  obtain ⟨branches, default, label, place, hlabel, htext, hbranches, hd⟩ :=
    Sql.exists_parse_branches h o d
  exact ⟨_, label, place, hlabel, htext, fun F hF =>
    Sql.of_choiceExpr hF hchoose hbranches fun D hD => hdefault D (hd _ ▸ hD)⟩

/-- When a condition succeeds on a table with the columns of another, in terms of what its statement
means over the other. -/
theorem run_eq_ok_of_schema {u : Table} {c' : Sql.Catalog} {e : Sql.Expr} {label : Sql.Name}
    {place : Sql.Span} (hu : u.columns ≠ []) (hdistinct : t.names.Nodup)
    (hschema : u.schema = t.schema) (hbare : c.IsBare) (hbare' : c'.IsBare)
    (hlabel : label.text = Sql.conditionLabel t.names o)
    (htext : Sql.parse? true ((condition o clauses d.sql).render (some t.names)) =
      some [.query (.ofBody (.select (Sql.selectBeside e label ⟨Sql.tableName, none, place⟩)))])
    (r : Table × Sql.Catalog) :
    (condition o clauses d.sql).run u c' = .ok r ↔
      (∀ n ∈ t.names, Table.IsPlain n) ∧ (o ∈ t.names → stagingColumn ∉ t.names) ∧
      ∃ F found, (Sql.besideScope t c).formula e = .ok F ∧ (∀ n ∈ F.reads, Table.IsPlain n) ∧
        F.eval false (.ofTable u) = .ok found ∧
        r = (⟨u.height, Table.putIn o (Sql.Grid.spread (.ok u.height) found) u.columns⟩,
          (c'.putTable Sql.tableName (.ok (.ofTable u))).betweenStatements) := by
  have hnames := Table.names_eq_of_schema hschema
  rw [← hnames] at hdistinct hlabel htext ⊢
  rw [← Sql.Scope.formula_congr (Sql.besideScope_agrees hschema hbare' hbare) e]
  obtain ⟨v, d'⟩ := r
  simp only [Prod.mk.injEq]
  exact run_condition_eq_ok hu hdistinct hlabel htext

/-- **A condition makes of the whole what it makes of the parts.** -/
theorem joined_condition (h : RunJoined h₁ h₂ (t₁, c₁) (t₂, c₂) (t, c))
    (hreads : ReadsBranches (RowFormula h₁ h₂ t) t c (condition o clauses d.sql)) :
    Lifted (RunJoined h₁ h₂) ((condition o clauses d.sql).run t₁ c₁)
      ((condition o clauses d.sql).run t₂ c₂) ((condition o clauses d.sql).run t c) := by
  obtain ⟨htable, hdistinct, hbare₁, hbare₂, hbare⟩ := h
  dsimp only at htable hdistinct hbare₁ hbare₂ hbare
  obtain ⟨hne₁, hne₂⟩ := htable.columns_ne_nil
  obtain ⟨hschema₁, hschema₂⟩ := htable.schema_eq
  obtain ⟨e, label, place, hlabel, htext, hrow⟩ := exists_parse_condition hreads
    (fun c a b hc ha hb => ⟨Sql.Formula.isRowwise_choose hc.1 ha.1 hb.1, by
      obtain ⟨_, h | h | hc⟩ := hc
      · exact .inl h
      · exact .inr (.inl h)
      · obtain ⟨_, h | h | ha⟩ := ha
        · exact .inl h
        · exact .inr (.inl h)
        · exact hb.2.imp_right fun h => h.imp_right fun hb => Sql.Formula.isLocal_choose hc ha hb⟩)
    fun F hF => (Sql.isLocal_sqlReading hF).imp_right fun h => .inr (.inr h)
  -- the same text is read over the parts, and means the same there
  have hrun := run_eq_ok_of_schema htable.nonempty hdistinct rfl hbare hbare hlabel htext
  have hrun₁ := run_eq_ok_of_schema hne₁ hdistinct hschema₁ hbare hbare₁ hlabel htext
  have hrun₂ := run_eq_ok_of_schema hne₂ hdistinct hschema₂ hbare hbare₂ hlabel htext
  by_cases hok : ((∀ n ∈ t.names, Table.IsPlain n) ∧ (o ∈ t.names → stagingColumn ∉ t.names)) ∧
      ∃ F, (Sql.besideScope t c).formula e = .ok F ∧ ∀ n ∈ F.reads, Table.IsPlain n
  · obtain ⟨⟨hplain, hstaging⟩, F, hF, hreads⟩ := hok
    have heval := Sql.Formula.joined_eval htable F (hrow F hF).1 (hrow F hF).2
    generalize hx₁ : F.eval false (.ofTable t₁) = x₁, hx₂ : F.eval false (.ofTable t₂) = x₂,
      hx : F.eval false (.ofTable t) = x at heval
    cases heval with
    | error e₁ e₂ e =>
      refine .of_ne_ok (fun r hr => ?_) (fun r hr => ?_) fun r hr => ?_
      · obtain ⟨_, _, G, _, hG, _, hfound, _⟩ := (hrun₁ r).1 hr
        cases hF.symm.trans hG
        cases hx₁.symm.trans hfound
      · obtain ⟨_, _, G, _, hG, _, hfound, _⟩ := (hrun₂ r).1 hr
        cases hF.symm.trans hG
        cases hx₂.symm.trans hfound
      · obtain ⟨_, _, G, _, hG, _, hfound, _⟩ := (hrun r).1 hr
        cases hF.symm.trans hG
        cases hx.symm.trans hfound
    | ok hfound =>
      rw [(hrun₁ _).2 ⟨hplain, hstaging, F, _, hF, hreads, hx₁, rfl⟩,
        (hrun₂ _).2 ⟨hplain, hstaging, F, _, hF, hreads, hx₂, rfl⟩,
        (hrun _).2 ⟨hplain, hstaging, F, _, hF, hreads, hx, rfl⟩, htable.height₁, htable.height₂,
        htable.height]
      refine .ok ⟨⟨⟨rfl, rfl, rfl, ?_⟩, Table.putIn_ne_nil⟩, ?_, hbare₁.next _, hbare₂.next _,
        hbare.next _⟩
      · exact Table.Joined.putIn htable.columns (Sql.Formula.joined_spread hfound)
      · exact (Table.extends_putEach [(o, _)]).distinct hdistinct
  · refine .of_ne_ok (fun r hr => hok ?_) (fun r hr => hok ?_) fun r hr => hok ?_
    · obtain ⟨hplain, hstaging, F, _, hF, hreads, _⟩ := (hrun₁ r).1 hr
      exact ⟨⟨hplain, hstaging⟩, F, hF, hreads⟩
    · obtain ⟨hplain, hstaging, F, _, hF, hreads, _⟩ := (hrun₂ r).1 hr
      exact ⟨⟨hplain, hstaging⟩, F, hF, hreads⟩
    · obtain ⟨hplain, hstaging, F, _, hF, hreads, _⟩ := (hrun r).1 hr
      exact ⟨⟨hplain, hstaging⟩, F, hF, hreads⟩

/-- The steps of a run in SQL, each with the table and the catalog that it finds. -/
inductive Reaches : List SqlStep → Table → Sql.Catalog → SqlStep → Table → Sql.Catalog → Prop
  | here {s steps t c} : Reaches (s :: steps) t c s t c
  | later {s steps t c u c' s' v d} : s.run t c = .ok (u, c') → Reaches steps u c' s' v d →
      Reaches (s :: steps) t c s' v d

/-- **Conditions make of the whole what they make of the parts.** -/
theorem joined_foldlM_run {steps : List SqlStep} {r₁ r₂ r : Table × Sql.Catalog}
    (h : RunJoined h₁ h₂ r₁ r₂ r)
    (hconditions : ∀ s ∈ steps, ∃ o clauses, ∃ d : Literal, s = condition o clauses d.sql)
    (hreads : ∀ s t c, Reaches steps r.1 r.2 s t c → ReadsBranches (RowFormula h₁ h₂ t) t c s) :
    Lifted (RunJoined h₁ h₂) (steps.foldlM (fun r s => s.run r.1 r.2) r₁)
      (steps.foldlM (fun r s => s.run r.1 r.2) r₂) (steps.foldlM (fun r s => s.run r.1 r.2) r) := by
  induction steps generalizing r₁ r₂ r with
  | nil => exact .ok h
  | cons s steps ih =>
    obtain ⟨o, clauses, d, rfl⟩ := hconditions s List.mem_cons_self
    simp only [List.foldlM_cons]
    refine (joined_condition h (hreads _ _ _ .here)).found.bind fun v₁ v₂ v hv => ?_
    exact ih hv.2 (fun s hs => hconditions s (List.mem_cons_of_mem _ hs))
      fun s t c hs => hreads s t c (.later hv.1 hs)

end SqlStep

/-! ### The drop -/

namespace Table

variable {h₁ h₂ : Nat} {t₁ t₂ t : Table}

/-- Some columns of the parts and of the whole; where there are none, there are no rows either. -/
theorem Joined.select (h : Joined h₁ h₂ t₁ t₂ t) (names : List String) :
    Lifted (fun u₁ u₂ u => ∃ k₁ k₂, Stacked k₁ k₂ u₁ u₂ u) (t₁.select names) (t₂.select names)
      (t.select names) := by
  simp only [Table.select, matching_congr h.schema_eq.1, matching_congr h.schema_eq.2]
  refine .bind_same fun found _ => ?_
  refine Lifted.bind (R := Each (NamedJoined h₁ h₂))
    (.mapM_same fun n _ => (h.get n).bind fun _ _ _ hd => .ok (.mk hd)) fun cs₁ cs₂ cs hcs => ?_
  obtain ⟨hnames₁, hnames₂⟩ := hcs.map_eq (f := (·.1)) fun _ _ _ hc => by
    obtain ⟨_⟩ := hc
    exact ⟨rfl, rfl⟩
  simp only [ofColumns, hnames₁, hnames₂]
  cases Table.repeated? (cs.map (·.1)) with
  | some n => exact .error _ _ _
  | none =>
    refine .ok ?_
    cases hcs with
    | nil => exact ⟨0, 0, rfl, rfl, rfl, .nil⟩
    | cons hc hcs => exact ⟨h₁, h₂, h.height₁, h.height₂, h.height, .cons hc hcs⟩

theorem Joined.withoutTemporaries (h : Joined h₁ h₂ t₁ t₂ t) (temporaries : List String) :
    Lifted (fun u₁ u₂ u => ∃ k₁ k₂, Stacked k₁ k₂ u₁ u₂ u)
      (CompiledPlan.withoutTemporaries t₁ temporaries)
      (CompiledPlan.withoutTemporaries t₂ temporaries)
      (CompiledPlan.withoutTemporaries t temporaries) := by
  obtain ⟨hnames₁, hnames₂⟩ := h.names_eq
  simp only [CompiledPlan.withoutTemporaries, hnames₁, hnames₂]
  split
  · exact h.select _
  · exact .ok ⟨h₁, h₂, h.toStacked⟩

end Table

/-! ### Plans -/

/-- A rule that reads datetimes without a pattern, whose layout is inferred from all of them. -/
def Rule.InfersLayout (r : Rule) : Prop :=
  r.kind = .parseDatetime ∧ ∃ args, r.args = .parseDatetime args ∧ args.format = none

theorem Compile.infers_mappedScalar (args : MapValuesArgs) {text : Scalar}
    (h : text.infers = false) : (Compile.mappedScalar args text).infers = false := by
  have hconstant : ∀ s, (Compile.textScalar s).infers = false := fun _ => rfl
  rw [Compile.mappedScalar]
  induction args.valueList with
  | nil =>
    simp only [List.foldr_nil]
    split <;> split <;> simp [Scalar.infers, Scalar.infersAny, Scalar.noText, hconstant, h]
  | cons m ms ih => simp [Scalar.infers, Scalar.infersAny, hconstant, h, ih]

/-- Only rules that read datetimes without a pattern infer a layout. -/
theorem Rule.infersLayout_of_step {r : Rule} {a : Assignment}
    (h : r.step .standard = .ok (.assign a)) (ha : a.infers = true) : r.InfersLayout := by
  cases step_eq_assign.1 h with
  | inferred hk hargs _ _ hformat => exact ⟨hk, _, hargs, hformat⟩
  | mapped =>
    rw [Assignment.infers, Compile.infers_mappedScalar _ rfl] at ha
    cases ha
  | _ => cases ha

namespace CompiledPlan

variable {plan : Plan} {p : CompiledPlan}

/-- The conditions of a run on a batch, each with the table and the catalog that it finds, have a
property. -/
def OnConditions (p : CompiledPlan) (batch : Table)
    (P : SqlStep → Table → Sql.Catalog → Prop) : Prop :=
  ∀ w, p.assignAll batch = .ok w →
    ∀ s t c, SqlStep.Reaches p.statements w.table .empty s t c → P s t c

/-- A plan applied to the parts and to the whole. -/
theorem joined_apply {h₁ h₂ : Nat} {t₁ t₂ t : Table} (hp : build .standard plan = .ok p)
    (hquery : ∀ r ∈ plan.rules, r.kind ≠ .sqlQuery)
    (hlayout : (∃ r ∈ plan.rules, r.InfersLayout) → h₁ = 0 ∨ h₂ = 0)
    (h : Table.Joined h₁ h₂ t₁ t₂ t) (hdistinct : t.names.Nodup)
    (hreads : p.OnConditions t fun s t c => s.ReadsBranches (SqlStep.RowFormula h₁ h₂ t) t c) :
    Lifted (fun a₁ a₂ a => (∃ k₁ k₂, Table.Stacked k₁ k₂ a₁.table a₂.table a.table) ∧
        a₁.targetColumns = a.targetColumns ∧ a₂.targetColumns = a.targetColumns)
      (p.apply t₁) (p.apply t₂) (p.apply t) := by
  obtain ⟨steps, hsteps, hassignments, hstatements⟩ := steps_of_build hp
  have hinfers : ∀ a ∈ p.assignments, a.infers → h₁ = 0 ∨ h₂ = 0 := by
    intro a ha hi
    rw [hassignments] at ha
    rcases List.mem_cons.1 ha with rfl | ha
    · cases hi
    · obtain ⟨r, hr, hstep⟩ := rule_of_assignment hsteps ha
      exact hlayout ⟨r, hr, Rule.infersLayout_of_step hstep hi⟩
  have hconditions : ∀ s ∈ p.statements, ∃ o clauses, ∃ d : Literal,
      s = .condition o clauses d.sql := by
    intro s hs
    rw [hstatements] at hs
    obtain ⟨r, hr, hstep⟩ := rule_of_statement hsteps hs
    obtain ⟨args, _, hs⟩ := Rule.condition_of_step hstep (hquery r hr)
    exact ⟨_, _, _, hs⟩
  have hstart : Working.Joined h₁ h₂ ⟨t₁, []⟩ ⟨t₂, []⟩ ⟨t, []⟩ := ⟨h, rfl, rfl⟩
  have hassigned := (Working.joined_foldlM_assign hstart hinfers).found
  refine (hassigned.mapError ApplyError.ofFrame).bind fun w₁ w₂ w hw => ?_
  obtain ⟨hfound, hw⟩ := hw
  have hdistinct' := (Working.extends_foldlM_assign h.nonempty hfound).distinct hdistinct
  have hbefore : SqlStep.RunJoined h₁ h₂ (w₁.table, .empty) (w₂.table, .empty) (w.table, .empty) :=
    ⟨hw.table, hdistinct', Sql.Catalog.isBare_empty, Sql.Catalog.isBare_empty,
      Sql.Catalog.isBare_empty⟩
  have hrun := SqlStep.joined_foldlM_run hbefore hconditions (hreads w hfound)
  refine hrun.bind fun r₁ r₂ r hr => ?_
  obtain ⟨hnames₁, hnames₂⟩ := hr.table.names_eq
  simp only [hw.expanded₁, hw.expanded₂, hnames₁, hnames₂]
  refine ((hr.table.withoutTemporaries _).mapError ApplyError.ofFrame).bind fun u₁ u₂ u hu => .ok ?_
  obtain ⟨k₁, k₂, hu⟩ := hu
  obtain ⟨hnames₁, hnames₂⟩ := hu.names_eq
  exact ⟨⟨k₁, k₂, hu⟩, by simp only [hnames₁], by simp only [hnames₂]⟩

/-- What a plan makes of a frame, with the columns to export. -/
def made (p : CompiledPlan) (f : Frame) : Except ApplyError (Frame × List String) := do
  let a ← p.apply f.toTable
  pure (← a.table.collect.mapError .ofFrame, a.targetColumns)

/-- A plan makes of a frame what it makes of its parts. -/
theorem joined_made {f₁ f₂ : Frame} {σ : List (String × DType)}
    (hp : build .standard plan = .ok p) (hquery : ∀ r ∈ plan.rules, r.kind ≠ .sqlQuery)
    (hlayout : (∃ r ∈ plan.rules, r.InfersLayout) → f₁.height = 0 ∨ f₂.height = 0)
    (hf₁ : f₁.Fits σ) (hf₂ : f₂.Fits σ) (hcolumns : σ ≠ []) (hdistinct : (σ.map (·.1)).Nodup)
    (hreads : p.OnConditions (f₁.append f₂).toTable fun s t c =>
      s.ReadsBranches (SqlStep.RowFormula f₁.height f₂.height t) t c) :
    Both (fun r₁ r₂ r => (r.1 = r₁.1.append r₂.1 ∧ r₁.1.Fits r.1.schema ∧
      r₂.1.Fits r.1.schema) ∧ r₁.2 = r.2 ∧ r₂.2 = r.2) (p.made f₁) (p.made f₂)
        (p.made (f₁.append f₂)) := by
  have hfits := hf₁.append hf₂
  have happly := joined_apply hp hquery hlayout
    ⟨Frame.stacked_toTable hf₁ hf₂, hfits.columns_ne_nil hcolumns⟩
    (hfits.names_toTable ▸ hdistinct) hreads
  refine happly.both fun a₁ a₂ a ha => ?_
  obtain ⟨⟨k₁, k₂, hstacked⟩, htargets⟩ := ha
  exact ((Frame.stacked_collect hstacked).mapError _).bind fun _ _ _ hg => .ok ⟨hg, htargets⟩

/-- The texts that a plan of one condition, of one clause, gives the rows of a frame. -/
def filledTexts (clause : String) (default : Literal) (f : Frame) : Option (List (Option String)) :=
  let rule : Rule := ⟨"region", .region, none, .sqlCondition,
    .sqlCondition ⟨[clause], default⟩, none, 0, 0⟩
  (build .standard ⟨"test", [rule]⟩).toOption.bind fun p =>
    (p.made f).toOption.bind fun r =>
      (r.1.columns.find? fun c => c.name == "Region").map fun c => c.cells.map (Cell.text? c.dtype)

end CompiledPlan

end FocusBilling
