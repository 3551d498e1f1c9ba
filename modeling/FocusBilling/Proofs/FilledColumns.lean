import FocusBilling.Proofs.Growth
import FocusBilling.Proofs.Targets

/-!
# Columns that one step fills

What a plan makes of a frame whose steps fill one column each.

* `Scalar.applyCells_column_eq_ok` : an operation on one column, row by row;
* `Working.assign_named`, `Working.assign_column`, `Working.assign_apply` : a step that fills one
  column;
* `Table.exists_toTable_iff` : a table can be computed if every column of it can;
* `CompiledPlan.exists_assign_provider` : the name of the provider, which is put into a frame first;
* `CompiledPlan.made_eq_ok`, `CompiledPlan.made_putIn_eq_ok` : what a plan of such steps makes of a
  frame.
-/

namespace FocusBilling

/-! ### Columns -/

namespace Scalar

variable {op : Operation} {c : Deferred} {vs : List Cell} {rows : Nat}

theorem rowsOf_column (cells : List Cell) :
    rowsOf cells.length [cells] = cells.map fun x => [x] := by
  induction cells with
  | nil => rfl
  | cons x cells ih => exact congrArg ([x] :: ·) ih

/-- An operation on one column, row by row. -/
theorem applyCells_column_eq_ok (hrows : ∀ cells, c.cells = .ok cells → cells.length = rows) :
    applyCells rows op [c] = .ok vs ↔ op.obstacle [c.dtype] = .ok () ∧
      ∃ cells, c.cells = .ok cells ∧ cells.mapM (fun x => op.run [c.dtype] [x]) = .ok vs := by
  have hcolumn : ∀ cells, c.cells = .ok cells →
      (rowsOf rows [cells]).mapM (op.run [c.dtype]) =
        cells.mapM fun x => op.run [c.dtype] [x] := by
    intro cells hc
    rw [← hrows cells hc, rowsOf_column, List.mapM_map]
    rfl
  simp only [applyCells, bind_eq_ok, List.map_cons, List.map_nil, List.mapM_cons, List.mapM_nil,
    pure_eq_ok]
  constructor
  · rintro ⟨_, hop, _, ⟨cells, hc, _, rfl, rfl⟩, h⟩
    exact ⟨hop, cells, hc, hcolumn cells hc ▸ h⟩
  · rintro ⟨hop, cells, hc, h⟩
    exact ⟨(), hop, _, ⟨cells, hc, _, rfl, rfl⟩, hcolumn cells hc ▸ h⟩

end Scalar

/-! ### Steps -/

namespace Working

variable {w : Working} {output source provider : String} {v : Scalar} {c d : Deferred}

/-- A step that fills one column succeeds if its expression does. -/
theorem assign_named {a : Assignment} (ht : w.table.columns ≠ [])
    (hnamed : a.columns w.table = .ok [(output, v)]) (ha : ∀ o s, a ≠ .expanded o s) :
    w.assign a = (v.eval w.table w.table.height).map fun d =>
      ⟨⟨w.table.height, Table.putIn output d w.table.columns⟩, w.expanded⟩ := by
  have hrows : w.table.rows = w.table.height := by simp [Table.rows, ht]
  have hassign : w.assign a = (a.run w.table).map fun u => ⟨u, w.expanded⟩ := by
    cases a with
    | expanded o s => exact absurd rfl (ha o s)
    | _ => rfl
  have hput : ∀ d, w.table.putAll [(output, d)] =
      .ok ⟨w.table.height, Table.putIn output d w.table.columns⟩ := fun d =>
    (Table.putAll_eq_ok ht).2 ⟨List.nodup_singleton _, rfl⟩
  simp only [hassign, Assignment.run, hnamed, hrows, List.mapM_cons, List.mapM_nil, bind,
    Except.bind]
  cases v.eval w.table w.table.height with
  | error e => rfl
  | ok d => exact congrArg (Except.map _) (hput d)

/-- A step that fills one column. -/
theorem assign_column {e : Scalar} (ht : w.table.columns ≠ [])
    (hexpand : v.expand w.table = .ok [e]) (heval : e.eval w.table w.table.height = .ok d) :
    w.assign (.column output v) =
      .ok ⟨⟨w.table.height, Table.putIn output d w.table.columns⟩, w.expanded⟩ := by
  have hnamed : (Assignment.column output v).columns w.table = .ok [(output, e)] := by
    simp [Assignment.columns, hexpand]
  rw [assign_named ht hnamed (by simp), heval]
  rfl

/-- A step that fills a column by an operation on another one. -/
theorem assign_apply {op : Operation} {t : DType} (ht : w.table.columns ≠ [])
    (hplain : Table.IsPlain source) (hc : w.table.find? source = some c)
    (hop : op.result [c.dtype] = .ok t) :
    w.assign (.column output (.apply op [.column source])) =
      .ok ⟨⟨w.table.height, Table.putIn output
        ⟨t, Scalar.applyCells w.table.height op [c]⟩ w.table.columns⟩, w.expanded⟩ := by
  refine assign_column ht (Scalar.expand_of_plain ?_) ?_
  · intro n hn
    obtain rfl : n = source := by simpa [Scalar.reads, Scalar.readsAll] using hn
    exact hplain
  · have hget : w.table.get source = .ok c := by rw [Table.get, hc]
    simp [Scalar.eval, Scalar.evalAll, hget, hop]

end Working

/-! ### Tables that can be computed -/

namespace Table

variable {t : Table} {f g : Frame} {n m : String} {d e : Deferred}
  {columns : List (String × Deferred)}

theorem collect_eq_ok : t.collect = .ok g ↔ g.toTable = t := by
  refine ⟨toTable_of_collect, ?_⟩
  rintro rfl
  have hcolumns : (g.columns.map fun c => (c.name, (⟨c.dtype, .ok c.cells⟩ : Deferred))).mapM
      (fun x => do pure (Column.mk x.1 x.2.dtype (← x.2.cells))) = Except.ok g.columns := by
    rw [mapM_eq_ok, List.forall₂_map_left_iff, List.forall₂_same]
    exact fun _ _ => rfl
  simp only [collect, bind_eq_ok, pure_eq_ok]
  exact ⟨g.columns, hcolumns, rfl⟩

/-- A table can be computed if every column can. -/
theorem exists_toTable_iff :
    (∃ g : Frame, g.toTable = t) ↔ ∀ c ∈ t.columns, ∃ cells, c.2.cells = .ok cells := by
  constructor
  · rintro ⟨g, rfl⟩ c hc
    obtain ⟨column, -, rfl⟩ := List.mem_map.1 hc
    exact ⟨_, rfl⟩
  · intro h
    let columns := t.columns.map fun c => Column.mk c.1 c.2.dtype (c.2.cells.toOption.getD [])
    refine ⟨⟨t.height, columns⟩, congrArg (Table.mk t.height) ?_⟩
    rw [List.map_map]
    refine (List.map_congr_left fun c hc => ?_).trans (List.map_id _)
    obtain ⟨cells, hcells⟩ := h c hc
    obtain ⟨name, dtype, _⟩ := c
    subst hcells
    rfl

/-- A frame with a column put in can be computed if that column can. -/
theorem exists_toTable_putIn :
    (∃ g : Frame, g.toTable = ⟨f.height, putIn n d f.toTable.columns⟩) ↔
      ∃ cells, d.cells = .ok cells := by
  rw [exists_toTable_iff]
  constructor
  · intro h
    obtain ⟨before, after, hmem, -⟩ := List.lookup_eq_some_iff.1
      (@lookup_putIn_self n d f.toTable.columns)
    exact h (n, d) (by simp [hmem])
  · intro hd c hc
    rcases mem_of_mem_putIn hc with hold | rfl
    · exact exists_toTable_iff.1 ⟨f, rfl⟩ c hold
    · exact hd

theorem toTable_eq_putIn_iff :
    g.toTable = ⟨f.height, putIn n d f.toTable.columns⟩ ↔ ∃ cells, d.cells = .ok cells ∧
      g.toTable = ⟨f.height, putIn n ⟨d.dtype, .ok cells⟩ f.toTable.columns⟩ := by
  constructor
  · intro h
    obtain ⟨cells, hcells⟩ := exists_toTable_putIn.1 ⟨g, h⟩
    exact ⟨cells, hcells, hcells ▸ h⟩
  · rintro ⟨cells, hcells, h⟩
    rwa [← hcells] at h

/-- Another column is left out, whether before or after a column is put in. -/
theorem filter_putIn {keep : String → Bool} (hn : keep n = true) :
    (putIn n d columns).filter (fun c => keep c.1) =
      putIn n d (columns.filter fun c => keep c.1) := by
  induction columns with
  | nil => simp [putIn, hn]
  | cons c columns ih =>
    obtain ⟨m, e⟩ := c
    by_cases hm : m = n
    · subst hm
      simp [putIn, hn]
    · cases hkeep : keep m <;> simp [putIn, hm, hkeep, ih]

/-- A column that is put in before another one, and then left out. -/
theorem withoutTemporaries_putIn (ht : t.Proper) (hn : IsPlain n) (hm : IsPlain m) (hne : n ≠ m)
    (hnew : m ∉ t.names) :
    CompiledPlan.withoutTemporaries ⟨t.height, putIn n d (putIn m e t.columns)⟩ [m] =
      .ok ⟨t.height, putIn n d t.columns⟩ := by
  let u : Table := ⟨t.height, putEach t.columns [(m, e), (n, d)]⟩
  let keep (k : String) : Bool := !([m].contains k)
  have hu : Extends (· ∈ [m, n]) t u := extends_putEach [(m, e), (n, d)]
  have hplain : ∀ k ∈ u.names, IsPlain k := by
    intro k hk
    rcases hu.written_of_mem hk with hold | hnew
    · exact ht.plain k hold
    · obtain rfl | rfl := List.mem_pair.1 hnew
      · exact hm
      · exact hn
  have hkept : (t.columns.filter fun c => keep c.1) = t.columns := by
    refine List.filter_eq_self.2 fun c hc => ?_
    have hne : c.1 ≠ m := fun heq => hnew (heq ▸ List.mem_map_of_mem hc)
    simpa [keep] using hne
  have hfilter : (u.columns.filter fun c => keep c.1) = putIn n d t.columns := by
    change (putIn n d (putIn m e t.columns)).filter _ = _
    have hlast : ([(m, e)].filter fun c => keep c.1) = [] := by simp [keep]
    rw [filter_putIn (by simpa [keep] using hne), putIn_of_not_mem hnew, List.filter_append, hkept,
      hlast, List.append_nil]
  have hany : u.names.any [m].contains = true := by
    refine List.any_eq_true.2 ⟨m, ?_, by simp⟩
    rw [names, names_putEach]
    exact Expanded.mem_foldl_addOnce.2 (.inr List.mem_cons_self)
  have hselect := @select_filter u keep (hu.distinct ht.distinct) hplain
  rw [hfilter] at hselect
  refine (if_pos hany).trans (hselect.trans (ofColumns_eq_ok.2 ⟨?_, ?_⟩))
  · exact (extends_putEach [(n, d)] (t := t)).distinct ht.distinct
  · simp [putIn_ne_nil, u]

end Table

/-! ### Plans -/

namespace CompiledPlan

variable {p : CompiledPlan} {f g : Frame} {t u : Table} {w : Working} {ts : List String}
  {provider : String}

/-- A plan of expressions fills columns and does nothing else in front of the drop. -/
theorem undropped_eq_ok (hs : p.statements = []) :
    p.undropped t = .ok w ↔ p.assignAll t = .ok w := by
  simp only [undropped, hs, List.foldlM_nil, bind_eq_ok, mapError_eq_ok, pure_eq_ok]
  constructor
  · rintro ⟨v, hv, _, rfl, rfl⟩
    exact hv
  · intro h
    exact ⟨w, h, _, rfl, rfl⟩

/-- A step that fills columns, behind all others that do. -/
theorem assignAll_behind {r : Rule} {a : Assignment} (hw : p.assignAll t = .ok w) :
    (p.behind r (.assign a)).assignAll t = w.assign a := by
  change (p.assignments ++ [a]).foldlM Working.assign ⟨t, []⟩ = _
  rw [List.foldlM_append, show p.assignments.foldlM Working.assign ⟨t, []⟩ = .ok w from hw]
  change ([a].foldlM Working.assign w : Except FrameError Working) = _
  simp only [List.foldlM_cons, List.foldlM_nil, bind_pure]

theorem assignAll_behind_error {r : Rule} {step : PlanStep} {e : FrameError}
    (h : p.assignAll t = .error e) : (p.behind r step).assignAll t = .error e := by
  change (p.assignments ++ step.assignment?.toList).foldlM Working.assign ⟨t, []⟩ = _
  rw [List.foldlM_append, show p.assignments.foldlM Working.assign ⟨t, []⟩ = .error e from h]
  rfl

/-- A plan of expressions that expands nothing, with the drop of its temporary columns. -/
theorem apply_of_drop {t₀ : Table} (hw : p.assignAll t₀ = .ok ⟨t, []⟩) (hs : p.statements = [])
    (hu : withoutTemporaries t p.temporaryColumns = .ok u) :
    p.apply t₀ = .ok ⟨u, p.targetColumns⟩ := by
  have hresolve : ∀ columns names : List String, Expanded.resolve [] columns names = names :=
    fun _ names => List.flatMap_singleton' names
  refine apply_eq_ok.2 ⟨⟨t, []⟩, (undropped_eq_ok hs).2 hw, u, ?_, ?_⟩
  · rwa [hresolve]
  · rw [hresolve]

theorem made_eq_ok (hw : p.assignAll f.toTable = .ok ⟨t, []⟩) (hs : p.statements = [])
    (hu : withoutTemporaries t p.temporaryColumns = .ok u) :
    p.made f = .ok (g, ts) ↔ g.toTable = u ∧ ts = p.targetColumns := by
  simp only [made, apply_of_drop hw hs hu, bind_eq_ok, mapError_eq_ok, Except.ok.injEq,
    exists_eq_left', pure_eq_ok, Prod.mk.injEq, Table.collect_eq_ok]
  constructor
  · rintro ⟨_, hg, rfl, rfl⟩
    exact ⟨hg, rfl⟩
  · rintro ⟨hg, rfl⟩
    exact ⟨g, hg, rfl, rfl⟩

/-- A plan that in the end has put one column into a frame. -/
theorem made_putIn_eq_ok {f₀ : Frame} {n : String} {d : Deferred}
    (hw : p.assignAll f.toTable = .ok ⟨t, []⟩) (hs : p.statements = [])
    (hu : withoutTemporaries t p.temporaryColumns =
      .ok ⟨f₀.height, Table.putIn n d f₀.toTable.columns⟩) :
    p.made f = .ok (g, ts) ↔ ∃ cells, d.cells = .ok cells ∧
      g.toTable = ⟨f₀.height, Table.putIn n ⟨d.dtype, .ok cells⟩ f₀.toTable.columns⟩ ∧
      ts = p.targetColumns := by
  rw [made_eq_ok hw hs hu, Table.toTable_eq_putIn_iff]
  constructor
  · rintro ⟨⟨cells, hcells, hg⟩, hts⟩
    exact ⟨cells, hcells, hg, hts⟩
  · rintro ⟨cells, hcells, hg, hts⟩
    exact ⟨⟨cells, hcells, hg⟩, hts⟩

theorem withoutTemporaries_nil : withoutTemporaries t [] = .ok t := by
  simp [withoutTemporaries]

/-- The name of the provider is put into a frame first. -/
theorem exists_assign_provider (provider : String) (hf : f.toTable.Proper) :
    ∃ f₀ : Frame, f₀.height = f.height ∧ f₀.toTable.Proper ∧
      (⟨f.toTable, []⟩ : Working).assign (providerAssignment provider) = .ok ⟨f₀.toTable, []⟩ ∧
      ∀ n ≠ providerColumn, f₀.toTable.find? n = f.toTable.find? n ∧
        (n ∈ f₀.toTable.names → n ∈ f.toTable.names) := by
  let d : Deferred := ⟨.text, .ok (List.replicate f.height (.text provider))⟩
  obtain ⟨f₀, hf₀⟩ := (Table.exists_toTable_putIn (f := f) (n := providerColumn) (d := d)).2
    ⟨_, rfl⟩
  have hput : Table.Extends (· ∈ [providerColumn]) f.toTable f₀.toTable :=
    hf₀ ▸ Table.extends_putEach [(providerColumn, d)]
  have hnames : ∀ n ∈ f₀.toTable.names, n ∈ f.toTable.names ∨ n = providerColumn := fun n hn =>
    (hput.written_of_mem hn).imp_right List.mem_singleton.1
  refine ⟨f₀, hput.height, ⟨hput.columns_ne_nil hf.columns, hput.distinct hf.distinct, ?_⟩, ?_, ?_⟩
  · intro n hn
    rcases hnames n hn with hold | rfl
    · exact hf.plain n hold
    · decide
  · rw [hf₀]
    exact Working.assign_column hf.columns (Scalar.expand_of_plain nofun) rfl
  · exact fun n hn => ⟨hput.find? n fun hmem => hn (List.mem_singleton.1 hmem),
      fun h => (hnames n h).resolve_right hn⟩

end CompiledPlan

end FocusBilling
