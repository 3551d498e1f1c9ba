import FocusBilling.Proofs.Stacking
import FocusBilling.Proofs.Targets

/-!
# Columns of the source

A plan puts its own columns over those of a batch or behind them, and in the end leaves temporary
columns out.  Everything else in a batch comes out as it went in.

* `Table.names_withoutTemporaries` : the columns that are kept;
* `SqlStep.extends_condition` : **a condition leaves all other columns as they are**;
* `Plan.Writes`, `Plan.extends_undropped` : the columns that a plan writes, and what it leaves in
  front of the drop;
* `CompiledPlan.made_keeps` : **what a plan leaves of a batch.**
-/

namespace FocusBilling

/-! ### The drop -/

namespace Table

variable {t u : Table} {n : String} {temporaries : List String}

theorem find?_withoutTemporaries (h : CompiledPlan.withoutTemporaries t temporaries = .ok u)
    (hn : n ∈ u.names) : u.find? n = t.find? n := by
  rw [CompiledPlan.withoutTemporaries] at h
  split at h
  · exact find?_select h hn
  · cases h
    rfl

theorem height_withoutTemporaries (h : CompiledPlan.withoutTemporaries t temporaries = .ok u)
    (hn : n ∈ u.names) : u.height = t.height := by
  rw [CompiledPlan.withoutTemporaries] at h
  split at h
  · exact height_select h hn
  · cases h
    rfl

/-- The columns that are kept stand in their order, if their names are plain or all are kept. -/
theorem names_withoutTemporaries (h : CompiledPlan.withoutTemporaries t temporaries = .ok u)
    (hkept : (∀ n ∈ t.names, n ∉ temporaries) ∨ ∀ n ∈ t.names, n ∉ temporaries → IsPlain n) :
    u.names = t.names.filter fun n => !temporaries.contains n := by
  rw [CompiledPlan.withoutTemporaries] at h
  split at h
  next hany =>
    rcases hkept with hnone | hplain
    · obtain ⟨n, hn, htemporary⟩ := List.any_eq_true.1 hany
      exact absurd (List.contains_iff_mem.1 htemporary) (hnone n hn)
    · refine names_select_of_plain h fun n hn => ?_
      obtain ⟨hn, hkept⟩ := List.mem_filter.1 hn
      exact hplain n hn (by simpa using hkept)
  next hany =>
    cases h
    rw [eq_comm, List.filter_eq_self]
    simpa using hany

/-- A column of a frame, in the table of the frame. -/
theorem find?_toTable {f : Frame} {c : Column} (hdistinct : f.toTable.names.Nodup)
    (hc : c ∈ f.columns) : f.toTable.find? c.name = some ⟨c.dtype, .ok c.cells⟩ :=
  lookup_eq_some hdistinct (List.mem_map_of_mem hc)

end Table

/-! ### Conditions -/

namespace SqlStep

variable {t : Table} {c : Sql.Catalog} {o : String} {clauses : List String} {d : Literal}

/-- **A condition leaves all other columns as they are.** -/
theorem extends_condition {r : Table × Sql.Catalog} (ht : t.columns ≠ [])
    (hdistinct : t.names.Nodup)
    (hreads : ReadsBranches (·.isRowwise = true) t c (condition o clauses d.sql))
    (h : (condition o clauses d.sql).run t c = .ok r) : Table.Extends (· = o) t r.1 := by
  obtain ⟨e, label, place, hlabel, htext, _⟩ := exists_parse_condition hreads
    (fun _ _ _ => Sql.Formula.isRowwise_choose)
    fun F hF => (Sql.isLocal_sqlReading hF : _ ∧ F.IsLocal 0 0 t).1
  obtain ⟨_, _, _, found, _, _, _, hu, _⟩ := (run_condition_eq_ok ht hdistinct hlabel htext).1 h
  rw [hu]
  exact (Table.extends_putEach [(o, _)]).mono fun n hn => by simpa using hn

/-- **Conditions leave all columns as they are that they do not write.** -/
theorem extends_foldlM_run {steps : List SqlStep} {W : String → Prop} {r r' : Table × Sql.Catalog}
    (ht : r.1.columns ≠ []) (hdistinct : r.1.names.Nodup)
    (hconditions : ∀ s ∈ steps, ∃ o clauses, ∃ d : Literal, s = condition o clauses d.sql ∧ W o)
    (hreads : ∀ s t c, Reaches steps r.1 r.2 s t c → ReadsBranches (·.isRowwise = true) t c s)
    (h : steps.foldlM (fun r s => s.run r.1 r.2) r = .ok r') : Table.Extends W r.1 r'.1 := by
  induction steps generalizing r with
  | nil =>
    cases h
    exact .refl _ _
  | cons s steps ih =>
    obtain ⟨r₁, h₁, hrest⟩ := foldlM_cons_eq_ok.1 h
    obtain ⟨o, clauses, d, rfl, ho⟩ := hconditions s List.mem_cons_self
    have hfirst := (extends_condition ht hdistinct (hreads _ _ _ .here) h₁).mono
      fun n hn => (hn ▸ ho : W n)
    refine hfirst.trans (ih (hfirst.columns_ne_nil ht) (hfirst.distinct hdistinct)
      (fun s hs => hconditions s (List.mem_cons_of_mem _ hs)) (fun s t c hs => ?_) hrest)
    exact hreads s t c (.later h₁ hs)

end SqlStep

/-! ### The columns that a plan writes -/

namespace Plan

variable {plan : Plan} {p : CompiledPlan} {t : Table} {n : String}

/-- The columns that a plan writes over those of a batch or behind them: the name of the provider,
the outputs of the rules, and what these are expanded to. -/
def Writes (plan : Plan) (p : CompiledPlan) (t : Table) (n : String) : Prop :=
  n = CompiledPlan.providerColumn ∨
    ∃ r ∈ plan.rules, n = r.output ∨ Expanding p.assignments ⟨t, []⟩ r.output n

theorem conditions_of_build (hp : CompiledPlan.build .standard plan = .ok p)
    (hquery : ∀ r ∈ plan.rules, r.kind ≠ .sqlQuery) : ∀ s ∈ p.statements,
      ∃ o clauses, ∃ d : Literal, s = .condition o clauses d.sql ∧
        ∃ r ∈ plan.rules, o = r.output := by
  obtain ⟨steps, hsteps, _, hstatements⟩ := CompiledPlan.steps_of_build hp
  intro s hs
  rw [hstatements] at hs
  obtain ⟨r, hr, hstep⟩ := CompiledPlan.rule_of_statement hsteps hs
  obtain ⟨args, _, hs⟩ := Rule.condition_of_step hstep (hquery r hr)
  exact ⟨_, _, _, hs, r, hr, rfl⟩

/-- The steps of a plan that fill columns write what the plan writes. -/
theorem writes_of_assignments (hp : CompiledPlan.build .standard plan = .ok p)
    (h : Working.Writes p.assignments ⟨t, []⟩ n) : plan.Writes p t n := by
  obtain ⟨steps, hsteps, hassignments, _⟩ := CompiledPlan.steps_of_build hp
  rcases h with ⟨a, ha, rfl⟩ | ⟨output, hx⟩
  · rw [hassignments] at ha
    rcases List.mem_cons.1 ha with rfl | ha
    · exact .inl rfl
    · obtain ⟨r, hr, hstep⟩ := CompiledPlan.rule_of_assignment hsteps ha
      exact .inr ⟨r, hr, .inl (Rule.output_of_step hstep)⟩
  · obtain ⟨r, hr, _, rfl⟩ := expands_of_expanding hp hx
    exact .inr ⟨r, hr, .inr hx⟩

/-- A plan that expands no struct writes the outputs of its rules beside the name of the
provider. -/
theorem writes_iff_of_not_expands (hp : CompiledPlan.build .standard plan = .ok p)
    (hexpands : ∀ r ∈ plan.rules, ¬r.Expands) :
    plan.Writes p t n ↔ n = CompiledPlan.providerColumn ∨ ∃ r ∈ plan.rules, n = r.output := by
  refine or_congr_right (exists_congr fun r => and_congr_right fun _ => or_iff_left fun hx => ?_)
  obtain ⟨s, hs, hexpanded, _⟩ := expands_of_expanding hp hx
  exact hexpands s hs hexpanded

/-- The name of the provider is filled first. -/
theorem provider_mem_assignAll {w : Working} (hp : CompiledPlan.build .standard plan = .ok p)
    (ht : t.columns ≠ []) (hw : p.assignAll t = .ok w) :
    CompiledPlan.providerColumn ∈ w.table.names := by
  obtain ⟨steps, _, hassignments, _⟩ := CompiledPlan.steps_of_build hp
  rw [CompiledPlan.assignAll, hassignments] at hw
  obtain ⟨w₁, h₁, hrest⟩ := foldlM_cons_eq_ok.1 hw
  obtain ⟨_, _, hrun, _⟩ := Working.assign_eq_ok.1 h₁
  obtain ⟨_, _, ⟨⟩, hfilled, _, hu⟩ := (Assignment.run_eq_ok ht).1 hrun
  obtain _ | ⟨⟨hname, _⟩, ⟨⟩⟩ := hfilled
  have hmem : CompiledPlan.providerColumn ∈ w₁.table.names := by
    change _ = CompiledPlan.providerColumn at hname
    rw [hu, Table.names, Table.putEach_cons, Table.putEach_nil, Table.names_putIn, hname]
    split
    next h => exact h
    next => simp
  have hne : w₁.table.columns ≠ [] := (Working.extends_assign ht h₁).columns_ne_nil ht
  exact (Working.extends_foldlM_assign hne hrest).mem_names hmem

/-- **In front of the drop a plan has left all columns as they were that it does not write**, and
the name of the provider is there. -/
theorem extends_undropped {w : Working} (hp : CompiledPlan.build .standard plan = .ok p)
    (hquery : ∀ r ∈ plan.rules, r.kind ≠ .sqlQuery) (ht : t.columns ≠ [])
    (hdistinct : t.names.Nodup)
    (hreads : p.OnConditions t fun s t c => s.ReadsBranches (·.isRowwise = true) t c)
    (hw : p.undropped t = .ok w) :
    Table.Extends (plan.Writes p t) t w.table ∧ CompiledPlan.providerColumn ∈ w.table.names := by
  simp only [CompiledPlan.undropped, bind_eq_ok, mapError_eq_ok, pure_eq_ok] at hw
  obtain ⟨w₀, hw₀, r, hr, rfl⟩ := hw
  have hassigned := Working.extends_foldlM_assign ht hw₀
  have hrun : Table.Extends (plan.Writes p t) w₀.table r.1 := by
    refine SqlStep.extends_foldlM_run (r := (w₀.table, .empty)) (hassigned.columns_ne_nil ht)
      (hassigned.distinct hdistinct) (fun s hs => ?_) (hreads w₀ hw₀) hr
    obtain ⟨o, clauses, d, hs, r, hr, ho⟩ := conditions_of_build hp hquery s hs
    exact ⟨o, clauses, d, hs, .inr ⟨r, hr, .inl ho⟩⟩
  exact ⟨(hassigned.mono fun n hn => writes_of_assignments hp hn).trans hrun,
    hrun.mem_names (provider_mem_assignAll hp ht hw₀)⟩

/-! ### The columns that a plan drops -/

theorem Drops.isTemporary (h : plan.Drops p t n) : plan.IsTemporary p t n := by
  obtain ⟨r, hr, ht, ⟨_, hx⟩ | ⟨_, hn⟩⟩ := h
  · exact ⟨r, hr, ht, .inr hx⟩
  · exact ⟨r, hr, ht, .inl hn⟩

/-- A column without an underscore in its name is kept. -/
theorem not_drops (hn : '_' ∉ n.toList) : ¬plan.Drops p t n := by
  intro h
  obtain ⟨r, _, ht, rfl | hx⟩ := h.isTemporary
  · obtain ⟨before, hbefore⟩ := Option.isSome_iff_exists.1 ht
    rw [Rule.output, hbefore] at hn
    simp at hn
  · obtain ⟨field, rfl⟩ := hx.eq_fieldColumn
    exact hn (Assignment.underscore_mem_fieldColumn r.output field)

/-- The name of the provider is kept. -/
theorem not_drops_provider : ¬plan.Drops p t CompiledPlan.providerColumn :=
  not_drops (by decide)

/-- What a column without a prefix is expanded to is not taken for a pattern, as the name of no
FOCUS column starts like one. -/
theorem isPlain_of_expanding {c : FocusColumn} (h : Expanding p.assignments ⟨t, []⟩ c.name n) :
    Table.IsPlain n := by
  have hname : c.name.toList.head?.any (fun c => c != '^' && c != '*') = true := by
    cases c <;> rfl
  obtain ⟨first, hc, hplain⟩ := (Option.any_eq_true _ _).1 hname
  simp only [Bool.and_eq_true, bne_iff_ne] at hplain
  obtain ⟨field, rfl⟩ := h.eq_fieldColumn
  have hfirst : (Assignment.fieldColumn c.name field).toList.head? = some first := by
    rw [Assignment.fieldColumn, String.toList_append, String.toList_append, List.append_assoc,
      List.head?_append, hc, Option.some_or]
  constructor
  · intro h
    rw [h] at hfirst
    exact hplain.2 (Option.some.inj hfirst.symm)
  · simp [Table.isPattern, hfirst, hplain.1]

/-- What a plan writes and keeps is not taken for a pattern. -/
theorem Writes.isPlain (h : plan.Writes p t n) (hp : CompiledPlan.build .standard plan = .ok p)
    (hkept : ¬plan.Drops p t n) : Table.IsPlain n := by
  rcases h with rfl | ⟨r, hr, rfl | hx⟩
  · decide
  · exact r.isPlain_output
  · cases ht : r.isTemporary with
    | true => exact absurd (drops_of_expanding hp hr ht hx) hkept
    | false => exact isPlain_of_expanding (Rule.output_of_not_temporary ht ▸ hx)

theorem IsTemporary.writes (h : plan.IsTemporary p t n) : plan.Writes p t n := by
  obtain ⟨r, hr, _, hn⟩ := h
  exact .inr ⟨r, hr, hn⟩

section Drop

variable {w : Working} {u : Table} (hp : CompiledPlan.build .standard plan = .ok p)
  (hw : p.undropped t = .ok w)
  (hu : CompiledPlan.withoutTemporaries w.table
    (w.expanded.resolve w.table.names p.temporaryColumns) = .ok u)

include hp hw hu

/-- A column is there behind the drop if nothing is dropped, or if it is what a name that is not
dropped stands for. -/
theorem mem_names_iff_of_drop (hn : n ∈ w.table.names) :
    n ∈ u.names ↔ (∀ m ∈ w.table.names, ¬plan.Drops p t m) ∨
      ∃ m ∈ w.table.names, ¬plan.Drops p t m ∧ w.table.StandsFor m n := by
  have hdrops := fun {m} (hm : m ∈ w.table.names) => not_congr (drops_iff_mem_resolve hp hw hm)
  rw [CompiledPlan.mem_names_withoutTemporaries hu, and_iff_right hn]
  refine or_congr (forall₂_congr fun m hm => (hdrops hm).symm) ?_
  exact exists_congr fun m => and_congr_right fun hm => and_congr_left' (hdrops hm).symm

/-- Where names are plain, or no rule has a prefix, the columns of the batch that are not temporary
keep their order, and new ones stand behind them. -/
theorem exists_names_of_drop (hleft : Table.Extends (plan.Writes p t) t w.table)
    (hdistinct : t.names.Nodup)
    (hplain : (∀ n ∈ t.names, Table.IsPlain n) ∨ ∀ r ∈ plan.rules, r.isTemporary = false) :
    ∃ kept added, u.names = kept ++ added ∧ kept.Sublist t.names ∧
      (∀ n ∈ t.names, ¬plan.IsTemporary p t n → n ∈ kept) ∧ ∀ n ∈ added, n ∉ t.names := by
  have hdrops := fun {m} (hm : m ∈ w.table.names) => drops_iff_mem_resolve hp hw hm
  generalize w.expanded.resolve w.table.names p.temporaryColumns = temporaries at hu hdrops
  have hkept : (∀ n ∈ w.table.names, n ∉ temporaries) ∨
      ∀ n ∈ w.table.names, n ∉ temporaries → Table.IsPlain n := by
    rcases hplain with hplain | hnone
    · refine .inr fun n hn hkept => ?_
      rcases hleft.written_of_mem hn with hold | hwritten
      · exact hplain n hold
      · exact hwritten.isPlain hp fun h => hkept ((hdrops hn).1 h)
    · refine .inl fun n hn hdropped => ?_
      obtain ⟨r, hr, ht, _⟩ := (hdrops hn).2 hdropped
      rw [hnone r hr] at ht
      cases ht
  have hnames := Table.names_withoutTemporaries hu hkept
  have hbehind := hleft.distinct hdistinct
  obtain ⟨added, hadded⟩ := hleft.names
  rw [hadded, List.nodup_append] at hbehind
  rw [hadded, List.filter_append] at hnames
  refine ⟨_, _, hnames, List.filter_sublist, fun n hn htemporary => ?_, fun n hn hold => ?_⟩
  · have hkept : n ∉ temporaries := fun h =>
      htemporary ((hdrops (hleft.mem_names hn)).2 h).isTemporary
    simp [hn, hkept]
  · exact hbehind.2.2 n hold n (List.mem_of_mem_filter hn) rfl

end Drop

end Plan

namespace CompiledPlan

variable {plan : Plan} {p : CompiledPlan}

/-- The columns of what a plan makes of a batch are as long as they should be. -/
theorem fits_made {f g : Frame} {σ : List (String × DType)} {ts : List String}
    (hp : build .standard plan = .ok p) (hquery : ∀ r ∈ plan.rules, r.kind ≠ .sqlQuery)
    (hf : f.Fits σ) (hcolumns : σ ≠ []) (hdistinct : (σ.map (·.1)).Nodup)
    (hreads : p.OnConditions f.toTable fun s t c => s.ReadsBranches (·.isRowwise = true) t c)
    (h : p.made f = .ok (g, ts)) : g.Fits g.schema := by
  -- a frame is the whole of itself and of no rows
  have hempty := Frame.append_empty hf
  have hall := joined_made hp hquery (fun _ => .inr rfl) hf (.empty σ) hcolumns hdistinct (by
    rw [hempty]
    exact fun w hw s t c hs => (hreads w hw s t c hs).imp fun F hF => ⟨hF, .inr (.inl rfl)⟩)
  rw [hempty] at hall
  obtain ⟨_, _, hg, _, ⟨_, hfits, _⟩, _⟩ := hall.split _ h
  cases h.symm.trans hg
  exact hfits

end CompiledPlan

end FocusBilling
