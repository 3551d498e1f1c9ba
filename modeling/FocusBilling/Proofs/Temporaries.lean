import FocusBilling.Batch.Apply
import FocusBilling.Proofs.Compilation
import FocusBilling.Proofs.Tables

/-!
# Temporary columns

A rule with a prefix writes a temporary column.  What is dropped at the end is told by names: an
output stands for itself, but if some rule expands a struct into it, it stands for the columns
that came of that.

* `Expanding` : the columns that the steps of a plan expand an output to, step by step;
* `CompiledPlan.expanded_mem_iff`, `CompiledPlan.temporaryColumns_mem_iff` : the outputs that a plan
  expands, and those that it takes for temporary;
* `CompiledPlan.undropped` : the table of a batch in front of the drop;
* `Plan.IsTemporary`, `Plan.Drops` : the temporary columns of a plan, and those that it drops;
* `temporary_mem_apply_iff` : **which temporary columns are exported.**
-/

namespace FocusBilling

/-! ### What outputs are expanded to -/

/-- That running steps on a table expands an output into a column of a name. -/
inductive Expanding : List Assignment → Working → String → String → Prop
  /-- The next step does. -/
  | here {output source steps w columns name} :
      (Assignment.expanded output source).columns w.table = .ok columns →
      name ∈ columns.map (·.1) →
      Expanding (.expanded output source :: steps) w output name
  /-- A step behind the next one does. -/
  | later {step steps w w' output name} : w.assign step = .ok w' →
      Expanding steps w' output name → Expanding (step :: steps) w output name

theorem Expanding.exists_mem {steps : List Assignment} {w : Working} {output name : String}
    (h : Expanding steps w output name) : ∃ source, .expanded output source ∈ steps := by
  induction h with
  | here => exact ⟨_, List.mem_cons_self⟩
  | later _ _ ih =>
    obtain ⟨source, hs⟩ := ih
    exact ⟨source, List.mem_cons_of_mem _ hs⟩

/-- The columns of an expanded struct are named for the output and the fields. -/
theorem Assignment.eq_fieldColumn_of_expanded {t : Table} {output source name : String}
    {columns : List (String × Scalar)} (h : (expanded output source).columns t = .ok columns)
    (hn : name ∈ columns.map (·.1)) : ∃ field, name = fieldColumn output field := by
  simp only [Assignment.columns, bind_eq_ok, pure_eq_ok] at h
  obtain ⟨sources, _, found, hfound, rfl⟩ := h
  obtain ⟨c, hc, rfl⟩ := List.mem_map.1 hn
  obtain ⟨s, _, fields, hs, hc⟩ := (mem_flatten_of_mapM hfound).1 hc
  simp only [bind_eq_ok, pure_eq_ok] at hs
  obtain ⟨fs, _, rfl⟩ := hs
  obtain ⟨f, _, rfl⟩ := List.mem_map.1 hc
  exact ⟨f.1, rfl⟩

theorem Expanding.eq_fieldColumn {steps : List Assignment} {w : Working} {output name : String}
    (h : Expanding steps w output name) : ∃ field, name = Assignment.fieldColumn output field := by
  induction h with
  | here hc hn => exact Assignment.eq_fieldColumn_of_expanded hc hn
  | later _ _ ih => exact ih

namespace Expanded

variable {e : Expanded} {output name : String}

/-- An output is recorded with a column among those it was expanded to. -/
def Has (e : Expanded) (output name : String) : Prop :=
  ∃ known, e.lookup output = some known ∧ name ∈ known

theorem mem_foldl_addOnce {names known : List String} :
    name ∈ names.foldl CompiledPlan.addOnce known ↔ name ∈ known ∨ name ∈ names := by
  induction names generalizing known with
  | nil => simp
  | cons n names ih =>
    rw [List.foldl_cons, ih, CompiledPlan.addOnce]
    split <;> grind

theorem lookup_addIn (names : List String) (other : String) :
    (addIn output names e).lookup other =
      if other = output then some (names.foldl CompiledPlan.addOnce ((e.lookup output).getD []))
      else e.lookup other := by
  induction e with
  | nil =>
    by_cases h : other = output
    · simp [addIn, h]
    · simp [addIn, List.lookup_cons, h, beq_eq_false_iff_ne.2 h]
  | cons entry e ih =>
    obtain ⟨first, known⟩ := entry
    by_cases hf : first = output
    · by_cases h : other = output
      · simp [addIn, hf, h]
      · simp [addIn, List.lookup_cons, hf, h, beq_eq_false_iff_ne.2 h]
    · by_cases h : other = first
      · simp [addIn, hf, h]
      · have hne : output ≠ first := fun ho => hf ho.symm
        simp [addIn, List.lookup_cons, hf, ih, beq_eq_false_iff_ne.2 hne,
          beq_eq_false_iff_ne.2 h]

theorem has_addIn {names : List String} {other : String} :
    (addIn output names e).Has other name ↔
      e.Has other name ∨ (other = output ∧ name ∈ names) := by
  simp only [Has, lookup_addIn]
  split
  next h =>
    subst h
    cases hl : e.lookup other <;> simp [mem_foldl_addOnce]
  next h => simp [h]

theorem isSome_lookup_addIn {names : List String} {other : String} :
    ((addIn output names e).lookup other).isSome ↔
      (e.lookup other).isSome ∨ other = output := by
  rw [lookup_addIn]
  split
  next h => simp [h]
  next h => simp [h]

theorem mem_resolve {columns names : List String} :
    name ∈ e.resolve columns names ↔
      ∃ output ∈ names, (e.Has output name ∧ name ∈ columns) ∨
        (e.lookup output = none ∧ name = output) := by
  simp only [resolve, List.mem_flatMap]
  refine exists_congr fun output => and_congr_right fun _ => ?_
  cases hl : e.lookup output <;> simp [Has, hl]

end Expanded

namespace Working

variable {step : Assignment} {steps : List Assignment} {w w' : Working} {output name : String}

/-- One step records what it expands. -/
theorem has_assign (h : w.assign step = .ok w') :
    w'.expanded.Has output name ↔ w.expanded.Has output name ∨
      ∃ source columns, step = .expanded output source ∧
        step.columns w.table = .ok columns ∧ name ∈ columns.map (·.1) := by
  cases step with
  | expanded other source =>
    simp only [assign, bind_eq_ok, pure_eq_ok] at h
    obtain ⟨columns, hc, _, rfl, table, _, rfl⟩ := h
    rw [Expanded.has_addIn]
    refine or_congr_right ⟨?_, ?_⟩
    · rintro ⟨rfl, hn⟩
      exact ⟨source, columns, rfl, hc, hn⟩
    -- the columns are read off one table, so these are the ones that were recorded
    · rintro ⟨source, columns', hs, hc', hn⟩
      cases hs
      rw [hc] at hc'
      cases hc'
      exact ⟨rfl, hn⟩
  | column | field | defaultIfMissing =>
    simp only [assign, bind_eq_ok, pure_eq_ok] at h
    obtain ⟨_, rfl, table, _, rfl⟩ := h
    simp

theorem isSome_lookup_assign (h : w.assign step = .ok w') :
    (w'.expanded.lookup output).isSome ↔
      (w.expanded.lookup output).isSome ∨ ∃ source, step = .expanded output source := by
  cases step with
  | expanded other source =>
    simp only [assign, bind_eq_ok, pure_eq_ok] at h
    obtain ⟨columns, hc, _, rfl, table, _, rfl⟩ := h
    rw [Expanded.isSome_lookup_addIn]
    refine or_congr_right ⟨?_, ?_⟩
    · rintro rfl
      exact ⟨source, rfl⟩
    · rintro ⟨_, hs⟩
      cases hs
      rfl
  | column | field | defaultIfMissing =>
    simp only [assign, bind_eq_ok, pure_eq_ok] at h
    obtain ⟨_, rfl, table, _, rfl⟩ := h
    simp

theorem expanding_cons (h : w.assign step = .ok w') :
    Expanding (step :: steps) w output name ↔
      (∃ source columns, step = .expanded output source ∧
        step.columns w.table = .ok columns ∧ name ∈ columns.map (·.1)) ∨
      Expanding steps w' output name := by
  constructor
  · intro he
    cases he with
    | here hc hn => exact .inl ⟨_, _, rfl, hc, hn⟩
    | later hw hs =>
      rw [h] at hw
      cases hw
      exact .inr hs
  · rintro (⟨source, columns, rfl, hc, hn⟩ | hs)
    · exact .here hc hn
    · exact .later h hs

/-- What the record holds behind some steps: what it held before and what they expand. -/
theorem has_foldlM_assign (h : steps.foldlM assign w = .ok w') :
    w'.expanded.Has output name ↔ w.expanded.Has output name ∨ Expanding steps w output name := by
  induction steps generalizing w with
  | nil =>
    cases h
    exact ⟨.inl, fun h => h.resolve_right nofun⟩
  | cons step steps ih =>
    obtain ⟨w₁, h₁, h⟩ := foldlM_cons_eq_ok.1 h
    rw [ih h, has_assign h₁, expanding_cons h₁, or_assoc]

theorem isSome_lookup_foldlM_assign (output : String) (h : steps.foldlM assign w = .ok w') :
    (w'.expanded.lookup output).isSome ↔ (w.expanded.lookup output).isSome ∨
      ∃ source, .expanded output source ∈ steps := by
  induction steps generalizing w with
  | nil =>
    cases h
    simp
  | cons step steps ih =>
    obtain ⟨w₁, h₁, h⟩ := foldlM_cons_eq_ok.1 h
    have hsteps : (∃ source, .expanded output source ∈ step :: steps) ↔
        (∃ source, step = .expanded output source) ∨
          ∃ source, .expanded output source ∈ steps := by
      rw [← exists_or]
      exact exists_congr fun source => List.mem_cons.trans (or_congr_left eq_comm)
    rw [ih h, isSome_lookup_assign h₁, or_assoc, hsteps]

end Working

/-! ### The rules of a plan -/

namespace Rule

variable {r : Rule} {s : PlanStep} {output source : String}

/-- A rule that expands every field of a struct into a column of its own. -/
def Expands (r : Rule) : Prop := r.kind = .unnest ∧ r.args = .unnest none

/-- Only a rule that expands a struct has a step that does. -/
theorem expands_of_step (h : r.step .standard = .ok (.assign (.expanded output source))) :
    r.Expands ∧ r.output = output := by
  cases step_eq_assign.1 h with
  | expanded hk hargs _ => exact ⟨⟨hk, hargs⟩, rfl⟩

/-- A rule that expands a struct has no other step. -/
theorem Expands.step (hr : r.Expands) (h : r.step .standard = .ok s) :
    ∃ source, s = .assign (.expanded r.output source) := by
  obtain ⟨hk, hargs⟩ := hr
  cases s with
  | assign a => cases step_eq_assign.1 h <;> simp_all
  | sql u =>
    -- no struct is expanded in SQL
    obtain ⟨_, _, _, _, ⟨⟩⟩ | ⟨_, _, hcompile, _, _⟩ := step_eq_ok.1 h
    rw [hk] at hcompile
    cases hcompile

end Rule

namespace CompiledPlan

variable {plan : Plan} {p : CompiledPlan} {output name : String}

/-- The outputs that a plan expands are those of its rules. -/
theorem expanded_mem_iff (h : build .standard plan = .ok p) :
    (∃ source, .expanded output source ∈ p.assignments) ↔
      ∃ r ∈ plan.rules, r.Expands ∧ r.output = output := by
  obtain ⟨steps, hsteps, hassignments, -⟩ := steps_of_build h
  rw [hassignments]
  constructor
  · rintro ⟨source, hs⟩
    obtain hprovider | hmem := List.mem_cons.1 hs
    · cases hprovider
    · obtain ⟨r, hr, hstep⟩ := rule_of_assignment hsteps hmem
      exact ⟨r, hr, Rule.expands_of_step hstep⟩
  · rintro ⟨r, hr, hexpands, rfl⟩
    obtain ⟨s, hs, hstep⟩ := exists_of_mem_left hsteps hr
    obtain ⟨source, rfl⟩ := hexpands.step hstep
    exact ⟨source, List.mem_cons_of_mem _ (List.mem_filterMap.2 ⟨_, hs, rfl⟩)⟩

/-- The temporary columns that a plan records are the outputs of its rules with a prefix. -/
theorem temporaryColumns_mem_iff {registry : Registry} (h : build registry plan = .ok p) :
    name ∈ p.temporaryColumns ↔ ∃ r ∈ plan.rules, r.isTemporary = true ∧ r.output = name := by
  obtain ⟨steps, -, rfl⟩ := build_eq_assembled.1 h
  simp [and_assoc]

/-! ### The drop -/

/-- The table of a batch in front of the drop of temporary columns, and what outputs were expanded
to. -/
def undropped (p : CompiledPlan) (t : Table) : Except ApplyError Working := do
  let w ← (p.assignAll t).mapError .ofFrame
  let (t, _) ← p.statements.foldlM (fun (t, c) s => s.run t c) (w.table, Sql.Catalog.empty)
  pure ⟨t, w.expanded⟩

/-- Applying a plan is the drop of temporary columns behind all steps. -/
theorem apply_eq_ok {t : Table} {a : AppliedBatch} :
    p.apply t = .ok a ↔ ∃ w, p.undropped t = .ok w ∧
      ∃ u, withoutTemporaries w.table (w.expanded.resolve w.table.names p.temporaryColumns) =
        .ok u ∧ ⟨u, w.expanded.resolve u.names p.targetColumns⟩ = a := by
  simp only [apply, undropped, bind_eq_ok, pure_eq_ok, mapError_eq_ok]
  constructor
  · rintro ⟨w, hw, tc, htc, u, hu, rfl⟩
    exact ⟨_, ⟨w, hw, tc, htc, rfl⟩, u, hu, rfl⟩
  · rintro ⟨_, ⟨w, hw, tc, htc, rfl⟩, u, hu, rfl⟩
    exact ⟨w, hw, tc, htc, u, hu, rfl⟩

theorem mem_names_withoutTemporaries {t u : Table} {temporaries : List String}
    (h : withoutTemporaries t temporaries = .ok u) :
    name ∈ u.names ↔ name ∈ t.names ∧ ((∀ m ∈ t.names, m ∉ temporaries) ∨
      ∃ m ∈ t.names, m ∉ temporaries ∧ t.StandsFor m name) := by
  rw [withoutTemporaries] at h
  split at h
  next hany =>
    have hsome : ¬∀ m ∈ t.names, m ∉ temporaries := by simpa using hany
    rw [or_iff_right hsome]
    constructor
    · intro hn
      obtain ⟨m, hm, hstands⟩ := (Table.mem_names_select h).1 hn
      simp only [List.mem_filter, Bool.not_eq_true', List.contains_eq_mem,
        decide_eq_false_iff_not] at hm
      exact ⟨Table.mem_names_of_mem_select h hn, m, hm.1, hm.2, hstands⟩
    · rintro ⟨_, m, hm, hkept, hstands⟩
      exact (Table.mem_names_select h).2 ⟨m, by simp [hm, hkept], hstands⟩
  next hany =>
    -- without temporary columns nothing is selected, so that no name is taken for a pattern
    cases h
    have hnone : ∀ m ∈ t.names, m ∉ temporaries := by simpa using hany
    exact ⟨fun hn => ⟨hn, .inl hnone⟩, And.left⟩

end CompiledPlan

namespace Plan

variable {plan : Plan} {p : CompiledPlan} {t : Table} {name : String}

/-- A temporary column: the output of a rule with a prefix, or what it was expanded to. -/
def IsTemporary (plan : Plan) (p : CompiledPlan) (t : Table) (name : String) : Prop :=
  ∃ r ∈ plan.rules, r.isTemporary = true ∧
    (name = r.output ∨ Expanding p.assignments ⟨t, []⟩ r.output name)

/-- Some rule of a plan expands an output. -/
def Expands (plan : Plan) (output : String) : Prop :=
  ∃ r ∈ plan.rules, r.Expands ∧ r.output = output

/-- A column that a plan drops: what the output of a rule with a prefix stands for. -/
def Drops (plan : Plan) (p : CompiledPlan) (t : Table) (name : String) : Prop :=
  ∃ r ∈ plan.rules, r.isTemporary = true ∧
    ((plan.Expands r.output ∧ Expanding p.assignments ⟨t, []⟩ r.output name) ∨
      (¬plan.Expands r.output ∧ name = r.output))

theorem expands_of_expanding (hp : CompiledPlan.build .standard plan = .ok p) {output : String}
    (h : Expanding p.assignments ⟨t, []⟩ output name) : plan.Expands output := by
  exact (CompiledPlan.expanded_mem_iff hp).1 h.exists_mem

/-- The record behind all steps holds what outputs are expanded to, as it is empty in front of
them. -/
theorem has_undropped {w : Working} (hw : p.undropped t = .ok w) {output : String} :
    w.expanded.Has output name ↔ Expanding p.assignments ⟨t, []⟩ output name := by
  simp only [CompiledPlan.undropped, bind_eq_ok, mapError_eq_ok, pure_eq_ok] at hw
  obtain ⟨w₀, hw₀, tc, _, rfl⟩ := hw
  rw [Working.has_foldlM_assign hw₀]
  simp [Expanded.Has]

/-- The record behind all steps has no entry for an output that no rule expands. -/
theorem lookup_undropped (hp : CompiledPlan.build .standard plan = .ok p) {w : Working}
    (hw : p.undropped t = .ok w) {output : String} :
    w.expanded.lookup output = none ↔ ¬plan.Expands output := by
  simp only [CompiledPlan.undropped, bind_eq_ok, mapError_eq_ok, pure_eq_ok] at hw
  obtain ⟨w₀, hw₀, tc, _, rfl⟩ := hw
  have hsome := Working.isSome_lookup_foldlM_assign output hw₀
  rw [CompiledPlan.expanded_mem_iff hp] at hsome
  rw [← Option.not_isSome_iff_eq_none, hsome]
  simp [Expands]

/-- The columns that a plan drops are those that its temporary columns are resolved to. -/
theorem drops_iff_mem_resolve (hp : CompiledPlan.build .standard plan = .ok p) {w : Working}
    (hw : p.undropped t = .ok w) (hn : name ∈ w.table.names) :
    plan.Drops p t name ↔ name ∈ w.expanded.resolve w.table.names p.temporaryColumns := by
  rw [Expanded.mem_resolve, Drops]
  simp only [has_undropped hw, lookup_undropped hp hw, CompiledPlan.temporaryColumns_mem_iff hp]
  constructor
  · rintro ⟨r, hr, ht, ⟨he, hx⟩ | ⟨he, rfl⟩⟩
    · exact ⟨r.output, ⟨r, hr, ht, rfl⟩, .inl ⟨hx, hn⟩⟩
    · exact ⟨r.output, ⟨r, hr, ht, rfl⟩, .inr ⟨he, rfl⟩⟩
  · rintro ⟨_, ⟨r, hr, ht, rfl⟩, ⟨hx, _⟩ | ⟨he, rfl⟩⟩
    · exact ⟨r, hr, ht, .inl ⟨expands_of_expanding hp hx, hx⟩⟩
    · exact ⟨r, hr, ht, .inr ⟨he, rfl⟩⟩

theorem drops_of_expanding (hp : CompiledPlan.build .standard plan = .ok p) {r : Rule}
    (hr : r ∈ plan.rules) (ht : r.isTemporary = true)
    (hx : Expanding p.assignments ⟨t, []⟩ r.output name) : plan.Drops p t name :=
  ⟨r, hr, ht, .inl ⟨expands_of_expanding hp hx, hx⟩⟩

/-- The output of a rule with a prefix is kept if it is expanded, and is no column that some such
output is expanded to. -/
theorem not_drops_output_iff (hp : CompiledPlan.build .standard plan = .ok p) {r : Rule}
    (hr : r ∈ plan.rules) (ht : r.isTemporary = true) :
    ¬plan.Drops p t r.output ↔ plan.Expands r.output ∧
      ¬∃ s ∈ plan.rules, s.isTemporary = true ∧
        Expanding p.assignments ⟨t, []⟩ s.output r.output := by
  constructor
  · intro hkept
    refine ⟨?_, ?_⟩
    · by_contra hx
      exact hkept ⟨r, hr, ht, .inr ⟨hx, rfl⟩⟩
    · rintro ⟨s, hs, hst, hx⟩
      exact hkept (drops_of_expanding hp hs hst hx)
  · rintro ⟨hx, hno⟩ ⟨s, hs, hst, ⟨_, hsx⟩ | ⟨hsx, ho⟩⟩
    · exact hno ⟨s, hs, hst, hsx⟩
    · exact hsx (ho ▸ hx)

end Plan

/-- No output of a rule is taken for a pattern, as the name of no FOCUS column ends like one. -/
theorem Rule.isPlain_output (r : Rule) : Table.IsPlain r.output := by
  have hname : r.focusColumn.name.toList.getLast?.any (fun c => c != '$' && c != '*') = true := by
    cases r.focusColumn <;> rfl
  obtain ⟨c, hc, hplain⟩ := (Option.any_eq_true _ _).1 hname
  simp only [Bool.and_eq_true, bne_iff_ne] at hplain
  obtain ⟨hdollar, hstar⟩ := hplain
  have hlast : r.output.toList.getLast? = r.focusColumn.name.toList.getLast? := by
    rw [output]
    split
    · rw [String.toList_append, List.getLast?_append, hc, Option.some_or]
    · rfl
  rw [hc] at hlast
  constructor
  · intro h
    rw [h] at hlast
    exact hstar (Option.some.inj hlast.symm)
  · simp [Table.isPattern, hlast, hdollar]

/-- **Which temporary columns are exported.**  A temporary column is exported if and only if it is
there in front of the drop, and a column that is not dropped stands for it; so none is exported if
and only if every column that stands for one is dropped.  Where no column looks
like a pattern, that is so for no column that came of expanding a struct, and for the output of a
rule with a prefix only if some rule expands a struct into that same output. -/
theorem temporary_mem_apply_iff {plan : Plan} {p : CompiledPlan} {t : Table} {a : AppliedBatch}
    (hp : CompiledPlan.build .standard plan = .ok p) (ha : p.apply t = .ok a) :
    ∃ w, p.undropped t = .ok w ∧
      (∀ f, a.table.collect = .ok f → f.names = a.table.names) ∧
      ((∀ n, plan.IsTemporary p t n → n ∉ a.table.names) ↔
        ∀ n ∈ w.table.names, plan.IsTemporary p t n →
          ∀ m ∈ w.table.names, w.table.StandsFor m n → plan.Drops p t m) ∧
      (∀ n, plan.IsTemporary p t n → (n ∈ a.table.names ↔ n ∈ w.table.names ∧
        ∃ m ∈ w.table.names, ¬plan.Drops p t m ∧ w.table.StandsFor m n)) ∧
      ((∀ m ∈ w.table.names, Table.IsPlain m) →
        ∀ r ∈ plan.rules, r.isTemporary = true →
          (∀ n, Expanding p.assignments ⟨t, []⟩ r.output n → n ∉ a.table.names) ∧
          (r.output ∈ a.table.names ↔ r.output ∈ w.table.names ∧ plan.Expands r.output ∧
            ¬∃ s ∈ plan.rules, s.isTemporary = true ∧
              Expanding p.assignments ⟨t, []⟩ s.output r.output)) := by
  obtain ⟨w, hw, u, hu, rfl⟩ := CompiledPlan.apply_eq_ok.1 ha
  have hdrops : ∀ {m}, m ∈ w.table.names → (plan.Drops p t m ↔
      m ∈ w.expanded.resolve w.table.names p.temporaryColumns) :=
    fun hm => Plan.drops_iff_mem_resolve hp hw hm
  have hmem : ∀ n, plan.IsTemporary p t n → (n ∈ u.names ↔ n ∈ w.table.names ∧
      ∃ m ∈ w.table.names, ¬plan.Drops p t m ∧ w.table.StandsFor m n) := by
    intro n hn
    rw [CompiledPlan.mem_names_withoutTemporaries hu]
    refine and_congr_right fun hin => ⟨?_, ?_⟩
    · rintro (hnone | ⟨m, hm, hkept, hstands⟩)
      -- nothing is dropped, so the column is the output of a rule and stands for itself
      · have hkept : ¬plan.Drops p t n := fun h => hnone n hin ((hdrops hin).1 h)
        obtain ⟨r, hr, ht, rfl | hx⟩ := hn
        · exact ⟨_, hin, hkept, (Table.standsFor_of_plain r.isPlain_output).2 rfl⟩
        · exact absurd (Plan.drops_of_expanding hp hr ht hx) hkept
      · exact ⟨m, hm, fun h => hkept ((hdrops hm).1 h), hstands⟩
    · rintro ⟨m, hm, hkept, hstands⟩
      exact .inr ⟨m, hm, fun h => hkept ((hdrops hm).2 h), hstands⟩
  have hnone : (∀ n, plan.IsTemporary p t n → n ∉ u.names) ↔
      ∀ n ∈ w.table.names, plan.IsTemporary p t n →
        ∀ m ∈ w.table.names, w.table.StandsFor m n → plan.Drops p t m := by
    constructor
    · intro hno n hin hn m hm hstands
      by_contra hkept
      exact hno n hn ((hmem n hn).2 ⟨hin, m, hm, hkept, hstands⟩)
    · intro hall n hn hout
      obtain ⟨hin, m, hm, hkept, hstands⟩ := (hmem n hn).1 hout
      exact hkept (hall n hin hn m hm hstands)
  refine ⟨w, hw, fun f hf => Table.names_collect hf, hnone, hmem, fun hplain r hr ht => ?_⟩
  -- where names are plain, only the column itself stands for it
  have hiff : ∀ n, plan.IsTemporary p t n →
      (n ∈ u.names ↔ n ∈ w.table.names ∧ ¬plan.Drops p t n) := by
    intro n hn
    rw [hmem n hn]
    refine and_congr_right fun hin => ⟨?_, fun hkept => ?_⟩
    · rintro ⟨m, hm, hkept, hstands⟩
      exact (Table.standsFor_of_plain (hplain m hm)).1 hstands ▸ hkept
    · exact ⟨n, hin, hkept, (Table.standsFor_of_plain (hplain n hin)).2 rfl⟩
  refine ⟨fun n hx hn => ?_, ?_⟩
  · exact ((hiff n ⟨r, hr, ht, .inr hx⟩).1 hn).2 (Plan.drops_of_expanding hp hr ht hx)
  · rw [hiff r.output ⟨r, hr, ht, .inl rfl⟩, Plan.not_drops_output_iff hp hr ht]

/-- The one field of a struct that is expanded under a prefix is dropped. -/
theorem temporary_mem_apply_iff_labels :
    let plan : Plan :=
      ⟨"test", [⟨"labels", .tags, some "Labels", .unnest, .unnest none, some "tmp", 0, 0⟩]⟩
    let p : CompiledPlan :=
      ⟨"test", [CompiledPlan.providerAssignment "test", .expanded "tmp_Tags" "Labels"], [],
        ["Tags"], ["tmp_Tags"]⟩
    let batch : Table := ⟨1, [("Labels", ⟨.struct [("team", .text)], .ok [.struct [.text "ops"]]⟩)]⟩
    CompiledPlan.build .standard plan = .ok p ∧
      ∃ a, p.apply batch = .ok a ∧ "tmp_Tags_team" ∉ a.table.names := by
  intro plan p batch
  have hbuild : CompiledPlan.build .standard plan = .ok p := rfl
  obtain ⟨a, ha⟩ : ∃ a, p.apply batch = .ok a := by
    simp only [p, batch]
    exact ⟨_, rfl⟩
  obtain ⟨w, hw, _, _, _, hplain⟩ := temporary_mem_apply_iff hbuild ha
  have hnames : w.table.names = ["Labels", "provider", "tmp_Tags_team"] := by
    simp only [p, batch] at hw
    cases hw
    rfl
  have hfield : Expanding p.assignments ⟨batch, []⟩ "tmp_Tags" "tmp_Tags_team" :=
    .later rfl (.here rfl (by decide))
  refine ⟨hbuild, a, ha, (hplain ?_ _ List.mem_cons_self rfl).1 _ hfield⟩
  rw [hnames]
  decide

/-- An output that one rule fills and another expands a struct into is exported. -/
theorem temporary_exported :
    let drafts : List RuleDraft :=
      [{ planName := "stage region", focusColumn := "Region", sourceColumn := "Region",
         conversionType := "rename_column", columnPrefix := "tmp" },
        { planName := "expand labels", focusColumn := "Region", sourceColumn := "Labels",
          conversionType := "unnest", columnPrefix := "tmp", priority := some 1 }]
    let batch : Table :=
      ⟨1, [("Region", ⟨.text, .ok [.text "eu"]⟩),
        ("Labels", ⟨.struct [("team", .text)], .ok [.struct [.text "ops"]]⟩)]⟩
    ∃ rules p a, drafts.mapM RuleDraft.validate = .ok rules ∧
      CompiledPlan.build .standard ⟨"test", rules⟩ = .ok p ∧ p.apply batch = .ok a ∧
      ∃ r ∈ rules, r.isTemporary = true ∧ r.output ∈ a.table.names := by
  refine ⟨_, _, _, rfl, rfl, rfl, _, List.mem_cons_self, rfl, ?_⟩
  decide

end FocusBilling
