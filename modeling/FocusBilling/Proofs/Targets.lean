import FocusBilling.Proofs.Temporaries

/-!
# Columns to export

The columns to export are collected by the names of FOCUS columns when a plan is compiled, and told
for each batch: a name that some rule expands stands for the columns that came of that, and for
itself no more.

* `CompiledPlan.targetColumns_mem_iff` : the columns that a plan is about;
* `Plan.mem_targetColumns_apply` : the columns to export of a batch;
* `target_mem_apply_iff` : **which columns of rules without a prefix are exported.**
-/

namespace FocusBilling

namespace CompiledPlan

/-- A plan is about the FOCUS columns of its rules. -/
theorem targetColumns_mem_iff {registry : Registry} {plan : Plan} {p : CompiledPlan} {name : String}
    (h : build registry plan = .ok p) :
    name ∈ p.targetColumns ↔ ∃ r ∈ plan.rules, r.focusColumn.name = name := by
  obtain ⟨steps, -, rfl⟩ := build_eq_assembled.1 h
  simp

end CompiledPlan

/-- No FOCUS column has an underscore in its name. -/
theorem FocusColumn.underscore_not_mem (c : FocusColumn) : '_' ∉ c.name.toList := by
  cases c <;> decide

theorem Assignment.underscore_mem_fieldColumn (output field : String) :
    '_' ∈ (fieldColumn output field).toList := by
  simp [fieldColumn]

/-- What an output is expanded to is never a FOCUS column. -/
theorem Expanding.ne_focusColumn {steps : List Assignment} {w : Working} {output name : String}
    (h : Expanding steps w output name) (c : FocusColumn) : name ≠ c.name := by
  rintro rfl
  obtain ⟨field, hfield⟩ := h.eq_fieldColumn
  exact c.underscore_not_mem (hfield ▸ Assignment.underscore_mem_fieldColumn output field)

namespace Plan

variable {plan : Plan} {p : CompiledPlan} {t : Table} {a : AppliedBatch} {name : String}

/-- The columns to export of a batch: each FOCUS column of the plan that no rule expands, and each
column that another one is expanded to, if it is still there. -/
theorem mem_targetColumns_apply (hp : CompiledPlan.build .standard plan = .ok p)
    (ha : p.apply t = .ok a) :
    name ∈ a.targetColumns ↔ ∃ r ∈ plan.rules,
      (Expanding p.assignments ⟨t, []⟩ r.focusColumn.name name ∧ name ∈ a.table.names) ∨
        (¬plan.Expands r.focusColumn.name ∧ name = r.focusColumn.name) := by
  obtain ⟨w, hw, u, _, rfl⟩ := CompiledPlan.apply_eq_ok.1 ha
  rw [Expanded.mem_resolve]
  simp only [has_undropped hw, lookup_undropped hp hw, CompiledPlan.targetColumns_mem_iff hp]
  constructor
  · rintro ⟨_, ⟨r, hr, rfl⟩, h⟩
    exact ⟨r, hr, h⟩
  · rintro ⟨r, hr, h⟩
    exact ⟨_, ⟨r, hr, rfl⟩, h⟩

end Plan

theorem Rule.output_of_not_temporary {r : Rule} (h : r.isTemporary = false) :
    r.output = r.focusColumn.name := by
  have hnone : r.columnPrefix = none := by simpa [Rule.isTemporary] using h
  rw [Rule.output, hnone]

/-- **Which columns of rules without a prefix are exported.**  The FOCUS column of a rule that
expands no struct is a column to export if and only if no other rule expands a struct into it.  What
a rule expands a struct to is a column to export as long as it is there.  So no FOCUS output is left
out if and only if no FOCUS column is both filled as it is and expanded. -/
theorem target_mem_apply_iff {plan : Plan} {p : CompiledPlan} {t : Table} {a : AppliedBatch}
    (hp : CompiledPlan.build .standard plan = .ok p) (ha : p.apply t = .ok a) :
    (∀ r ∈ plan.rules, r.isTemporary = false → ¬r.Expands →
      (r.focusColumn.name ∈ a.targetColumns ↔
        ¬∃ s ∈ plan.rules, s.Expands ∧ s.output = r.output)) ∧
    (∀ r ∈ plan.rules, r.isTemporary = false → r.Expands → ∀ n ∈ a.table.names,
      Expanding p.assignments ⟨t, []⟩ r.output n → n ∈ a.targetColumns) ∧
    ((∀ r ∈ plan.rules, r.isTemporary = false →
        (¬r.Expands → r.focusColumn.name ∈ a.targetColumns) ∧
        (r.Expands → ∀ n ∈ a.table.names,
          Expanding p.assignments ⟨t, []⟩ r.output n → n ∈ a.targetColumns)) ↔
      ∀ r ∈ plan.rules, r.isTemporary = false → ¬r.Expands →
        ¬∃ s ∈ plan.rules, s.Expands ∧ s.output = r.output) := by
  have hfilled : ∀ r ∈ plan.rules, r.isTemporary = false →
      (r.focusColumn.name ∈ a.targetColumns ↔
        ¬∃ s ∈ plan.rules, s.Expands ∧ s.output = r.output) := by
    intro r hr ht
    rw [Plan.mem_targetColumns_apply hp ha, Rule.output_of_not_temporary ht]
    constructor
    · rintro ⟨s, _, ⟨hx, _⟩ | ⟨hx, hname⟩⟩
      -- no struct is expanded to a FOCUS column, so the column stands for itself
      · exact absurd rfl (hx.ne_focusColumn r.focusColumn)
      · exact hname ▸ hx
    · exact fun hx => ⟨r, hr, .inr ⟨hx, rfl⟩⟩
  have hexpanded : ∀ r ∈ plan.rules, r.isTemporary = false → ∀ n ∈ a.table.names,
      Expanding p.assignments ⟨t, []⟩ r.output n → n ∈ a.targetColumns := by
    intro r hr ht n hn hx
    rw [Rule.output_of_not_temporary ht] at hx
    exact (Plan.mem_targetColumns_apply hp ha).2 ⟨r, hr, .inl ⟨hx, hn⟩⟩
  refine ⟨fun r hr ht _ => hfilled r hr ht, fun r hr ht _ => hexpanded r hr ht, ?_⟩
  constructor
  · exact fun hall r hr ht hx => (hfilled r hr ht).1 ((hall r hr ht).1 hx)
  · exact fun hall r hr ht =>
      ⟨fun hx => (hfilled r hr ht).2 (hall r hr ht hx), fun _ => hexpanded r hr ht⟩

/-- A column that is filled as it is and another one that a struct is expanded into: both are
exported. -/
theorem target_mem_apply_iff_service :
    let plan : Plan :=
      ⟨"test", [⟨"service", .serviceName, some "Service", .renameColumn, .none, none, 0, 0⟩,
        ⟨"labels", .tags, some "Labels", .unnest, .unnest none, none, 0, 1⟩]⟩
    let p : CompiledPlan :=
      ⟨"test", [CompiledPlan.providerAssignment "test", .column "ServiceName" (.column "Service"),
        .expanded "Tags" "Labels"], [], ["ServiceName", "Tags"], []⟩
    let batch : Table :=
      ⟨1, [("Service", ⟨.text, .ok [.text "s3"]⟩),
        ("Labels", ⟨.struct [("team", .text)], .ok [.struct [.text "ops"]]⟩)]⟩
    CompiledPlan.build .standard plan = .ok p ∧ ∃ a, p.apply batch = .ok a ∧
      "ServiceName" ∈ a.targetColumns ∧ "Tags_team" ∈ a.targetColumns := by
  intro plan p batch
  have hbuild : CompiledPlan.build .standard plan = .ok p := rfl
  obtain ⟨a, ha, hnames⟩ : ∃ a, p.apply batch = .ok a ∧ "Tags_team" ∈ a.table.names := by
    simp only [p, batch]
    exact ⟨_, rfl, by decide⟩
  obtain ⟨hfilled, hexpanded, _⟩ := target_mem_apply_iff hbuild ha
  have hfield : Expanding p.assignments ⟨batch, []⟩ "Tags" "Tags_team" :=
    .later rfl (.later rfl (.here rfl (by decide)))
  refine ⟨hbuild, a, ha, ?_, ?_⟩
  · refine (hfilled _ List.mem_cons_self rfl (by simp [Rule.Expands])).2 ?_
    rintro ⟨s, hs, hx, ho⟩
    simp only [plan, List.mem_cons, List.not_mem_nil, or_false] at hs
    rcases hs with rfl | rfl
    · exact absurd hx (by simp [Rule.Expands])
    · exact absurd ho (by decide)
  · exact hexpanded _ (List.mem_cons_of_mem _ List.mem_cons_self) rfl ⟨rfl, rfl⟩ _ hnames hfield

/-- A FOCUS column that one rule fills and another expands a struct into is in the table, and not
among the columns to export. -/
theorem target_left_out :
    let drafts : List RuleDraft :=
      [{ planName := "rename tags", focusColumn := "Tags", sourceColumn := "Owner",
         conversionType := "rename_column" },
        { planName := "expand labels", focusColumn := "Tags", sourceColumn := "Labels",
          conversionType := "unnest", priority := some 1 }]
    let batch : Table :=
      ⟨1, [("Owner", ⟨.text, .ok [.text "ann"]⟩),
        ("Labels", ⟨.struct [("team", .text)], .ok [.struct [.text "ops"]]⟩)]⟩
    ∃ rules p a, drafts.mapM RuleDraft.validate = .ok rules ∧
      CompiledPlan.build .standard ⟨"test", rules⟩ = .ok p ∧ p.apply batch = .ok a ∧
      ∃ r ∈ rules, r.isTemporary = false ∧ ¬r.Expands ∧ r.focusColumn.name ∈ a.table.names ∧
        r.focusColumn.name ∉ a.targetColumns := by
  refine ⟨_, _, _, rfl, rfl, rfl, _, List.mem_cons_self, rfl, ?_, ?_, ?_⟩
  · rintro ⟨hk, _⟩
    cases hk
  · decide
  · decide

end FocusBilling
