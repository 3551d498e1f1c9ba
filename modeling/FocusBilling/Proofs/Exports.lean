import Mathlib.Data.List.TakeWhile
import FocusBilling.Export.Segments
import FocusBilling.Proofs.Growth

/-!
# Columns that can be exported

The columns to export of a batch are settled with its names and types.  The segment that is written
of the batch later asks for these columns, and finds each of them once.

* `Rule.NamesPlainly` : a rule that asks for columns and fields by plain names;
* `Plan.grows_undropped` : in front of the drop there is what the rules fill;
* `Plan.focusColumn_mem_of_drop` : FOCUS columns stay behind the drop;
* `Plan.nodup_targetColumns_apply` : no column is to be exported twice;
* `SegmentExport.neverLacks_evaluate` : a segment of columns that are there;
* `CompiledPlan.exports_targets` : **the columns to export can be exported.**
-/

namespace FocusBilling

open Sql (NeverLacks neverLacks_ok neverLacks_pure neverLacks_mapM)

/-! ### Steps that fill their columns -/

namespace Assignment

variable {t : Table} {a : Assignment} {named : List (String × Scalar)}

/-- A step that asks by plain names fills its column, unless it expands a struct into it. -/
theorem output_mem_of_columns (h : a.columns t = .ok named)
    (hexpanded : ∀ source, a ≠ .expanded a.output source)
    (hsources : ∀ n ∈ a.sources, Table.IsPlain n)
    (hfield : ∀ output source name, a = .field output source name → Table.IsPlain name) :
    a.output ∈ named.map (·.1) := by
  cases a with
  | expanded output source => exact absurd rfl (hexpanded source)
  | column output value =>
    simp only [columns, Scalar.expand_of_plain hsources, bind_eq_ok, pure_eq_ok] at h
    obtain ⟨_, ⟨⟩, rfl⟩ := h
    exact List.mem_singleton_self _
  | field output source name =>
    simp only [columns, Table.matching_of_plain (hsources source (List.mem_singleton_self _)),
      Table.matchingNames_of_plain (hfield _ _ _ rfl), bind_eq_ok, pure_eq_ok] at h
    obtain ⟨_, ⟨⟩, found, hfound, rfl⟩ := h
    obtain ⟨filled, hfilled, hs⟩ := exists_of_mem_mapM hfound (List.mem_singleton_self source)
    simp only [bind_eq_ok, pure_eq_ok] at hs
    obtain ⟨_, _, _, ⟨⟩, rfl⟩ := hs
    exact List.mem_map.2 ⟨_, List.mem_flatten.2 ⟨_, hfilled, List.mem_singleton_self _⟩, rfl⟩
  | defaultIfMissing output source default =>
    rw [columns] at h
    split at h
    · have hexpand := Scalar.expand_of_plain (t := t) (e := .column source) hsources
      simp only [hexpand, bind_eq_ok, pure_eq_ok] at h
      obtain ⟨_, ⟨⟩, rfl⟩ := h
      exact List.mem_singleton_self _
    · cases h
      exact List.mem_singleton_self _

end Assignment

namespace Rule

variable {r : Rule} {a : Assignment} {n output source name : String}

/-- A rule that asks for columns and fields by names that stand for these only. -/
structure NamesPlainly (r : Rule) : Prop where
  /-- The name of its source column is plain, if it reads one. -/
  source : ∀ n, r.sourceColumn = some n → r.kind.needsSource = true → Table.IsPlain n
  /-- The name of its field is plain, if it reads one. -/
  field : ∀ n, r.args = .unnest (some n) → Table.IsPlain n

theorem needsSource_of_step (h : r.step .standard = .ok (.assign a)) (hn : n ∈ a.sources) :
    r.kind.needsSource = true := by
  cases step_eq_assign.1 h with
  | constant => cases hn
  | renamed hk | mapped hk | field hk | expanded hk | defaulted hk | cast hk | assignedUtc hk
  | assigned hk | converted hk | read hk | inferred hk => rw [hk]; rfl

/-- Only a rule that reads a field of a struct has a step that does. -/
theorem field_of_step (h : r.step .standard = .ok (.assign (.field output source name))) :
    r.args = .unnest (some name) := by
  cases step_eq_assign.1 h with
  | field _ hargs => exact hargs

/-- A rule that asks by plain names fills its column, unless it expands a struct into it. -/
theorem output_mem_of_step {t : Table} {named : List (String × Scalar)}
    (h : r.step .standard = .ok (.assign a)) (hexpands : ¬r.Expands) (hplain : r.NamesPlainly)
    (hnamed : a.columns t = .ok named) : r.output ∈ named.map (·.1) := by
  rw [← output_of_step h]
  refine Assignment.output_mem_of_columns hnamed (fun source ha => ?_) (fun n hn => ?_) ?_
  · exact hexpands (expands_of_step (ha ▸ h)).1
  · exact hplain.source n (source_of_step h hn) (needsSource_of_step h hn)
  · rintro output source name rfl
    exact hplain.field name (field_of_step h)

end Rule

/-! ### In front of the drop -/

namespace Plan

variable {plan : Plan} {p : CompiledPlan} {t : Table} {w : Working}

/-- **In front of the drop there are the columns of the batch and what the rules fill**, where
conditions fill their own columns only. -/
theorem grows_undropped (hp : CompiledPlan.build .standard plan = .ok p)
    (hquery : ∀ r ∈ plan.rules, r.kind ≠ .sqlQuery) (hdistinct : t.names.Nodup)
    (hfills : p.OnConditions t fun s u _ => s.FillsOwn u) (hw : p.undropped t = .ok w) :
    Table.Grows t w.table ∧
      ∀ r ∈ plan.rules, ¬r.Expands → r.NamesPlainly → r.output ∈ w.table.names := by
  simp only [CompiledPlan.undropped, bind_eq_ok, mapError_eq_ok, pure_eq_ok] at hw
  obtain ⟨w₀, hw₀, ⟨u, c⟩, hrun, rfl⟩ := hw
  obtain ⟨steps, hsteps, hassignments, hstatements⟩ := CompiledPlan.steps_of_build hp
  obtain ⟨hassigned, hfilled⟩ := Working.grows_foldlM_assign hw₀
  -- the name of the provider is there, so that statements find a column
  have hprovider : CompiledPlan.providerColumn ∈ w₀.table.names := by
    obtain ⟨v, named, hnamed, hall⟩ :=
      hfilled (CompiledPlan.providerAssignment plan.provider) (hassignments ▸ List.mem_cons_self)
    refine hall _ (Assignment.output_mem_of_columns hnamed ?_ ?_ ?_)
    · rintro _ ⟨⟩
    · rintro _ ⟨⟩
    · rintro _ _ _ ⟨⟩
  have hne : w₀.table.columns ≠ [] := fun hempty => by simp [Table.names, hempty] at hprovider
  have hconditions : ∀ s ∈ p.statements, ∃ o clauses text, s = .condition o clauses text := by
    intro s hs
    obtain ⟨o, clauses, d, hs, _⟩ := conditions_of_build hp hquery s hs
    exact ⟨o, clauses, _, hs⟩
  obtain ⟨hrest, hwritten⟩ := SqlStep.grows_foldlM_run (r := (w₀.table, .empty)) hne
    (hassigned.distinct hdistinct) hconditions (hfills w₀ hw₀) hrun
  refine ⟨hassigned.trans hrest, fun r hr hexpands hplain => ?_⟩
  obtain ⟨step, hmem, hstep⟩ := exists_of_mem_mapM (mapM_eq_ok.2 hsteps) hr
  cases step with
  | assign a =>
    have ha : a ∈ p.assignments := by
      rw [hassignments]
      exact List.mem_cons_of_mem _ (List.mem_filterMap.2 ⟨_, hmem, rfl⟩)
    obtain ⟨v, named, hnamed, hall⟩ := hfilled a ha
    exact hrest.names _ (hall _ (Rule.output_mem_of_step hstep hexpands hplain hnamed))
  | sql s =>
    obtain ⟨args, -, rfl⟩ := Rule.condition_of_step hstep (hquery r hr)
    refine hwritten r.output (args.conditions.map Text.trim) args.default.sql ?_
    rw [hstatements]
    exact List.mem_filterMap.2 ⟨_, hmem, rfl⟩

/-! ### Behind the drop -/

/-- A FOCUS column that is there in front of the drop is there behind it. -/
theorem focusColumn_mem_of_drop {u : Table} {c : FocusColumn}
    (hp : CompiledPlan.build .standard plan = .ok p) (hw : p.undropped t = .ok w)
    (hu : CompiledPlan.withoutTemporaries w.table
      (w.expanded.resolve w.table.names p.temporaryColumns) = .ok u)
    (hplain : Table.IsPlain c.name) (hc : c.name ∈ w.table.names) : c.name ∈ u.names :=
  (mem_names_iff_of_drop hp hw hu hc).2 (.inr ⟨c.name, hc, not_drops c.underscore_not_mem,
    (Table.standsFor_of_plain hplain).2 rfl⟩)

end Plan

/-! ### Each column once -/

/-- The part of a name in front of its first underscore. -/
def stem (name : String) : List Char := name.toList.takeWhile (· != '_')

theorem FocusColumn.stem_name (c : FocusColumn) : stem c.name = c.name.toList :=
  List.takeWhile_eq_self_iff.2 fun x hx => by
    simpa using fun heq : x = '_' => c.underscore_not_mem (heq ▸ hx)

theorem FocusColumn.stem_fieldColumn (c : FocusColumn) (field : String) :
    stem (Assignment.fieldColumn c.name field) = c.name.toList := by
  rw [stem, Assignment.fieldColumn, String.toList_append, String.toList_append, List.append_assoc,
    List.takeWhile_append_of_pos (List.takeWhile_eq_self_iff.1 c.stem_name)]
  simp

namespace Expanded

variable {e : Expanded}

/-- A record that holds no column twice for one output. -/
def Distinct (e : Expanded) : Prop := ∀ output known, e.lookup output = some known → known.Nodup

theorem Distinct.addIn (h : e.Distinct) (output : String) (names : List String) :
    Distinct (addIn output names e) := by
  intro other known hknown
  rw [lookup_addIn] at hknown
  split at hknown
  · cases hknown
    refine Table.nodup_foldl_addOnce ?_
    cases hlookup : e.lookup output with
    | none => exact .nil
    | some known => exact h output known hlookup
  · exact h other known hknown

theorem resolve_eq_flatMap {columns names : List String} :
    e.resolve columns names = names.flatMap fun n => e.resolve columns [n] := by
  simp [resolve]

theorem Distinct.nodup_resolve (h : e.Distinct) {columns : List String} {name : String} :
    (e.resolve columns [name]).Nodup := by
  rw [resolve, List.flatMap_singleton]
  split
  next known hknown => exact (h name known hknown).filter _
  next => exact List.nodup_singleton _

end Expanded

namespace Working

variable {steps : List Assignment} {w w' : Working}

theorem distinct_foldlM_assign (hw : w.expanded.Distinct) (h : steps.foldlM assign w = .ok w') :
    w'.expanded.Distinct := by
  induction steps generalizing w with
  | nil =>
    cases h
    exact hw
  | cons step steps ih =>
    obtain ⟨w₁, h₁, h⟩ := foldlM_cons_eq_ok.1 h
    obtain ⟨named, _, _, hexpanded⟩ := assign_eq_ok.1 h₁
    refine ih ?_ h
    rw [hexpanded]
    cases step with
    | expanded output source => exact hw.addIn output _
    | column | field | defaultIfMissing => exact hw

end Working

namespace CompiledPlan

variable {registry : Registry} {plan : Plan} {p : CompiledPlan}

/-- A plan is about no column twice. -/
theorem nodup_targetColumns (h : build registry plan = .ok p) : p.targetColumns.Nodup := by
  obtain ⟨steps, -, rfl⟩ := build_eq_assembled.1 h
  rw [← foldl_addOnce_nil]
  exact Table.nodup_foldl_addOnce .nil

end CompiledPlan

namespace Plan

variable {plan : Plan} {p : CompiledPlan} {t : Table} {a : AppliedBatch}

/-- **No column is to be exported twice**: what a FOCUS column stands for has its name in front of
the first underscore. -/
theorem nodup_targetColumns_apply (hp : CompiledPlan.build .standard plan = .ok p)
    (ha : p.apply t = .ok a) : a.targetColumns.Nodup := by
  obtain ⟨w, hw, u, -, rfl⟩ := CompiledPlan.apply_eq_ok.1 ha
  have hrecord : w.expanded.Distinct := by
    simp only [CompiledPlan.undropped, bind_eq_ok, mapError_eq_ok, pure_eq_ok] at hw
    obtain ⟨w₀, hw₀, _, _, rfl⟩ := hw
    have hempty : Expanded.Distinct (Working.mk t []).expanded := by rintro _ _ ⟨⟩
    have hrecord : w₀.expanded.Distinct := Working.distinct_foldlM_assign hempty hw₀
    exact hrecord
  have hstem : ∀ output ∈ p.targetColumns, ∀ n ∈ w.expanded.resolve u.names [output],
      stem n = output.toList := by
    intro output houtput n hn
    obtain ⟨r, -, rfl⟩ := (CompiledPlan.targetColumns_mem_iff hp).1 houtput
    obtain ⟨_, hmem, hn⟩ := Expanded.mem_resolve.1 hn
    obtain rfl := List.mem_singleton.1 hmem
    rcases hn with ⟨hx, -⟩ | ⟨-, rfl⟩
    · obtain ⟨field, rfl⟩ := ((has_undropped hw).1 hx).eq_fieldColumn
      exact r.focusColumn.stem_fieldColumn field
    · exact r.focusColumn.stem_name
  rw [Expanded.resolve_eq_flatMap, List.nodup_flatMap]
  refine ⟨fun output _ => hrecord.nodup_resolve, ?_⟩
  -- two FOCUS columns that stand for the same column have the same stem, which is their name
  refine (CompiledPlan.nodup_targetColumns hp).imp_of_mem fun {o o'} ho ho' hne n hn hn' => ?_
  exact hne (String.toList_injective ((hstem o ho n hn).symm.trans (hstem o' ho' n hn')))

end Plan

/-! ### Segments of columns that are there -/

namespace Table

variable {t u : Table} {n : String} {names temporaries : List String}

theorem exists_get (hn : n ∈ t.names) : ∃ d, t.get n = .ok d := by
  obtain ⟨d, hd⟩ := Option.isSome_iff_exists.1 (isSome_find?.2 hn)
  exact ⟨d, by rw [get, hd]⟩

theorem get_of_not_mem (hn : n ∉ t.names) : t.get n = .error (.missingColumn n) := by
  have hnone : t.find? n = none :=
    Option.eq_none_iff_forall_ne_some.2 fun _ hd => hn (mem_names_of_find? hd)
  rw [get, hnone]

theorem neverLacks_matching : NeverLacks (t.matching n) := by
  unfold matching matchingNames
  split
  · simp
  split
  · split <;> simp
  · simp

/-- A name of a column stands for columns that are there. -/
theorem mem_names_of_matching {found : List String} (hn : n ∈ t.names)
    (h : t.matching n = .ok found) : ∀ m ∈ found, m ∈ t.names := by
  unfold matching matchingNames at h
  split at h
  · cases h
    exact fun m hm => hm
  split at h
  · split at h <;> cases h
    exact fun m hm => List.mem_of_mem_filter hm
  · cases h
    exact List.forall_mem_singleton.2 hn

/-- A selection of columns that are there lacks none. -/
theorem neverLacks_select (h : ∀ n ∈ names, n ∈ t.names) : NeverLacks (t.select names) := by
  refine (neverLacks_mapM fun _ _ => neverLacks_matching).bind_of_ok fun founds hfounds => ?_
  refine (neverLacks_mapM fun m hm => ?_).bind fun columns => ?_
  · obtain ⟨n, hn, found, hfound, hm⟩ := (mem_flatten_of_mapM hfounds).1 hm
    obtain ⟨d, hd⟩ := exists_get (mem_names_of_matching (h n hn) hfound m hm)
    rw [hd]
    exact neverLacks_ok _
  · unfold ofColumns
    split <;> simp

theorem Holds.select (ht : t.Holds) (h : t.select names = .ok u) : u.Holds := by
  simp only [Table.select, bind_eq_ok, ofColumns_eq_ok] at h
  obtain ⟨_, _, columns, hcolumns, -, rfl⟩ := h
  intro c hc
  obtain ⟨m, _, hm⟩ := exists_of_mem_of_mapM hcolumns hc
  simp only [bind_eq_ok, pure_eq_ok] at hm
  obtain ⟨d, hd, rfl⟩ := hm
  exact ht.get hd

theorem Holds.withoutTemporaries (ht : t.Holds)
    (h : CompiledPlan.withoutTemporaries t temporaries = .ok u) : u.Holds := by
  unfold CompiledPlan.withoutTemporaries at h
  split at h
  · exact ht.select h
  · cases h
    exact ht

theorem Holds.neverLacks_collect (ht : t.Holds) : NeverLacks t.collect := by
  refine (neverLacks_mapM fun c hc => ?_).bind fun _ => neverLacks_pure _
  exact (ht c hc).bind fun _ => neverLacks_pure _

end Table

namespace SegmentExport

variable {x : SegmentExport} {t : Table} {targets : List String}

/-- A segment of columns that are there lacks none. -/
theorem neverLacks_evaluate (ht : t.Holds) (htargets : ∀ n ∈ targets, n ∈ t.names)
    (hothers : x.options.keepSources = true ∨ ∀ n ∈ x.options.passthrough, n ∈ t.names) :
    NeverLacks (x.evaluate t targets) := by
  have hprojection : ∀ n ∈ projection x.options targets t.names, n ∈ t.names := by
    intro n hn
    rw [projection, Expanded.mem_foldl_addOnce, List.mem_append] at hn
    rcases hn with hn | hn | hn
    · cases hn
    · exact htargets n hn
    · split at hn
      next => exact hn
      next hkeep => exact hothers.resolve_left hkeep n hn
  exact (Table.neverLacks_select hprojection).bind_of_ok fun u hu =>
    (ht.select hu).neverLacks_collect

theorem write_ne_missing (h : NeverLacks (x.evaluate t targets)) (n : String) :
    (x.write t targets).1 ≠ .error (.frame (.missingColumn n)) := by
  intro hwrite
  unfold write at hwrite
  split at hwrite
  · cases hwrite
  split at hwrite
  next e he =>
    cases hwrite
    exact h n he
  next => grind

end SegmentExport

namespace CompiledPlan

variable {plan : Plan} {p : CompiledPlan}

/-- **The columns to export can be exported.**  Each of them is a column of the result, and none is
told twice; so a segment of the result never lacks a column, if all columns are kept or the ones to
pass through are there.  Each FOCUS column of the plan needs a rule without a prefix that asks by
plain names or expands a struct, and each condition must fill its own column only. -/
theorem exports_targets {f : Frame} {a : AppliedBatch} (hp : build .standard plan = .ok p)
    (hquery : ∀ r ∈ plan.rules, r.kind ≠ .sqlQuery)
    (hused : ∀ r ∈ plan.rules, ∃ s ∈ plan.rules, s.focusColumn = r.focusColumn ∧
      s.isTemporary = false ∧ (s.Expands ∨ s.NamesPlainly))
    (hfills : p.OnConditions f.toTable fun s t _ => s.FillsOwn t) (hdistinct : f.names.Nodup)
    (ha : p.apply f.toTable = .ok a) :
    a.targetColumns.Nodup ∧ (∀ n ∈ a.targetColumns, n ∈ a.table.names) ∧
      ∀ x : SegmentExport, (x.options.keepSources = true ∨
          ∀ n ∈ x.options.passthrough, n ∈ a.table.names) →
        ∀ n, (x.write a.table a.targetColumns).1 ≠ .error (.frame (.missingColumn n)) := by
  obtain ⟨w, hw, u, hu, hau⟩ := apply_eq_ok.1 ha
  obtain ⟨hgrows, hfilled⟩ :=
    Plan.grows_undropped hp hquery (f.names_toTable ▸ hdistinct) hfills hw
  have hthere : ∀ n ∈ a.targetColumns, n ∈ a.table.names := by
    intro n hn
    obtain ⟨r, hr, ⟨-, hn⟩ | ⟨hexpands, rfl⟩⟩ := (Plan.mem_targetColumns_apply hp ha).1 hn
    · exact hn
    · obtain ⟨s, hs, hfocus, htemporary, hplainly⟩ := hused r hr
      have houtput : s.output = r.focusColumn.name :=
        (Rule.output_of_not_temporary htemporary).trans (congrArg FocusColumn.name hfocus)
      -- the column stands for itself, so no rule expands a struct into it
      have hnot : ¬s.Expands := fun h => hexpands ⟨s, hs, h, houtput⟩
      have hmem := houtput ▸ hfilled s hs hnot (hplainly.resolve_left hnot)
      rw [← hau]
      exact Plan.focusColumn_mem_of_drop hp hw hu (houtput ▸ s.isPlain_output) hmem
  have hholds : a.table.Holds := by
    rw [← hau]
    exact (hgrows.holds (Table.holds_toTable f)).withoutTemporaries hu
  refine ⟨Plan.nodup_targetColumns_apply hp ha, hthere, fun x hothers n => ?_⟩
  exact SegmentExport.write_ne_missing (SegmentExport.neverLacks_evaluate hholds hthere hothers) n

/-- A service and its category are exported. -/
theorem exports_targets_services :
    let clause := "WHEN \"Service\" = 's3' THEN 'Storage'"
    let plan : Plan :=
      ⟨"test", [⟨"service", .serviceName, some "Service", .renameColumn, .none, none, 0, 0⟩,
        ⟨"kind", .serviceCategory, none, .sqlCondition, .sqlCondition ⟨[clause], .text "Other"⟩,
          none, 0, 1⟩]⟩
    let f : Frame := ⟨2, [⟨"Service", .text, [.text "s3", .null]⟩]⟩
    let x : SegmentExport := ⟨.folder [], "out", {}, [], false⟩
    ∃ p a, build .standard plan = .ok p ∧ p.apply f.toTable = .ok a ∧ a.targetColumns.Nodup ∧
      (∀ n ∈ a.targetColumns, n ∈ a.table.names) ∧
      ∀ n, (x.write a.table a.targetColumns).1 ≠ .error (.frame (.missingColumn n)) := by
  intro clause plan f x
  let p : CompiledPlan :=
    ⟨"test", [providerAssignment "test", .column "ServiceName" (.column "Service")],
      [.condition "ServiceCategory" [Text.trim clause] (Literal.text "Other").sql],
      ["ServiceName", "ServiceCategory"], []⟩
  have hp : build .standard plan = .ok p := rfl
  have htrim : Text.trim clause = clause := by decide +kernel
  have hreports : Sql.ReportsBranches clause := Sql.reportsBranches_services
  have hused : ∀ r ∈ plan.rules, ∃ s ∈ plan.rules, s.focusColumn = r.focusColumn ∧
      s.isTemporary = false ∧ (s.Expands ∨ s.NamesPlainly) := by
    intro r hr
    refine ⟨r, hr, rfl, ?_⟩
    simp only [plan, List.mem_cons, List.not_mem_nil, or_false] at hr
    rcases hr with rfl | rfl
    · refine ⟨rfl, .inr ⟨fun n hn _ => ?_, nofun⟩⟩
      cases hn
      decide
    · exact ⟨rfl, .inr ⟨nofun, nofun⟩⟩
  have hfills : p.OnConditions f.toTable fun s t _ => s.FillsOwn t := by
    intro w _ s t c hs
    cases hs with
    | later _ hs => cases hs
    | here =>
      refine (SqlStep.isConfinedTo_of_branches (fun live hlive => ?_) _ (.text "Other")).fillsOwn _
      rw [htrim] at hlive
      exact List.mem_singleton.1 hlive ▸ hreports
  obtain ⟨a, ha⟩ : ∃ a, p.apply f.toTable = .ok a := exists_of_isSome (by decide +kernel)
  obtain ⟨hnodup, hthere, hwrite⟩ :=
    exports_targets hp (by simp [plan]) hused hfills (by decide) ha
  exact ⟨p, a, hp, ha, hnodup, hthere, hwrite x (.inl rfl)⟩

/-- A clause that ends its statement early fills a column of another name.  The column to export is
not there, and no segment can be written. -/
theorem target_unfilled :
    let clause := "WHEN x = 1 THEN 2 END AS extra FROM TABLE_NAME --"
    let drafts : List RuleDraft :=
      [{ planName := "region", focusColumn := "Region", conversionType := "sql_condition",
         conversionArgs := some (.ofEntries
           [("conditions", .list [.text clause]), ("default_value", .int 4)]) }]
    let f : Frame := ⟨2, [⟨"x", .int .i64, [.int 1, .int 2]⟩]⟩
    let x : SegmentExport := ⟨.folder [], "out", {}, [], false⟩
    ∃ rules p a, drafts.mapM RuleDraft.validate = .ok rules ∧
      build .standard ⟨"test", rules⟩ = .ok p ∧ (∀ r ∈ rules, r.isTemporary = false) ∧
      p.apply f.toTable = .ok a ∧ "Region" ∈ a.targetColumns ∧ "Region" ∉ a.table.names ∧
      x.options.keepSources = true ∧
      (x.write a.table a.targetColumns).1 = .error (.frame (.missingColumn "Region")) := by
  intro clause drafts f x
  let rule : Rule :=
    ⟨"region", .region, none, .sqlCondition, .sqlCondition ⟨[clause], .int 4⟩, none, 0, 0⟩
  let p : CompiledPlan :=
    ⟨"test", [providerAssignment "test"],
      [.condition "Region" [Text.trim clause] (Literal.int 4).sql], ["Region"], []⟩
  obtain ⟨a, ha, hall⟩ : ∃ a, p.apply f.toTable = .ok a ∧
      decide ("Region" ∈ a.targetColumns ∧ "Region" ∉ a.table.names ∧
        (x.write a.table a.targetColumns).1 = .error (.frame (.missingColumn "Region"))) = true :=
    exists_of_map_toOption (by decide +kernel)
  obtain ⟨htarget, hmissing, hwrite⟩ := of_decide_eq_true hall
  have hrules : drafts.mapM RuleDraft.validate = .ok [rule] := by
    simp only [drafts, rule, clause]
    rfl
  exact ⟨[rule], p, a, hrules, rfl, by simp [rule, Rule.isTemporary], ha, htarget, hmissing, rfl,
    hwrite⟩

end CompiledPlan

end FocusBilling
