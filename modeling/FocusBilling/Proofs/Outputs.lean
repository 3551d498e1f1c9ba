import FocusBilling.Proofs.Compilation
import FocusBilling.Proofs.Dependencies
import FocusBilling.Proofs.SourceColumns

/-!
# The names of outputs

A rule with a prefix writes a column whose name is put together of the prefix, an underscore and the
name of a FOCUS column.  The prefix is a free text and may hold underscores itself, but no FOCUS
column does, so the last underscore is where the FOCUS column begins.  For the same reason no name
that is put together is one of those that are exported.

* `Rule.output_eq_iff` : two rules write one column only if they have the same prefix and the same
  FOCUS column;
* `IsStandard` : the names that every export may have, those of FOCUS columns and of the provider;
* `CompiledPlan.not_mem_dropped` : no such name is among those that a plan drops;
* `CompiledPlan.drop_spares` : **the drop of temporary columns is harmless.**
-/

namespace FocusBilling

namespace FocusColumn

theorem ofName?_name (c : FocusColumn) : ofName? c.name = some c := by
  cases c <;> decide +kernel

theorem name_injective : Function.Injective name := fun a b h =>
  Option.some.inj ((ofName?_name a).symm.trans (h ▸ ofName?_name b))

end FocusColumn

namespace Rule

variable {r s : Rule}

/-- The characters of an output: the FOCUS column, behind the prefix and an underscore. -/
theorem toList_output (r : Rule) :
    r.output.toList =
      (r.columnPrefix.elim [] fun p => p.toList ++ ['_']) ++ r.focusColumn.name.toList := by
  rw [output]
  cases r.columnPrefix <;> simp

/-- **Two rules write one column only if they have the same prefix and the same FOCUS column.** -/
theorem output_eq_iff :
    r.output = s.output ↔ r.columnPrefix = s.columnPrefix ∧ r.focusColumn = s.focusColumn := by
  constructor
  · intro h
    have hchars := congrArg String.toList h
    rw [toList_output, toList_output] at hchars
    have hr := r.focusColumn.underscore_not_mem
    have hs := s.focusColumn.underscore_not_mem
    cases hp : r.columnPrefix with
    | none =>
      cases hq : s.columnPrefix with
      | none =>
        simp only [hp, hq, Option.elim_none, List.nil_append] at hchars
        exact ⟨rfl, FocusColumn.name_injective (String.toList_inj.1 hchars)⟩
      | some q =>
        simp only [hp, hq, Option.elim_none, Option.elim_some, List.nil_append] at hchars
        exact absurd (hchars ▸ by simp) hr
    | some p =>
      cases hq : s.columnPrefix with
      | none =>
        simp only [hp, hq, Option.elim_none, Option.elim_some, List.nil_append] at hchars
        exact absurd (hchars.symm ▸ by simp) hs
      | some q =>
        simp only [hp, hq, Option.elim_some, List.append_assoc, List.singleton_append] at hchars
        obtain ⟨hbefore, hname⟩ := append_cons_inj_of_not_mem hr hs hchars
        exact ⟨congrArg some (String.toList_inj.1 hbefore),
          FocusColumn.name_injective (String.toList_inj.1 hname)⟩
  · rintro ⟨hbefore, hcolumn⟩
    rw [output, output, hbefore, hcolumn]

theorem underscore_mem_output (h : r.isTemporary = true) : '_' ∈ r.output.toList := by
  obtain ⟨p, hp⟩ := Option.isSome_iff_exists.1 h
  rw [toList_output, hp]
  simp

end Rule

/-- A name that every export may have: that of a FOCUS column, or of the column that tells the
provider. -/
def IsStandard (n : String) : Prop :=
  n = CompiledPlan.providerColumn ∨ ∃ c : FocusColumn, n = c.name

namespace IsStandard

variable {n : String}

theorem underscore_not_mem (h : IsStandard n) : '_' ∉ n.toList := by
  rcases h with rfl | ⟨c, rfl⟩
  · decide
  · exact c.underscore_not_mem

theorem isPlain (h : IsStandard n) : Table.IsPlain n := by
  rcases h with rfl | ⟨c, rfl⟩
  · decide
  · cases c <;> decide

end IsStandard

namespace CompiledPlan

variable {registry : Registry} {plan : Plan} {p : CompiledPlan} {t : Table} {w : Working}
  {n : String}

/-- Whatever compilers are registered, a plan drops names with an underscore only. -/
theorem underscore_mem_dropped (hp : build registry plan = .ok p) (hw : p.undropped t = .ok w)
    (hn : n ∈ w.expanded.resolve w.table.names p.temporaryColumns) : '_' ∈ n.toList := by
  obtain ⟨_, _, rfl⟩ := build_eq_assembled.1 hp
  obtain ⟨output, houtput, ⟨hexpanded, -⟩ | ⟨-, rfl⟩⟩ := Expanded.mem_resolve.1 hn
  · obtain ⟨field, rfl⟩ := ((Plan.has_undropped hw).1 hexpanded).eq_fieldColumn
    exact Assignment.underscore_mem_fieldColumn output field
  · rw [List.mem_eraseDups, List.mem_map] at houtput
    obtain ⟨r, hr, rfl⟩ := houtput
    exact Rule.underscore_mem_output (List.mem_filter.1 hr).2

theorem not_mem_dropped (hp : build registry plan = .ok p) (hw : p.undropped t = .ok w)
    (hn : IsStandard n) : n ∉ w.expanded.resolve w.table.names p.temporaryColumns :=
  fun h => hn.underscore_not_mem (underscore_mem_dropped hp hw h)

/-- **The drop of temporary columns is harmless.**  A prefix and a FOCUS column are told by the
name of the column that a rule writes.  Neither such a name with a prefix nor anything that a struct
is expanded to under it is the name of a FOCUS column or of the provider.  So, whatever is dropped
behind the steps of a plan, the columns of these names come out as they were. -/
theorem drop_spares (registry : Registry) (plan : Plan) :
    (∀ r s : Rule, r.output = s.output ↔
      r.columnPrefix = s.columnPrefix ∧ r.focusColumn = s.focusColumn) ∧
    (∀ r : Rule, r.isTemporary = true → ∀ n, IsStandard n →
      r.output ≠ n ∧ ∀ field, Assignment.fieldColumn r.output field ≠ n) ∧
    ∀ p t a, build registry plan = .ok p → p.apply t = .ok a →
      ∃ w, p.undropped t = .ok w ∧ ∀ n ∈ w.table.names, IsStandard n →
        n ∈ a.table.names ∧ a.table.find? n = w.table.find? n := by
  refine ⟨fun r s => Rule.output_eq_iff, fun r hr n hn => ⟨?_, fun field => ?_⟩,
    fun p t a hp ha => ?_⟩
  · rintro rfl
    exact hn.underscore_not_mem (Rule.underscore_mem_output hr)
  · rintro rfl
    exact hn.underscore_not_mem (Assignment.underscore_mem_fieldColumn r.output field)
  · obtain ⟨w, hw, u, hu, rfl⟩ := apply_eq_ok.1 ha
    refine ⟨w, hw, fun n hin hn => ?_⟩
    have hkept : n ∈ u.names := (mem_names_withoutTemporaries hu).2
      ⟨hin, .inr ⟨n, hin, not_mem_dropped hp hw hn, (Table.standsFor_of_plain hn.isPlain).2 rfl⟩⟩
    exact ⟨hkept, Table.find?_withoutTemporaries hu hkept⟩

/-- A column that is staged under a prefix with an underscore, and is taken from there. -/
theorem drop_spares_staged :
    let stage : Rule := ⟨"stage", .region, some "x", .renameColumn, .none, some "tmp_a", 0, 0⟩
    let take : Rule := ⟨"take", .region, some "tmp_a_Region", .renameColumn, .none, none, 0, 1⟩
    let p : CompiledPlan :=
      ⟨"test", [providerAssignment "test", .column "tmp_a_Region" (.column "x"),
        .column "Region" (.column "tmp_a_Region")], [], ["Region"], ["tmp_a_Region"]⟩
    let batch : Table := ⟨1, [("x", ⟨.text, .ok [.text "eu"]⟩)]⟩
    stage.isTemporary = true ∧ stage.output ≠ "Region" ∧ stage.output ≠ take.output ∧
      build .standard ⟨"test", [stage, take]⟩ = .ok p ∧
      ∃ a w, p.apply batch = .ok a ∧ p.undropped batch = .ok w ∧
        w.table.names = ["x", "provider", "tmp_a_Region", "Region"] ∧
        a.table.names = ["x", "provider", "Region"] ∧
        a.table.find? "Region" = w.table.find? "Region" := by
  intro stage take p batch
  obtain ⟨houtputs, hnames, hdrop⟩ := drop_spares .standard ⟨"test", [stage, take]⟩
  have hregion : IsStandard "Region" := .inr ⟨.region, rfl⟩
  have hdifferent : stage.output ≠ take.output := fun h => nomatch ((houtputs _ _).1 h).1
  have hp : build .standard ⟨"test", [stage, take]⟩ = .ok p := rfl
  obtain ⟨a, ha, hexported⟩ := exists_of_map_toOption (x := p.apply batch)
    (f := fun a => a.table.names) (b := ["x", "provider", "Region"]) (by decide +kernel)
  obtain ⟨w, hw, hkept⟩ := hdrop p batch a hp ha
  have hleft : w.table.names = ["x", "provider", "tmp_a_Region", "Region"] := by
    simp only [p, batch] at hw
    cases hw
    rfl
  refine ⟨rfl, (hnames stage rfl _ hregion).1, hdifferent, hp, a, w, ha, hw, hleft, hexported, ?_⟩
  exact (hkept "Region" (by simp [hleft]) hregion).2

end CompiledPlan

end FocusBilling
