import Mathlib.Data.List.Nodup
import FocusBilling.Proofs.Independence

/-!
# The order of a plan

A compiled plan carries out all steps that fill columns before all conditions.  The rules ask for
another order, in which each step works on the table that the one before it has left.  Where no step
that fills columns reads or writes what a condition in front of it writes, and none writes what the
condition reads, a condition can be moved behind it, so that both orders give the same.

* `PlanStep.run`, `CompiledPlan.madeInOrder` : the steps of a plan one at a time;
* `PlanStep.Independent` : steps that fill columns and do not meet the conditions in front of them;
* `CompiledPlan.paired_moved` : **a condition moved behind the steps that fill columns**;
* `CompiledPlan.made_inOrder` : **a plan makes the same of a batch as its steps one at a time.**
-/

namespace FocusBilling

/-! ### One step at a time -/

namespace PlanStep

/-- One step, on the table that the step before it has left. -/
def run (s : PlanStep) (r : Working × Sql.Catalog) : Except ApplyError (Working × Sql.Catalog) :=
  match s with
  | assign a => do pure (← (r.1.assign a).mapError .ofFrame, r.2)
  | sql s => do
    let (t, c) ← s.run r.1.table r.2
    pure (⟨t, r.1.expanded⟩, c)

end PlanStep

namespace CompiledPlan

/-- The end of a plan: temporary columns are dropped, and the columns to export are told. -/
def finished (p : CompiledPlan) (w : Working) : Except ApplyError AppliedBatch := do
  let temporaries := w.expanded.resolve w.table.names p.temporaryColumns
  let t ← (withoutTemporaries w.table temporaries).mapError .ofFrame
  pure ⟨t, w.expanded.resolve t.names p.targetColumns⟩

/-- What a plan makes of a frame whose steps run one at a time, with the columns to export. -/
def madeInOrder (p : CompiledPlan) (steps : List PlanStep) (f : Frame) :
    Except ApplyError (Frame × List String) := do
  let steps := .assign (providerAssignment p.provider) :: steps
  let r ← steps.foldlM (fun r s => s.run r) (⟨f.toTable, []⟩, Sql.Catalog.empty)
  let a ← p.finished r.1
  pure (← a.table.collect.mapError .ofFrame, a.targetColumns)

end CompiledPlan

/-! ### Steps that do not meet -/

/-- Steps that fill columns, none of which reads or writes the column of a condition, or writes one
that its clauses report; what they write are plain names. -/
def SqlStep.Undisturbed (o : String) (clauses : List String) : List Assignment → Working → Prop
  | [], _ => True
  | a :: steps, w => ¬a.Reads o ∧
      (∀ named, a.columns w.table = .ok named → ∀ n ∈ named.map (·.1),
        n ≠ o ∧ n ∉ reported clauses ∧ Table.IsPlain n) ∧
      ∀ w', w.assign a = .ok w' → Undisturbed o clauses steps w'

/-- Steps in which the conditions are not disturbed by those behind them that fill columns. -/
def PlanStep.Independent : List PlanStep → Working → Prop
  | [], _ => True
  | assign a :: steps, w => ∀ w', w.assign a = .ok w' → Independent steps w'
  | sql (.condition o clauses _) :: steps, w =>
    SqlStep.Undisturbed o clauses (steps.filterMap PlanStep.assignment?) w ∧ Independent steps w
  | sql (.query _) :: steps, w => Independent steps w

/-- A step that writes no name that is reserved, and is no query. -/
def PlanStep.IsOrdinary : PlanStep → Prop
  | assign a => ∀ t named, a.columns t = .ok named → ∀ n ∈ named.map (·.1), n ∉ SqlStep.reserved
  | sql (.condition o _ _) => o ≠ SqlStep.stagingColumn ∧ Table.IsPlain o
  | sql (.query _) => False

namespace Working

variable {o o' : String} {clauses clauses' : List String} {x : Deferred} {w v w' : Working}
  {steps : List Assignment}

/-- **Steps that fill columns do the same beside one more column.** -/
theorem apart_foldlM_assign (h : Apart o x w v) (hu : SqlStep.Undisturbed o clauses steps w) :
    Paired (Apart o x) (steps.foldlM assign w) (steps.foldlM assign v) := by
  induction steps generalizing w v with
  | nil => exact .ok h
  | cons a steps ih =>
    obtain ⟨hreads, hwrites, hrest⟩ := hu
    have hfirst := (apart_assign h hreads fun named hnamed ho =>
      (hwrites named hnamed o ho).1 rfl).found
    simp only [List.foldlM_cons]
    exact hfirst.bind fun w' v' hw' => ih hw'.2.2 (hrest w' hw'.1)

/-- What steps leave that do not disturb a condition. -/
theorem extends_of_undisturbed (ht : w.table.columns ≠ [])
    (hu : SqlStep.Undisturbed o clauses steps w)
    (hordinary : ∀ a ∈ steps, (PlanStep.assign a).IsOrdinary) (h : steps.foldlM assign w = .ok w') :
    Table.Extends (fun n => n ∉ SqlStep.lookedAt o clauses ∧ Table.IsPlain n) w.table
      w'.table := by
  induction steps generalizing w with
  | nil =>
    cases h
    exact .refl _ _
  | cons a steps ih =>
    obtain ⟨w₁, h₁, h⟩ := foldlM_cons_eq_ok.1 h
    obtain ⟨_, hwrites, hrest⟩ := hu
    obtain ⟨named, hnamed, hrun, _⟩ := assign_eq_ok.1 h₁
    have hfirst : Table.Extends (fun n => n ∉ SqlStep.lookedAt o clauses ∧ Table.IsPlain n) w.table
        w₁.table := by
      refine (Assignment.extends_run ht hnamed hrun).mono fun n hn => ?_
      obtain ⟨hne, hnot, hplain⟩ := hwrites named hnamed n hn
      have hfree := hordinary a List.mem_cons_self w.table named hnamed n hn
      refine ⟨fun hlooked => ?_, hplain⟩
      rcases List.mem_cons.1 hlooked with heq | hlooked
      · exact hne heq
      · exact (List.mem_append.1 hlooked).elim hfree hnot
    exact hfirst.trans (ih (hfirst.columns_ne_nil ht) (hrest w₁ h₁)
      (fun b hb => hordinary b (List.mem_cons_of_mem _ hb)) h)

theorem undisturbed_of_apart (h : Apart o x w v) (hu : SqlStep.Undisturbed o clauses steps w)
    (hu' : SqlStep.Undisturbed o' clauses' steps w) : SqlStep.Undisturbed o' clauses' steps v := by
  induction steps generalizing w v with
  | nil => trivial
  | cons a steps ih =>
    obtain ⟨hreads, hwrites, hrest⟩ := hu
    obtain ⟨hreads', hwrites', hrest'⟩ := hu'
    have hcolumns := (Assignment.columns_of_apart h.table hreads).1
    refine ⟨hreads', hcolumns ▸ hwrites', fun v' hv' => ?_⟩
    have hfirst := apart_assign h hreads fun named hnamed ho => (hwrites named hnamed o ho).1 rfl
    obtain ⟨w', hw', h'⟩ := hfirst.of_right hv'
    exact ih h' (hrest w' hw') (hrest' w' hw')

/-- Steps that are independent are so beside the column of a condition that they do not disturb. -/
theorem independent_of_apart {steps : List PlanStep} (h : Apart o x w v)
    (hu : SqlStep.Undisturbed o clauses (steps.filterMap PlanStep.assignment?) w)
    (hi : PlanStep.Independent steps w) : PlanStep.Independent steps v := by
  induction steps generalizing w v with
  | nil => trivial
  | cons s steps ih =>
    match s, hu, hi with
    | .assign a, hu, hi =>
      obtain ⟨hreads, hwrites, hrest⟩ := hu
      intro v' hv'
      have hfirst := apart_assign h hreads fun named hnamed ho => (hwrites named hnamed o ho).1 rfl
      obtain ⟨w', hw', h'⟩ := hfirst.of_right hv'
      exact ih h' (hrest w' hw') (hi w' hw')
    | .sql (.condition o' clauses' _), hu, hi =>
      exact ⟨undisturbed_of_apart h hu hi.1, ih h hu hi.2⟩
    | .sql (.query _), hu, hi => exact ih h hu hi

/-- Steps that fill columns leave a table on which others can work. -/
theorem workable_foldlM_assign (hw : w.table.Workable)
    (hordinary : ∀ a ∈ steps, (PlanStep.assign a).IsOrdinary) (h : steps.foldlM assign w = .ok w') :
    w'.table.Workable := by
  induction steps generalizing w with
  | nil =>
    cases h
    exact hw
  | cons a steps ih =>
    obtain ⟨w₁, h₁, h⟩ := foldlM_cons_eq_ok.1 h
    obtain ⟨named, hnamed, hrun, _⟩ := assign_eq_ok.1 h₁
    have hfirst := Assignment.extends_run hw.columns hnamed hrun
    refine ih ⟨hfirst.columns_ne_nil hw.columns, hfirst.distinct hw.distinct, fun hs => ?_⟩
      (fun b hb => hordinary b (List.mem_cons_of_mem _ hb)) h
    exact (hfirst.written_of_mem hs).elim hw.unstaged fun hs =>
      hordinary a List.mem_cons_self w.table named hnamed _ hs List.mem_cons_self

end Working

/-! ### The same columns in any order -/

namespace Table

variable {t u v : Table} {n o : String} {x : Deferred}

/-- Tables of the same columns, which may stand in another order. -/
structure Rearranged (t u : Table) : Prop where
  first : t.Workable
  second : u.Workable
  height : u.height = t.height
  find? : ∀ n, u.find? n = t.find? n

namespace Rearranged

theorem refl (ht : t.Workable) : Rearranged t t := ⟨ht, ht, rfl, fun _ => rfl⟩

theorem trans (h : Rearranged t u) (k : Rearranged u v) : Rearranged t v :=
  ⟨h.first, k.second, k.height.trans h.height, fun n => (k.find? n).trans (h.find? n)⟩

theorem mem_names (h : Rearranged t u) : n ∈ u.names ↔ n ∈ t.names := mem_names_congr (h.find? n)

theorem perm (h : Rearranged t u) : u.columns.Perm t.columns := by
  have hmem : ∀ {t : Table} {c : String × Deferred}, t.names.Nodup →
      (c ∈ t.columns ↔ t.find? c.1 = some c.2) := by
    intro t c ht
    refine ⟨fun hc => lookup_eq_some ht hc, fun hc => ?_⟩
    rw [Table.find?, List.lookup_eq_some_iff] at hc
    obtain ⟨before, after, hcolumns, _⟩ := hc
    rw [hcolumns]
    simp
  refine (List.perm_ext_iff_of_nodup (List.Nodup.of_map _ h.second.distinct)
    (List.Nodup.of_map _ h.first.distinct)).2
    fun c => ?_
  rw [hmem h.second.distinct, hmem h.first.distinct, h.find? c.1]

end Rearranged

theorem Workable.putIn (ht : t.Workable) (ho : o ≠ SqlStep.stagingColumn) :
    Workable ⟨t.height, Table.putIn o x t.columns⟩ :=
  ht.putEach [(o, x)] (by simpa using ho.symm)

theorem isPlain_of_putIn (ho : IsPlain o) (ht : ∀ n ∈ t.names, IsPlain n) :
    ∀ n ∈ Table.names ⟨t.height, Table.putIn o x t.columns⟩, IsPlain n := by
  intro n hn
  rcases (extends_putEach [(o, x)]).written_of_mem hn with hn | hn
  · exact ht n hn
  · rw [List.map_singleton, List.mem_singleton] at hn
    exact hn ▸ ho

end Table

namespace SqlStep

variable {t u : Table} {c d : Sql.Catalog} {s : SqlStep} {steps : List SqlStep}

/-- A condition does the same to tables of the same columns, and all their names are plain then. -/
theorem paired_run (h : Table.Rearranged t u) (hc : c.IsBare) (hd : d.IsBare)
    (hconfined : s.IsConfined) (hordinary : (PlanStep.sql s).IsOrdinary) :
    Paired (fun r r' => (Table.Rearranged r.1 r'.1 ∧ r.2.IsBare ∧ r'.2.IsBare) ∧
      ∀ n ∈ r'.1.names, Table.IsPlain n) (s.run t c) (s.run u d) := by
  match s, hconfined, hordinary with
  | .condition o clauses text, hconfined, ⟨ho, hplain⟩ =>
    have hnames : (∀ n ∈ u.names, Table.IsPlain n) ↔ ∀ n ∈ t.names, Table.IsPlain n := by
      simp only [h.mem_names]
    refine (paired_condition hconfined h.first h.second hc hd h.height (fun n _ => h.find? n)
      hnames).imp fun r r' hr => ?_
    obtain ⟨x, ht, hu, hbare, hbare', hall⟩ := hr
    refine ⟨⟨⟨ht ▸ h.first.putIn ho, hu ▸ h.second.putIn ho, by rw [ht, hu, h.height],
      fun n => ?_⟩, hbare, hbare'⟩, fun n hn => ?_⟩
    · rw [ht, hu, Table.find?, Table.find?]
      by_cases hn : n = o
      · rw [hn, Table.lookup_putIn_self, Table.lookup_putIn_self]
      · rw [Table.lookup_putIn_of_ne hn, Table.lookup_putIn_of_ne hn]
        exact h.find? n
    · rw [hu] at hn
      exact Table.isPlain_of_putIn hplain hall n hn

/-- Conditions do the same to tables of the same columns. -/
theorem paired_foldlM_run (h : Table.Rearranged t u) (hc : c.IsBare) (hd : d.IsBare)
    (hconfined : ∀ s ∈ steps, s.IsConfined)
    (hordinary : ∀ s ∈ steps, (PlanStep.sql s).IsOrdinary)
    (hplain : ∀ n ∈ u.names, Table.IsPlain n) :
    Paired (fun r r' => Table.Rearranged r.1 r'.1 ∧ ∀ n ∈ r'.1.names, Table.IsPlain n)
      (steps.foldlM (fun r s => s.run r.1 r.2) (t, c))
      (steps.foldlM (fun r s => s.run r.1 r.2) (u, d)) := by
  induction steps generalizing t u c d with
  | nil => exact .ok ⟨h, hplain⟩
  | cons s steps ih =>
    simp only [List.foldlM_cons]
    refine (paired_run h hc hd (hconfined s List.mem_cons_self)
      (hordinary s List.mem_cons_self)).bind fun q q' hq => ?_
    obtain ⟨⟨hq, hbare, hbare'⟩, hnames⟩ := hq
    exact ih hq hbare hbare' (fun s hs => hconfined s (List.mem_cons_of_mem _ hs))
      (fun s hs => hordinary s (List.mem_cons_of_mem _ hs)) hnames

end SqlStep

/-- Two runs with tables of the same columns: either these stand in the same order, or all names are
plain. -/
structure Working.SameColumns (w v : Working) : Prop where
  table : Table.Rearranged w.table v.table
  expanded : v.expanded = w.expanded
  plain : v.table = w.table ∨ ∀ n ∈ v.table.names, Table.IsPlain n

namespace Working.SameColumns

variable {w v u : Working}

theorem refl (hw : w.table.Workable) : SameColumns w w := ⟨.refl hw, rfl, .inl rfl⟩

theorem trans (h : SameColumns w v) (k : SameColumns v u) : SameColumns w u := by
  refine ⟨h.table.trans k.table, k.expanded.trans h.expanded, ?_⟩
  rcases k.plain with hk | hk
  · exact h.plain.imp hk.trans fun hplain => hk ▸ hplain
  · exact .inr hk

end Working.SameColumns

/-! ### A condition moved behind other steps -/

namespace CompiledPlan

variable {steps : List PlanStep} {fills : List Assignment} {conditions : List SqlStep}
  {w w' : Working}
  {c : Sql.Catalog} {o text : String} {clauses : List String}

/-- Steps in SQL, one after another. -/
def concluded (statements : List SqlStep) (c : Sql.Catalog) (w : Working) :
    Except ApplyError Working := do
  let r ← statements.foldlM (fun r s => s.run r.1 r.2) (w.table, c)
  pure ⟨r.1, w.expanded⟩

/-- Steps that fill columns, and behind all of them the steps in SQL. -/
def phases (fills : List Assignment) (statements : List SqlStep) (w : Working) :
    Except ApplyError Working :=
  (fills.foldlM Working.assign w).mapError .ofFrame >>= concluded statements .empty

theorem concluded_cons (s : SqlStep) (statements : List SqlStep) :
    concluded (s :: statements) c w =
      s.run w.table c >>= fun r => concluded statements r.2 ⟨r.1, w.expanded⟩ := by
  simp only [concluded, List.foldlM_cons, bind_assoc]

theorem phases_of_ok (h : fills.foldlM Working.assign w = .ok w') (statements : List SqlStep) :
    phases fills statements w = concluded statements .empty w' := by
  rw [phases, h]
  rfl

theorem phases_of_error {e : FrameError} (h : fills.foldlM Working.assign w = .error e)
    (statements : List SqlStep) : phases fills statements w = .error (.ofFrame e) := by
  rw [phases, h]
  rfl

/-- Conditions over the same columns. -/
theorem paired_concluded {v : Working} {d : Sql.Catalog} (h : Working.SameColumns w v)
    (hplain : ∀ n ∈ v.table.names, Table.IsPlain n) (hc : c.IsBare) (hd : d.IsBare)
    (hconfined : ∀ s ∈ conditions, s.IsConfined)
    (hordinary : ∀ s ∈ conditions, (PlanStep.sql s).IsOrdinary) :
    Paired Working.SameColumns (concluded conditions c w) (concluded conditions d v) := by
  have hrun := SqlStep.paired_foldlM_run h.table hc hd hconfined hordinary hplain
  refine hrun.bind fun q q' hq => ?_
  exact .ok ⟨hq.1, h.expanded, .inr hq.2⟩

/-- **A condition moved behind the steps that fill columns** and do not disturb it: the same columns
come out, or both orders fail. -/
theorem paired_moved (hw : w.table.Workable) (hc : c.IsBare)
    (hconfined : ∀ s ∈ .condition o clauses text :: conditions, s.IsConfined)
    (hordinary : ∀ s ∈ .condition o clauses text :: conditions, (PlanStep.sql s).IsOrdinary)
    (hfills : ∀ a ∈ fills, (PlanStep.assign a).IsOrdinary)
    (hu : SqlStep.Undisturbed o clauses fills w) :
    Paired Working.SameColumns
      ((SqlStep.condition o clauses text).run w.table c >>= fun r =>
        phases fills conditions ⟨r.1, w.expanded⟩)
      (phases fills (.condition o clauses text :: conditions) w) := by
  have hcondition := hconfined _ List.mem_cons_self
  have hconditions := fun s hs => hconfined s (List.mem_cons_of_mem _ hs)
  have hcolumns := fun s hs => hordinary s (List.mem_cons_of_mem _ hs)
  have ho : o ≠ SqlStep.stagingColumn := (hordinary _ List.mem_cons_self).1
  have hoplain : Table.IsPlain o := (hordinary _ List.mem_cons_self).2
  -- the steps that fill columns do the same beside the column of the condition
  have hbeside : ∀ x, Paired (Working.Apart o x) (fills.foldlM Working.assign w)
      (fills.foldlM Working.assign
        ⟨⟨w.table.height, Table.putIn o x w.table.columns⟩, w.expanded⟩) :=
    fun x => Working.apart_foldlM_assign
      ⟨Table.apart_putIn hw.columns, Table.lookup_putIn_self, rfl⟩ hu
  cases hfold : fills.foldlM Working.assign w with
  | error e =>
    rw [phases_of_error hfold]
    cases hrun : (SqlStep.condition o clauses text).run w.table c with
    | error e' => exact .error e' _
    | ok r =>
      obtain ⟨x, hr, _⟩ := (SqlStep.paired_condition hcondition hw hw hc hc rfl (fun _ _ => rfl)
        Iff.rfl).related hrun hrun
      obtain ⟨e', he'⟩ := (hbeside x).error_of_left hfold
      change Paired _ (phases fills conditions ⟨r.1, w.expanded⟩) _
      rw [phases_of_error (hr ▸ he')]
      exact .error _ _
  | ok w' =>
    have hextends := Working.extends_of_undisturbed hw.columns hu hfills hfold
    have hw' := Working.workable_foldlM_assign hw hfills hfold
    -- they have left the table as it was for the condition
    have hspared : ∀ n ∈ SqlStep.lookedAt o clauses, w'.table.find? n = w.table.find? n :=
      fun n hn => hextends.find? n fun hnot => hnot.1 hn
    have hplain : (∀ n ∈ w'.table.names, Table.IsPlain n) ↔
        ∀ n ∈ w.table.names, Table.IsPlain n := by
      refine ⟨fun h n hn => h n (hextends.mem_names hn), fun h n hn => ?_⟩
      exact (hextends.written_of_mem hn).elim (h n) And.right
    rw [phases_of_ok hfold, concluded_cons]
    refine (SqlStep.paired_condition hcondition hw hw' hc Sql.Catalog.isBare_empty hextends.height
      hspared hplain).bind fun r r' hr => ?_
    obtain ⟨x, hr, hr', _, hbare, hnames⟩ := hr
    obtain ⟨v, hv, hapart⟩ := (hbeside x).of_left hfold
    have hv' := Working.workable_foldlM_assign (hw.putIn ho) hfills hv
    rw [phases_of_ok (hr ▸ hv)]
    have hall : ∀ n ∈ r'.1.names, Table.IsPlain n := by
      rw [hr']
      exact Table.isPlain_of_putIn hoplain hnames
    refine paired_concluded ⟨⟨hv', hr' ▸ hw'.putIn ho, by rw [hr', hapart.table.height],
      fun n => ?_⟩, hapart.expanded.symm, .inr hall⟩ hall Sql.Catalog.isBare_empty hbare hconditions
      hcolumns
    rw [hr', Table.find?]
    by_cases hn : n = o
    · rw [hn, Table.lookup_putIn_self, hapart.column]
    · rw [Table.lookup_putIn_of_ne hn, hapart.table.find? n hn]
      rfl

theorem phases_cons (a : Assignment) (statements : List SqlStep) :
    phases (a :: fills) statements w =
      (w.assign a).mapError .ofFrame >>= phases fills statements := by
  rw [phases, List.foldlM_cons]
  cases w.assign a <;> rfl

/-- **The steps of a plan one at a time and in two phases.**  Where steps that fill columns do not
disturb the conditions in front of them, the same columns come out, or both orders fail. -/
theorem paired_inOrder (hi : PlanStep.Independent steps w) (hw : w.table.Workable) (hc : c.IsBare)
    (hconfined : ∀ s, .sql s ∈ steps → s.IsConfined) (hordinary : ∀ s ∈ steps, s.IsOrdinary) :
    Paired (fun r v => Working.SameColumns r.1 v) (steps.foldlM (fun r s => s.run r) (w, c))
      (phases (steps.filterMap PlanStep.assignment?) (steps.filterMap PlanStep.statement?) w) := by
  induction steps generalizing w c with
  | nil => exact .ok (.refl hw)
  | cons s steps ih =>
    have hconfined' := fun s hs => hconfined s (List.mem_cons_of_mem _ hs)
    have hordinary' := fun s hs => hordinary s (List.mem_cons_of_mem _ hs)
    match s, hi, hordinary _ List.mem_cons_self with
    | .assign a, hi, ha =>
      have hright : phases ((PlanStep.assign a :: steps).filterMap PlanStep.assignment?)
          ((PlanStep.assign a :: steps).filterMap PlanStep.statement?) w =
            (w.assign a).mapError .ofFrame >>= phases (steps.filterMap PlanStep.assignment?)
              (steps.filterMap PlanStep.statement?) := phases_cons a _
      rw [hright, List.foldlM_cons, PlanStep.run, bind_assoc]
      refine .bind_same fun w₁ h₁ => ?_
      rw [mapError_eq_ok] at h₁
      have hone : ∀ b ∈ [a], (PlanStep.assign b).IsOrdinary := by simpa using ha
      have hw₁ : w₁.table.Workable :=
        Working.workable_foldlM_assign hw hone (foldlM_cons_eq_ok.2 ⟨w₁, h₁, rfl⟩)
      exact ih (hi w₁ h₁) hw₁ hc hconfined' hordinary'
    | .sql (.condition o clauses text), ⟨hu, hi⟩, ho =>
      have hcondition := hconfined _ List.mem_cons_self
      have hconditions : ∀ s ∈ .condition o clauses text :: steps.filterMap PlanStep.statement?,
          PlanStep.sql s ∈ PlanStep.sql (.condition o clauses text) :: steps := by
        intro s hs
        rcases List.mem_cons.1 hs with rfl | hs
        · exact List.mem_cons_self
        · exact List.mem_cons_of_mem _ (PlanStep.sql_mem hs)
      have hallConfined : ∀ s ∈ .condition o clauses text :: steps.filterMap PlanStep.statement?,
          s.IsConfined := fun s hs => hconfined s (hconditions s hs)
      have hmoved := paired_moved hw hc hallConfined (fun s hs => hordinary _ (hconditions s hs))
        (fun a ha => hordinary' _ (PlanStep.assign_mem ha)) hu
      -- behind the condition the others run on a table with its column
      have hrest : Paired (fun r v => Working.SameColumns r.1 v)
          ((SqlStep.condition o clauses text).run w.table c >>= fun r =>
            steps.foldlM (fun r s => s.run r) (⟨r.1, w.expanded⟩, r.2))
          ((SqlStep.condition o clauses text).run w.table c >>= fun r =>
            phases (steps.filterMap PlanStep.assignment?) (steps.filterMap PlanStep.statement?)
              ⟨r.1, w.expanded⟩) := by
        refine .bind_same fun r hr => ?_
        obtain ⟨x, hx, _, hbare, _, _⟩ := (SqlStep.paired_condition hcondition hw hw hc hc rfl
          (fun _ _ => rfl) Iff.rfl).related hr hr
        refine ih ?_ (hx ▸ hw.putIn ho.1) hbare hconfined' hordinary'
        rw [hx]
        exact Working.independent_of_apart (x := x)
          ⟨Table.apart_putIn hw.columns, Table.lookup_putIn_self, rfl⟩ hu hi
      rw [List.foldlM_cons, PlanStep.run, bind_assoc]
      exact hrest.trans hmoved fun _ _ _ h k => h.trans k

end CompiledPlan

/-! ### The end of a plan -/

/-- Steps for the items of a list in any order. -/
theorem paired_mapM_of_perm {ε α β : Type} {f : α → Except ε β} {xs ys : List α} (h : ys.Perm xs) :
    Paired (fun bs cs => cs.Perm bs) (xs.mapM f) (ys.mapM f) := by
  induction h with
  | nil => exact .ok .nil
  | cons x _ ih =>
    rw [List.mapM_cons, List.mapM_cons]
    exact .bind_same fun b _ => ih.bind fun _ _ h => .ok (h.cons b)
  | swap x y xs =>
    simp only [List.mapM_cons]
    cases hx : f x with
    | error e => cases f y <;> exact .error _ _
    | ok b =>
      cases hy : f y with
      | error e => exact .error _ _
      | ok c =>
        cases xs.mapM f with
        | error e => exact .error _ _
        | ok bs => exact .ok (.swap ..)
  | trans _ _ ih₁ ih₂ => exact ih₂.trans ih₁ fun _ _ _ h₂ h₁ => h₁.trans h₂

namespace Table

variable {t u : Table}

/-- A frame that is computed from the same columns in another order. -/
theorem paired_collect (hheight : u.height = t.height) (hperm : u.columns.Perm t.columns) :
    Paired (fun g g' => g'.height = g.height ∧ g'.columns.Perm g.columns) t.collect u.collect := by
  rw [collect, collect]
  exact (paired_mapM_of_perm hperm).bind fun _ _ h => .ok ⟨hheight, h⟩

/-- The same columns are dropped from tables of the same columns. -/
theorem paired_withoutTemporaries (h : Rearranged t u)
    (hplain : u = t ∨ ∀ n ∈ u.names, IsPlain n) (temporaries : List String) :
    Paired (fun v v' => v'.height = v.height ∧ v'.columns.Perm v.columns)
      (CompiledPlan.withoutTemporaries t temporaries)
      (CompiledPlan.withoutTemporaries u temporaries) := by
  rcases hplain with rfl | hplain
  · cases CompiledPlan.withoutTemporaries u temporaries with
    | error e => exact .error e e
    | ok v => exact .ok ⟨rfl, .refl _⟩
  · have hnames : ∀ n ∈ t.names, IsPlain n := fun n hn => hplain n (h.mem_names.2 hn)
    have hany : u.names.any temporaries.contains = t.names.any temporaries.contains := by
      rw [Bool.eq_iff_iff, List.any_eq_true, List.any_eq_true]
      simp only [h.mem_names]
    have hperm := h.perm
    rw [CompiledPlan.withoutTemporaries, CompiledPlan.withoutTemporaries, hany]
    split
    · rw [select_filter h.first.distinct hnames, select_filter h.second.distinct hplain]
      have hkept := hperm.filter fun c => !temporaries.contains c.1
      have hdistinct : ∀ {t : Table}, t.Workable →
          ((t.columns.filter fun c => !temporaries.contains c.1).map (·.1)).Nodup :=
        fun ht => (List.filter_sublist.map _).nodup ht.distinct
      rw [ofColumns_eq_ok.2 ⟨hdistinct h.first, rfl⟩, ofColumns_eq_ok.2 ⟨hdistinct h.second, rfl⟩]
      exact .ok ⟨by rw [h.height, hkept.isEmpty_eq], hkept⟩
    · exact .ok ⟨h.height, hperm⟩

end Table

/-- Expanded names are told by the columns of a table, in whatever order these stand. -/
theorem Expanded.resolve_congr {e : Expanded} {columns others names : List String}
    (h : ∀ n, n ∈ columns ↔ n ∈ others) : e.resolve columns names = e.resolve others names := by
  have hcontains : columns.contains = others.contains := by
    funext n
    rw [Bool.eq_iff_iff, List.contains_iff_mem, List.contains_iff_mem, h n]
  rw [resolve, resolve, hcontains]

/-- The column of a rule, or what it is expanded to, has no reserved name: such a name has no FOCUS
column in it. -/
theorem Rule.not_mem_reserved {r : Rule} {n : String}
    (h : n = r.output ∨ ∃ field, n = Assignment.fieldColumn r.output field) :
    n ∉ SqlStep.reserved := by
  have hcolumn : r.focusColumn.name.toList.any Char.isUpper = true ∧
      4 ≤ r.focusColumn.name.toList.length := by
    cases r.focusColumn <;> exact ⟨rfl, by decide⟩
  have houtput : r.output.toList.any Char.isUpper = true ∧ 4 ≤ r.output.toList.length := by
    rw [output]
    split
    · simp only [String.toList_append, List.any_append, List.length_append, hcolumn.1, Bool.or_true,
        true_and]
      omega
    · exact hcolumn
  have hname : n.toList.any Char.isUpper = true ∧ 4 ≤ n.toList.length := by
    rcases h with rfl | ⟨field, rfl⟩
    · exact houtput
    · simp only [Assignment.fieldColumn, String.toList_append, List.any_append, List.length_append,
        houtput.1, Bool.true_or, true_and]
      omega
  intro hn
  simp only [SqlStep.reserved, List.mem_cons, List.not_mem_nil, or_false] at hn
  rcases hn with rfl | rfl | rfl
  · exact absurd hname.1 (by decide)
  · exact absurd hname.2 (by decide)
  · exact absurd hname.2 (by decide)

/-- The steps of rules write no reserved name. -/
theorem Rule.isOrdinary_step {r : Rule} {s : PlanStep} (h : r.step .standard = .ok s)
    (hk : r.kind ≠ .sqlQuery) : s.IsOrdinary := by
  cases s with
  | assign a =>
    intro t named hnamed n hn
    refine Rule.not_mem_reserved (r := r) ?_
    rcases Assignment.eq_output_of_mem hnamed hn with hn | ⟨source, ha⟩
    · exact .inl (hn.trans (output_of_step h))
    · rw [ha] at hnamed
      exact .inr (output_of_step h ▸ Assignment.eq_fieldColumn_of_expanded hnamed hn)
  | sql s =>
    obtain ⟨args, _, rfl⟩ := condition_of_step h hk
    refine ⟨fun heq => ?_, r.isPlain_output⟩
    exact Rule.not_mem_reserved (r := r) (.inl rfl) (heq ▸ List.mem_cons_self)

namespace CompiledPlan

variable {plan : Plan} {p : CompiledPlan}

theorem isOrdinary_provider {provider : String} :
    (PlanStep.assign (providerAssignment provider)).IsOrdinary := by
  intro t named hnamed n hn
  cases hnamed
  have hname : n = providerColumn := List.mem_singleton.1 hn
  rw [hname]
  decide

/-- The end of a plan, over the same columns. -/
theorem paired_finished {w v : Working} (h : Working.SameColumns w v) :
    Paired (fun a b => b.table.height = a.table.height ∧ b.table.columns.Perm a.table.columns ∧
      b.targetColumns = a.targetColumns) (p.finished w) (p.finished v) := by
  have htemporaries : v.expanded.resolve v.table.names p.temporaryColumns =
      w.expanded.resolve w.table.names p.temporaryColumns := by
    rw [h.expanded]
    exact Expanded.resolve_congr fun n => h.table.mem_names
  rw [finished, finished, htemporaries]
  refine ((Table.paired_withoutTemporaries h.table h.plain _).mapError _ _).bind fun t u htu => ?_
  refine .ok ⟨htu.1, htu.2, ?_⟩
  rw [h.expanded]
  exact Expanded.resolve_congr fun n => (htu.2.map (·.1)).mem_iff

theorem made_eq (p : CompiledPlan) (f : Frame) : p.made f = (do
    let w ← phases p.assignments p.statements ⟨f.toTable, []⟩
    let a ← p.finished w
    pure (← a.table.collect.mapError .ofFrame, a.targetColumns)) := by
  simp only [made, apply, phases, concluded, finished, assignAll, bind_assoc, pure_bind]

/-- The names of the columns that a plan makes of a frame, and of those that its steps make of it
one at a time. -/
def namesEitherWay (rules : List Rule) (f : Frame) :
    Option (List String) × Option (List String) :=
  let plan : Plan := ⟨"test", rules⟩
  let p := (build .standard plan).toOption
  let steps := (plan.rules.mapM (Rule.step .standard)).toOption
  (p.bind fun p => (p.made f).toOption.map (·.1.names),
    p.bind fun p => steps.bind fun steps => (p.madeInOrder steps f).toOption.map (·.1.names))

end CompiledPlan

end FocusBilling
