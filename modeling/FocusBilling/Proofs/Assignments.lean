import FocusBilling.Proofs.Temporaries

/-!
# What steps leave of a table

A step puts columns over columns of their names, or behind the others, and leaves everything else as
it is.

* `Table.putEach` : columns put one after another over a table;
* `Table.Extends` : a table that is what steps have left of another, all of which write columns of
  some names only;
* `Assignment.run_eq_ok`, `Rule.output_of_step` : a step that fills columns, and the one of a rule;
* `Working.extends_foldlM_assign` : **steps that fill columns leave all others as they are.**
-/

namespace FocusBilling

namespace Table

variable {t u v : Table} {n : String} {d : Deferred}

/-! ### Several columns in place -/

/-- Columns put one after another over the columns of their names, or behind the others. -/
def putEach (columns filled : List (String × Deferred)) : List (String × Deferred) :=
  filled.foldl (fun cs c => putIn c.1 c.2 cs) columns

section Columns

variable {columns filled : List (String × Deferred)}

@[simp] theorem putEach_nil : putEach columns [] = columns := rfl

@[simp] theorem putEach_cons (c : String × Deferred) :
    putEach columns (c :: filled) = putEach (putIn c.1 c.2 columns) filled := rfl

theorem putIn_ne_nil : putIn n d columns ≠ [] := by
  cases columns with
  | nil => simp [putIn]
  | cons c columns =>
    rw [putIn]
    split <;> simp

theorem putEach_ne_nil (h : columns ≠ []) : putEach columns filled ≠ [] := by
  induction filled generalizing columns with
  | nil => exact h
  | cons c filled ih => exact ih putIn_ne_nil

/-- New columns stand behind the others, each once. -/
theorem names_putEach :
    (putEach columns filled).map (·.1) =
      (filled.map (·.1)).foldl CompiledPlan.addOnce (columns.map (·.1)) := by
  induction filled generalizing columns with
  | nil => rfl
  | cons c filled ih =>
    rw [putEach_cons, ih, names_putIn, List.map_cons, List.foldl_cons, CompiledPlan.addOnce]
    simp only [List.contains_iff_mem]

theorem lookup_putEach_of_not_mem (h : n ∉ filled.map (·.1)) :
    (putEach columns filled).lookup n = columns.lookup n := by
  induction filled generalizing columns with
  | nil => rfl
  | cons c filled ih =>
    simp only [List.map_cons, List.mem_cons, not_or] at h
    rw [putEach_cons, ih h.2, lookup_putIn_of_ne h.1]

end Columns

theorem nodup_foldl_addOnce {old new : List String} (h : old.Nodup) :
    (new.foldl CompiledPlan.addOnce old).Nodup := by
  induction new generalizing old with
  | nil => exact h
  | cons n new ih =>
    refine ih ?_
    rw [CompiledPlan.addOnce]
    split
    next => exact h
    next hn =>
      rw [List.contains_iff_mem] at hn
      refine List.nodup_append.2 ⟨h, by simp, ?_⟩
      rintro m hm _ hmem rfl
      exact hn (List.mem_singleton.1 hmem ▸ hm)

theorem exists_foldl_addOnce (old new : List String) :
    ∃ added, new.foldl CompiledPlan.addOnce old = old ++ added := by
  induction new generalizing old with
  | nil => exact ⟨[], (List.append_nil old).symm⟩
  | cons n new ih =>
    obtain ⟨added, h⟩ := ih (CompiledPlan.addOnce old n)
    rw [List.foldl_cons, h, CompiledPlan.addOnce]
    split
    · exact ⟨added, rfl⟩
    · exact ⟨n :: added, by simp⟩

theorem putAll_eq_ok {filled : List (String × Deferred)} (ht : t.columns ≠ []) :
    t.putAll filled = .ok u ↔
      (filled.map (·.1)).Nodup ∧ u = ⟨t.height, putEach t.columns filled⟩ := by
  have hput : ∀ {t : Table}, t.columns ≠ [] →
      filled.foldl (fun t c => t.put c.1 c.2) t = ⟨t.height, putEach t.columns filled⟩ := by
    induction filled with
    | nil => intro t _; rfl
    | cons c filled ih =>
      intro t ht
      have hrows : t.rows = t.height := by simp [rows, ht]
      rw [List.foldl_cons, ih putIn_ne_nil, put, hrows, putEach_cons]
  rw [putAll]
  cases hrepeated : repeated? (filled.map (·.1)) with
  | none =>
    have hnodup := nodup_of_repeated? hrepeated
    simp only [Except.ok.injEq, hnodup, true_and]
    exact (hput ht) ▸ eq_comm
  | some n =>
    have hnot : ¬(filled.map (·.1)).Nodup := fun h => by
      rw [repeated?_eq_none h] at hrepeated
      cases hrepeated
    simp [hnot]

/-! ### What is left of a table -/

/-- A table that is what steps have left of another: it is as high, has the columns of the other in
their places and new ones behind them, and differs only in columns of some names. -/
structure Extends (written : String → Prop) (t u : Table) : Prop where
  height : u.height = t.height
  names : ∃ added, u.names = t.names ++ added
  distinct : t.names.Nodup → u.names.Nodup
  find? : ∀ n, ¬written n → u.find? n = t.find? n

namespace Extends

variable {P Q : String → Prop}

theorem refl (P : String → Prop) (t : Table) : Extends P t t :=
  ⟨rfl, ⟨[], (List.append_nil _).symm⟩, id, fun _ _ => rfl⟩

theorem trans (h : Extends P t u) (k : Extends P u v) : Extends P t v := by
  obtain ⟨first, hfirst⟩ := h.names
  obtain ⟨second, hsecond⟩ := k.names
  exact ⟨k.height.trans h.height, ⟨first ++ second, by rw [hsecond, hfirst, List.append_assoc]⟩,
    fun ht => k.distinct (h.distinct ht), fun n hn => (k.find? n hn).trans (h.find? n hn)⟩

theorem mono (h : Extends P t u) (hPQ : ∀ n, P n → Q n) : Extends Q t u :=
  ⟨h.height, h.names, h.distinct, fun n hn => h.find? n fun hp => hn (hPQ n hp)⟩

theorem columns_ne_nil (h : Extends P t u) (ht : t.columns ≠ []) : u.columns ≠ [] := by
  obtain ⟨added, hnames⟩ := h.names
  intro hu
  have hempty : t.names ++ added = [] := by rw [← hnames, Table.names, hu, List.map_nil]
  exact ht (List.map_eq_nil_iff.1 (List.append_eq_nil_iff.1 hempty).1)

theorem mem_names (h : Extends P t u) (hn : n ∈ t.names) : n ∈ u.names := by
  obtain ⟨added, hnames⟩ := h.names
  rw [hnames]
  exact List.mem_append_left _ hn

/-- What is new has been written. -/
theorem written_of_mem (h : Extends P t u) (hn : n ∈ u.names) : n ∈ t.names ∨ P n := by
  by_contra hneither
  rw [not_or] at hneither
  obtain ⟨c, hc, rfl⟩ := List.mem_map.1 hn
  have hfind := h.find? c.1 hneither.2
  have hnone : t.find? c.1 = none := by
    rw [Table.find?, List.lookup_eq_none_iff]
    intro d hd
    have hne : c.1 ≠ d.1 := fun heq => hneither.1 (List.mem_map.2 ⟨d, hd, heq.symm⟩)
    simpa using hne
  rw [hnone, Table.find?, List.lookup_eq_none_iff] at hfind
  simpa using hfind c hc

end Extends

/-- Columns that are put over a table write their own names. -/
theorem extends_putEach (filled : List (String × Deferred)) :
    Extends (· ∈ filled.map (·.1)) t ⟨t.height, putEach t.columns filled⟩ where
  height := rfl
  names := by
    obtain ⟨added, h⟩ := exists_foldl_addOnce t.names (filled.map (·.1))
    exact ⟨added, names_putEach.trans h⟩
  distinct ht := by
    rw [Table.names, names_putEach]
    exact nodup_foldl_addOnce ht
  find? n hn := lookup_putEach_of_not_mem hn

end Table

/-! ### Steps that fill columns -/

namespace Assignment

variable {t u : Table} {a : Assignment}

/-- The column that an assignment fills, or for which it names those that it fills. -/
def output : Assignment → String
  | column output _ | field output _ _ | expanded output _ | defaultIfMissing output _ _ => output

/-- The record of expanded outputs behind an assignment that fills columns of given names. -/
def recorded (names : List String) (e : Expanded) : Assignment → Expanded
  | expanded output _ => Expanded.addIn output names e
  | _ => e

/-- What a step that fills columns makes of a table. -/
theorem run_eq_ok (ht : t.columns ≠ []) :
    a.run t = .ok u ↔ ∃ named filled, a.columns t = .ok named ∧
      List.Forall₂ (fun v d => d.1 = v.1 ∧ v.2.eval t t.height = .ok d.2) named filled ∧
      (filled.map (·.1)).Nodup ∧ u = ⟨t.height, Table.putEach t.columns filled⟩ := by
  have hrows : t.rows = t.height := by simp [Table.rows, ht]
  have hcolumn : ∀ (v : String × Scalar) (d : String × Deferred),
      (do pure (v.1, ← v.2.eval t t.rows) : Except FrameError _) = .ok d ↔
        d.1 = v.1 ∧ v.2.eval t t.height = .ok d.2 := by
    intro v d
    obtain ⟨n, e⟩ := d
    simp only [bind_eq_ok, pure_eq_ok, hrows, Prod.mk.injEq]
    constructor
    · rintro ⟨_, h, rfl, rfl⟩
      exact ⟨rfl, h⟩
    · rintro ⟨rfl, h⟩
      exact ⟨e, h, rfl, rfl⟩
  simp only [run, bind_eq_ok, mapM_eq_ok, Table.putAll_eq_ok ht, hcolumn, exists_and_left]

/-- The columns that an assignment fills are its output, or what this is expanded to. -/
theorem eq_output_of_mem {named : List (String × Scalar)} {n : String}
    (h : a.columns t = .ok named) (hn : n ∈ named.map (·.1)) :
    n = a.output ∨ ∃ source, a = .expanded a.output source := by
  cases a with
  | expanded output source => exact .inr ⟨source, rfl⟩
  | column output value =>
    simp only [columns, bind_eq_ok, pure_eq_ok] at h
    obtain ⟨values, _, rfl⟩ := h
    simp only [List.map_map, Function.comp_def, List.mem_map] at hn
    obtain ⟨_, _, rfl⟩ := hn
    exact .inl rfl
  | field output source name =>
    simp only [columns, bind_eq_ok, pure_eq_ok] at h
    obtain ⟨sources, _, found, hfound, rfl⟩ := h
    obtain ⟨c, hc, rfl⟩ := List.mem_map.1 hn
    obtain ⟨s, _, fields, hs, hc⟩ := (mem_flatten_of_mapM hfound).1 hc
    simp only [bind_eq_ok, pure_eq_ok] at hs
    obtain ⟨_, _, names, _, rfl⟩ := hs
    obtain ⟨_, _, rfl⟩ := List.mem_map.1 hc
    exact .inl rfl
  | defaultIfMissing output source default =>
    rw [columns] at h
    split at h
    · simp only [bind_eq_ok, pure_eq_ok] at h
      obtain ⟨values, _, rfl⟩ := h
      simp only [List.map_map, Function.comp_def, List.mem_map] at hn
      obtain ⟨_, _, rfl⟩ := hn
      exact .inl rfl
    · cases h
      simp only [List.map_cons, List.map_nil, List.mem_singleton] at hn
      exact .inl hn

/-- A step writes the columns that it fills, and no others. -/
theorem extends_run {named : List (String × Scalar)} (ht : t.columns ≠ [])
    (hnamed : a.columns t = .ok named) (h : a.run t = .ok u) :
    Table.Extends (· ∈ named.map (·.1)) t u := by
  obtain ⟨_, filled, hcolumns, hfilled, _, hu⟩ := (run_eq_ok ht).1 h
  cases hnamed.symm.trans hcolumns
  have hnames : filled.map (·.1) = named.map (·.1) := by
    clear * - hfilled
    induction hfilled with
    | nil => rfl
    | cons hd _ ih => rw [List.map_cons, List.map_cons, hd.1, ih]
  rw [hu, ← hnames]
  exact Table.extends_putEach filled

end Assignment

/-- A rule fills the column of its own output. -/
theorem Rule.output_of_step {r : Rule} {a : Assignment} (h : r.step .standard = .ok (.assign a)) :
    a.output = r.output := by
  cases step_eq_assign.1 h <;> rfl

namespace Working

variable {step : Assignment} {steps : List Assignment} {w w' : Working}

/-- One step fills columns, and records those that its output is expanded to. -/
theorem assign_eq_ok : w.assign step = .ok w' ↔ ∃ named, step.columns w.table = .ok named ∧
    step.run w.table = .ok w'.table ∧
      w'.expanded = step.recorded (named.map (·.1)) w.expanded := by
  have hcolumns : ∀ {u}, step.run w.table = .ok u → ∃ named, step.columns w.table = .ok named := by
    intro u hu
    simp only [Assignment.run, bind_eq_ok] at hu
    obtain ⟨named, hnamed, _⟩ := hu
    exact ⟨named, hnamed⟩
  cases step with
  | expanded output source =>
    simp only [assign, bind_eq_ok, pure_eq_ok, Assignment.recorded]
    constructor
    · rintro ⟨named, hnamed, _, rfl, u, hu, rfl⟩
      exact ⟨named, hnamed, hu, rfl⟩
    · rintro ⟨named, hnamed, hu, he⟩
      exact ⟨named, hnamed, _, rfl, _, hu, by rw [← he]⟩
  | column | field | defaultIfMissing =>
    simp only [assign, bind_eq_ok, pure_eq_ok, Assignment.recorded]
    constructor
    · rintro ⟨_, rfl, u, hu, rfl⟩
      obtain ⟨named, hnamed⟩ := hcolumns hu
      exact ⟨named, hnamed, hu, rfl⟩
    · rintro ⟨_, _, hu, he⟩
      exact ⟨_, rfl, _, hu, by rw [← he]⟩

/-- The columns that some steps write. -/
def Writes (steps : List Assignment) (w : Working) (n : String) : Prop :=
  (∃ a ∈ steps, n = a.output) ∨ ∃ output, Expanding steps w output n

/-- One step leaves all columns as they are that it does not write. -/
theorem extends_assign (ht : w.table.columns ≠ []) (h : w.assign step = .ok w') :
    Table.Extends (Writes [step] w) w.table w'.table := by
  obtain ⟨named, hnamed, hrun, _⟩ := assign_eq_ok.1 h
  refine (Assignment.extends_run ht hnamed hrun).mono fun n hn => ?_
  rcases Assignment.eq_output_of_mem hnamed hn with hn' | ⟨source, hs⟩
  · exact .inl ⟨step, List.mem_singleton_self _, hn'⟩
  · rw [hs] at hnamed ⊢
    exact .inr ⟨_, .here hnamed hn⟩

/-- **Steps that fill columns leave all others as they are.** -/
theorem extends_foldlM_assign (ht : w.table.columns ≠ []) (h : steps.foldlM assign w = .ok w') :
    Table.Extends (Writes steps w) w.table w'.table := by
  induction steps generalizing w with
  | nil =>
    cases h
    exact .refl _ _
  | cons step steps ih =>
    obtain ⟨w₁, h₁, h⟩ := foldlM_cons_eq_ok.1 h
    have hfirst := extends_assign ht h₁
    refine (hfirst.mono ?_).trans ((ih (hfirst.columns_ne_nil ht) h).mono ?_)
    · rintro n (⟨a, ha, hn⟩ | ⟨output, hx⟩)
      · exact .inl ⟨a, List.mem_singleton.1 ha ▸ List.mem_cons_self, hn⟩
      · cases hx with
        | here hc hn => exact .inr ⟨_, .here hc hn⟩
        | later _ hx => cases hx
    · rintro n (⟨a, ha, hn⟩ | ⟨output, hx⟩)
      · exact .inl ⟨a, List.mem_cons_of_mem _ ha, hn⟩
      · exact .inr ⟨output, .later h₁ hx⟩

end Working

end FocusBilling
