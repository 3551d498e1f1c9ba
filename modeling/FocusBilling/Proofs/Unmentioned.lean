import FocusBilling.Proofs.SourceColumns
import FocusBilling.Proofs.PlanOrder

/-!
# Columns that a plan does not mention

A batch may have columns that no rule knows of.  What a plan makes of it is what it makes of the
batch without such a column, and the column as it was.

* `Frame.Adds`, `Table.Adds` : a frame, or a table, with one more column somewhere;
* `Rule.source_of_step` : the columns that a rule reads by expressions;
* `Table.select_eq_ok`, `Table.paired_withoutTemporaries_adds` : a selection, and the drop of
  temporary columns beside one more column;
* `CompiledPlan.paired_undropped` : all steps of a plan beside one more column;
* `CompiledPlan.made_beside` : **a column that a plan does not mention does no harm.**
-/

namespace FocusBilling

/-- A frame with one more column somewhere. -/
def Frame.Adds (x : Column) (f g : Frame) : Prop :=
  g.height = f.height ∧
    ∃ before after, f.columns = before ++ after ∧ g.columns = before ++ x :: after

namespace Table

variable {t u v : Table} {n o : String} {x : Deferred}

/-- A table with one more column somewhere. -/
def Adds (o : String) (x : Deferred) (t u : Table) : Prop :=
  u.height = t.height ∧
    ∃ before after, t.columns = before ++ after ∧ u.columns = before ++ (o, x) :: after

theorem adds_toTable {f g : Frame} {c : Column} (h : f.Adds c g) :
    f.toTable.Adds c.name ⟨c.dtype, .ok c.cells⟩ g.toTable := by
  obtain ⟨hheight, before, after, hf, hg⟩ := h
  exact ⟨hheight, _, _, by rw [Frame.toTable, hf, List.map_append],
    by rw [Frame.toTable, hg, List.map_append, List.map_cons]⟩

/-- A table with one more column differs from it in that one only. -/
theorem Adds.apart (h : Adds o x t u) (ht : t.columns ≠ []) (hu : u.names.Nodup) :
    Apart o t u ∧ u.find? o = some x ∧ o ∉ t.names := by
  obtain ⟨hheight, before, after, hbefore, hafter⟩ := h
  have hnames : u.names = before.map (·.1) ++ o :: after.map (·.1) := by
    rw [names, hafter, List.map_append, List.map_cons]
  have hmem : (o, x) ∈ u.columns := by simp [hafter]
  have ho : o ∉ t.names := by
    rw [hnames, List.nodup_middle, List.nodup_cons, ← List.map_append, ← hbefore] at hu
    exact hu.1
  refine ⟨⟨ht, List.ne_nil_of_mem hmem, hheight, ?_, fun m hm => ?_⟩, lookup_eq_some hu hmem, ho⟩
  · rw [hnames, names, hbefore]
    simp
  · have hbeq : (m == o) = false := by simpa using hm
    rw [find?, find?, hbefore, hafter, List.lookup_append, List.lookup_append, List.lookup_cons,
      hbeq]

/-- The columns of a table are told by their names, in order. -/
theorem columns_eq_of_names {columns : List (String × Deferred)} (ht : t.names.Nodup)
    (hnames : t.names = columns.map (·.1)) (hfind : ∀ c ∈ columns, t.find? c.1 = some c.2) :
    t.columns = columns := by
  refine List.ext_getElem (by simpa [names] using congrArg List.length hnames) fun i hi hi' => ?_
  have hname : t.columns[i].1 = columns[i].1 := by
    have := List.getElem_of_eq hnames (i := i) (by simpa [names] using hi)
    simpa [names] using this
  have hfound : t.find? t.columns[i].1 = some t.columns[i].2 :=
    lookup_eq_some ht (List.getElem_mem hi)
  rw [hname, hfind _ (List.getElem_mem hi')] at hfound
  exact Prod.ext hname (Option.some.inj hfound).symm

/-- A table that differs from another in one column only, which that one has not, has one column
more. -/
theorem Apart.adds (h : Apart o t u) (hx : u.find? o = some x) (ho : o ∉ t.names)
    (ht : t.names.Nodup) (hu : u.names.Nodup) : Adds o x t u := by
  obtain ⟨before, after, hcolumns, -⟩ := List.lookup_eq_some_iff.1 hx
  refine ⟨h.height, before, after, ?_, hcolumns⟩
  have hnames : u.names = before.map (·.1) ++ o :: after.map (·.1) := by
    rw [Table.names, hcolumns, List.map_append, List.map_cons]
  have hothers : o ∉ (before ++ after).map (·.1) := by
    rw [List.map_append]
    rw [hnames, List.nodup_middle, List.nodup_cons] at hu
    exact hu.1
  refine columns_eq_of_names ht ?_ fun c hc => ?_
  · have hsame := h.names
    have hkeep : ∀ ns : List String, o ∉ ns → ns.filter (· != o) = ns := fun ns hns =>
      List.filter_eq_self.2 fun m hm => by simpa using fun heq : m = o => hns (heq ▸ hm)
    rw [hnames, List.filter_append, List.filter_cons_of_neg (by simp), ← List.filter_append,
      ← List.map_append, hkeep _ hothers, hkeep _ ho] at hsame
    exact hsame.symm
  · have hne : c.1 ≠ o := fun heq => hothers (heq ▸ List.mem_map_of_mem hc)
    rw [← h.find? c.1 hne]
    refine lookup_eq_some hu ?_
    rw [hcolumns]
    rcases List.mem_append.1 hc with hc | hc
    · exact List.mem_append_left _ hc
    · exact List.mem_append_right _ (List.mem_cons_of_mem _ hc)

/-! ### The drop beside one more column -/

/-- The columns that a name stands for, as they are. -/
def asked (t : Table) (name : String) : Except FrameError (List (String × Deferred)) := do
  (← t.matching name).mapM fun n => do pure (n, ← t.get n)

/-- A selection puts together what its names stand for. -/
theorem select_eq_ok {names : List String} :
    t.select names = .ok v ↔
      ∃ parts, names.mapM t.asked = .ok parts ∧ ofColumns t.height parts.flatten = .ok v := by
  have hparts : ∀ {founds : List (List String)} {columns},
      founds.flatten.mapM (fun n => (do pure (n, ← t.get n) : Except FrameError _)) = .ok columns ↔
        ∃ parts, founds.mapM (·.mapM fun n => (do pure (n, ← t.get n) : Except FrameError _)) =
          .ok parts ∧ columns = parts.flatten := by
    intro founds
    induction founds with
    | nil =>
      intro columns
      simp [pure, Except.pure]
    | cons found founds ih =>
      intro columns
      simp only [List.flatten_cons, List.mapM_append, List.mapM_cons, bind_eq_ok, pure_eq_ok, ih]
      constructor
      · rintro ⟨first, hfirst, _, ⟨rest, hrest, rfl⟩, rfl⟩
        exact ⟨_, ⟨first, hfirst, rest, hrest, rfl⟩, rfl⟩
      · rintro ⟨_, ⟨first, hfirst, rest, hrest, rfl⟩, rfl⟩
        exact ⟨first, hfirst, _, ⟨rest, hrest, rfl⟩, rfl⟩
  have hasked : ∀ {names : List String} {parts}, names.mapM t.asked = .ok parts ↔
      ∃ founds, names.mapM t.matching = .ok founds ∧
        founds.mapM (·.mapM fun n => (do pure (n, ← t.get n) : Except FrameError _)) =
          .ok parts := by
    intro names
    induction names with
    | nil => simp
    | cons name names ih =>
      intro parts
      simp only [List.mapM_cons, asked, bind_eq_ok, pure_eq_ok, ih]
      constructor
      · rintro ⟨first, ⟨found, hfound, hfirst⟩, rest, ⟨founds, hfounds, hrest⟩, rfl⟩
        refine ⟨_, ⟨found, hfound, founds, hfounds, rfl⟩, ?_⟩
        simp only [List.mapM_cons, bind_eq_ok, pure_eq_ok]
        exact ⟨first, hfirst, rest, hrest, rfl⟩
      · rintro ⟨_, ⟨found, hfound, founds, hfounds, rfl⟩, h⟩
        simp only [List.mapM_cons, bind_eq_ok, pure_eq_ok] at h
        obtain ⟨first, hfirst, rest, hrest, rfl⟩ := h
        exact ⟨first, ⟨found, hfound, hfirst⟩, rest, ⟨founds, hfounds, hrest⟩, rfl⟩
  simp only [select, bind_eq_ok]
  constructor
  · rintro ⟨founds, hfounds, columns, hcolumns, hv⟩
    obtain ⟨parts, hparts, rfl⟩ := hparts.1 hcolumns
    exact ⟨parts, hasked.2 ⟨founds, hfounds, hparts⟩, hv⟩
  · rintro ⟨parts, hall, hv⟩
    obtain ⟨founds, hfounds, hcolumns⟩ := hasked.1 hall
    exact ⟨founds, hfounds, _, hparts.2 ⟨parts, hcolumns, rfl⟩, hv⟩

theorem Apart.asked_eq (h : Apart o t u) (hn : ¬Covers n o) : u.asked n = t.asked n := by
  obtain ⟨hmatching, hothers⟩ := matching_of_not_covers h.names hn
  rw [asked, asked, hmatching]
  cases hfound : t.matching n with
  | error e => rfl
  | ok found =>
    exact mapM_congr fun m hm => by rw [h.get fun heq : m = o => hothers found hfound (heq ▸ hm)]

theorem asked_self (ho : IsPlain o) (hx : u.find? o = some x) : u.asked o = .ok [(o, x)] := by
  simp [asked, matching_of_plain ho, get, hx]

/-- A selection beside one more column, for which none of the other names stands. -/
theorem Apart.paired_select {first second : List String} (h : Apart o t u)
    (hx : u.find? o = some x) (ho : IsPlain o) (hnot : o ∉ t.names)
    (hcovers : ∀ n ∈ first ++ second, ¬Covers n o) (hsome : ∃ n ∈ first ++ second, IsPlain n) :
    Paired (Adds o x) (t.select (first ++ second)) (u.select (first ++ o :: second)) := by
  have hsame : ∀ ns : List String, (∀ n ∈ ns, n ∈ first ++ second) →
      ns.mapM u.asked = ns.mapM t.asked :=
    fun ns hns => mapM_congr fun n hn => h.asked_eq (hcovers n (hns n hn))
  have hfirst := hsame first fun n hn => List.mem_append_left _ hn
  have hsecond := hsame second fun n hn => List.mem_append_right _ hn
  have ht : ∀ {v}, t.select (first ++ second) = .ok v ↔ ∃ p q, first.mapM t.asked = .ok p ∧
      second.mapM t.asked = .ok q ∧ ofColumns t.height (p.flatten ++ q.flatten) = .ok v := by
    intro v
    simp only [select_eq_ok, List.mapM_append, bind_eq_ok, pure_eq_ok]
    constructor
    · rintro ⟨_, ⟨p, hp, q, hq, rfl⟩, hv⟩
      exact ⟨p, q, hp, hq, by rwa [← List.flatten_append]⟩
    · rintro ⟨p, q, hp, hq, hv⟩
      exact ⟨_, ⟨p, hp, q, hq, rfl⟩, by rwa [List.flatten_append]⟩
  have hu : ∀ {v}, u.select (first ++ o :: second) = .ok v ↔ ∃ p q, first.mapM t.asked = .ok p ∧
      second.mapM t.asked = .ok q ∧
        ofColumns t.height (p.flatten ++ (o, x) :: q.flatten) = .ok v := by
    intro v
    simp only [select_eq_ok, List.mapM_append, List.mapM_cons, hfirst, hsecond,
      asked_self ho hx, bind_eq_ok, pure_eq_ok, h.height]
    constructor
    · rintro ⟨_, ⟨p, hp, _, ⟨_, ⟨⟩, q, hq, rfl⟩, rfl⟩, hv⟩
      exact ⟨p, q, hp, hq, by simpa using hv⟩
    · rintro ⟨p, q, hp, hq, hv⟩
      exact ⟨_, ⟨p, hp, _, ⟨_, rfl, q, hq, rfl⟩, rfl⟩, by simpa using hv⟩
  refine .of_forall (fun v hv => ?_) fun v hv => ?_
  · obtain ⟨n, hn, hplain⟩ := hsome
    have hmem : n ∈ v.names := (mem_names_select hv).2 ⟨n, hn, (standsFor_of_plain hplain).2 rfl⟩
    have hov : o ∉ v.names := fun ho => hnot (mem_names_of_mem_select hv ho)
    obtain ⟨p, q, hp, hq, hcolumns⟩ := ht.1 hv
    obtain ⟨hdistinct, rfl⟩ := ofColumns_eq_ok.1 hcolumns
    have hdistinct' : ((p.flatten ++ (o, x) :: q.flatten).map (·.1)).Nodup := by
      rw [List.map_append, List.map_cons, List.nodup_middle, List.nodup_cons, ← List.map_append]
      exact ⟨hov, hdistinct⟩
    refine ⟨_, hu.2 ⟨p, q, hp, hq, ofColumns_eq_ok.2 ⟨hdistinct', rfl⟩⟩, ?_, _, _, rfl, rfl⟩
    -- some column is left, so that no rows are lost
    have hrows : (p.flatten ++ q.flatten).isEmpty = false := by
      cases hempty : p.flatten ++ q.flatten with
      | nil => simp [Table.names, hempty] at hmem
      | cons c columns => rfl
    simp [hrows]
  · obtain ⟨p, q, hp, hq, hcolumns⟩ := hu.1 hv
    obtain ⟨hdistinct, -⟩ := ofColumns_eq_ok.1 hcolumns
    rw [List.map_append, List.map_cons, List.nodup_middle, List.nodup_cons,
      ← List.map_append] at hdistinct
    exact ⟨_, ht.2 ⟨p, q, hp, hq, ofColumns_eq_ok.2 ⟨hdistinct.2, rfl⟩⟩⟩

/-- The drop of temporary columns beside one more column, for which none of the names that are kept
stands. -/
theorem paired_withoutTemporaries_adds {temporaries : List String} (h : Adds o x t u)
    (ht : t.columns ≠ []) (hu : u.names.Nodup) (ho : IsPlain o) (hkept : o ∉ temporaries)
    (hcovers : (∀ n ∈ t.names, n ∉ temporaries) ∨ ∀ n ∈ t.names, ¬Covers n o)
    (hsome : ∃ n ∈ t.names, n ∉ temporaries ∧ IsPlain n) :
    Paired (Adds o x) (CompiledPlan.withoutTemporaries t temporaries)
      (CompiledPlan.withoutTemporaries u temporaries) := by
  obtain ⟨hapart, hx, hnot⟩ := h.apart ht hu
  obtain ⟨hheight, before, after, hbefore, hafter⟩ := h
  have hany : u.names.any temporaries.contains = t.names.any temporaries.contains := by
    simp [names, hbefore, hafter, hkept]
  rw [CompiledPlan.withoutTemporaries, CompiledPlan.withoutTemporaries, hany]
  split
  next hdrops =>
    have hcovers : ∀ n ∈ t.names, ¬Covers n o := hcovers.resolve_left fun hnone => by
      obtain ⟨n, hn, htemporary⟩ := List.any_eq_true.1 hdrops
      exact hnone n hn (List.contains_iff_mem.1 htemporary)
    have hnames : t.names.filter (fun n => !temporaries.contains n) =
        (before.map (·.1)).filter (fun n => !temporaries.contains n) ++
          (after.map (·.1)).filter fun n => !temporaries.contains n := by
      rw [names, hbefore, List.map_append, List.filter_append]
    have hnames' : u.names.filter (fun n => !temporaries.contains n) =
        (before.map (·.1)).filter (fun n => !temporaries.contains n) ++
          o :: (after.map (·.1)).filter fun n => !temporaries.contains n := by
      rw [names, hafter, List.map_append, List.map_cons, List.filter_append,
        List.filter_cons_of_pos (by simpa using hkept)]
    rw [hnames', hnames]
    refine hapart.paired_select hx ho hnot (fun n hn => ?_) ?_
    · rw [← hnames] at hn
      exact hcovers n (List.mem_of_mem_filter hn)
    · obtain ⟨n, hn, hstays, hplain⟩ := hsome
      rw [← hnames]
      exact ⟨n, List.mem_filter.2 ⟨hn, by simpa using hstays⟩, hplain⟩
  next => exact .ok ⟨hheight, before, after, hbefore, hafter⟩

/-- A frame that is computed beside one more column whose cells are at hand. -/
theorem paired_collect_adds {c : Column} (h : Adds c.name ⟨c.dtype, .ok c.cells⟩ t u) :
    Paired (Frame.Adds c) t.collect u.collect := by
  obtain ⟨hheight, before, after, hbefore, hafter⟩ := h
  rw [collect, collect, hbefore, hafter, hheight, List.mapM_append, List.mapM_append,
    List.mapM_cons]
  simp only [bind_assoc, pure_bind]
  refine .bind_same fun first _ => .bind_same fun second _ => ?_
  exact .ok ⟨rfl, first, second, rfl, rfl⟩

end Table

/-! ### What rules read -/

/-- A mapping reads what the text is read from that is mapped. -/
theorem Compile.mem_reads_mappedScalar {args : MapValuesArgs} {text : Scalar} {n : String}
    (h : n ∈ (mappedScalar args text).reads) : n ∈ text.reads := by
  obtain ⟨default, hdefault, hmapped⟩ : ∃ default : Scalar, n ∉ default.reads ∧
      mappedScalar args text = args.valueList.foldr (fun m otherwise => .apply .choose
        [.apply (.compare .eq) [text, textScalar m.key.key], textScalar m.value.key, otherwise])
        (if args.defaultForNull then default
          else .apply .choose [.apply .isNull [text], .noText, default]) := by
    refine ⟨_, ?_, rfl⟩
    cases args.default <;> exact List.not_mem_nil
  rw [hmapped] at h
  generalize args.valueList = values at h
  induction values with
  | nil =>
    rw [List.foldr_nil] at h
    split at h
    · exact absurd h hdefault
    · simp only [Scalar.reads, Scalar.readsAll, List.append_nil, List.mem_append] at h
      rcases h with h | h | h
      · exact h
      · cases h
      · exact absurd h hdefault
  | cons m values ih =>
    simp only [List.foldr_cons, Scalar.reads, Scalar.readsAll, List.append_nil,
      List.mem_append] at h
    rcases h with (h | h) | h | h
    · exact h
    · cases h
    · cases h
    · exact ih h

namespace Rule

variable {r : Rule} {a : Assignment} {n : String}

/-- A rule that fills columns by expressions reads its source column only. -/
theorem source_of_step (h : r.step .standard = .ok (.assign a)) (hn : n ∈ a.sources) :
    r.sourceColumn = some n := by
  cases step_eq_assign.1 h with
  | constant => cases hn
  | mapped _ _ hsource =>
    exact List.mem_singleton.1 (Compile.mem_reads_mappedScalar hn) ▸ hsource
  | renamed _ hsource | assignedUtc _ _ hsource | field _ _ hsource | expanded _ _ hsource
  | defaulted _ _ hsource | cast _ _ hsource | assigned _ _ _ hsource | converted _ _ _ hsource
  | read _ _ _ hsource | inferred _ _ _ hsource => exact List.mem_singleton.1 hn ▸ hsource

end Rule

/-! ### The steps of a plan beside one more column -/

namespace Working

variable {o : String} {x : Deferred} {w v : Working} {steps : List Assignment}

/-- Steps that fill columns do the same beside one more column, which none of them reads or
writes. -/
theorem apart_of_not_writes (h : Apart o x w v) (hreads : ∀ a ∈ steps, ¬a.Reads o)
    (hwrites : ¬Writes steps w o) :
    Paired (Apart o x) (steps.foldlM assign w) (steps.foldlM assign v) := by
  induction steps generalizing w v with
  | nil => exact .ok h
  | cons a steps ih =>
    have hfirst := (apart_assign h (hreads a List.mem_cons_self) fun named hnamed ho => by
      rcases Assignment.eq_output_of_mem hnamed ho with heq | ⟨source, ha⟩
      · exact hwrites (.inl ⟨a, List.mem_cons_self, heq⟩)
      · rw [ha] at hnamed hwrites
        exact hwrites (.inr ⟨_, .here hnamed ho⟩)).found
    simp only [List.foldlM_cons]
    refine hfirst.bind fun w' v' hw' => ih hw'.2.2
      (fun b hb => hreads b (List.mem_cons_of_mem _ hb)) ?_
    rintro (⟨b, hb, heq⟩ | ⟨output, hx⟩)
    · exact hwrites (.inl ⟨b, List.mem_cons_of_mem _ hb, heq⟩)
    · exact hwrites (.inr ⟨output, .later hw'.1 hx⟩)

end Working

namespace SqlStep

variable {o : String} {x : Deferred} {steps : List SqlStep}

/-- Two runs in SQL that differ in one column, which the first one has not. -/
structure Beside (o : String) (x : Deferred) (r s : Table × Sql.Catalog) : Prop where
  table : Table.Apart o r.1 s.1
  column : s.1.find? o = some x
  unknown : o ∉ r.1.names
  distinct₁ : r.1.names.Nodup
  distinct₂ : s.1.names.Nodup
  bare₁ : r.2.IsBare
  bare₂ : s.2.IsBare

/-- A condition beside one more column, which it neither reads nor writes. -/
theorem paired_run_beside {output text : String} {clauses others : List String}
    {r s : Table × Sql.Catalog} (h : Beside o x r s)
    (hs : (condition output clauses text).IsConfinedTo others) (hplain : Table.IsPlain o)
    (hstaging : o ≠ stagingColumn) (ho : o ∉ output :: (others ++ reported clauses)) :
    Paired (fun r' s' => Beside o x r' s' ∧ ∀ n ∈ r.1.names, n ∈ r'.1.names)
      ((condition output clauses text).run r.1 r.2)
      ((condition output clauses text).run s.1 s.2) := by
  have hnames : (∀ n ∈ s.1.names, Table.IsPlain n) ↔ ∀ n ∈ r.1.names, Table.IsPlain n := by
    refine forall_congr' fun n => ?_
    by_cases hn : n = o
    · simp [hn, hplain]
    · rw [h.table.mem_names hn]
  refine (paired_confined hs h.table.columns₁ h.table.columns₂ h.distinct₁ h.distinct₂ h.bare₁
    h.bare₂ h.table.height (fun _ => h.table.mem_names hstaging.symm)
    (fun n hn => h.table.find? n fun heq => ho (heq ▸ hn)) hnames).imp ?_
  rintro ⟨t, c⟩ ⟨u, d⟩ ⟨y, rfl, rfl, hc, hd, -⟩
  have hne : o ∉ [(output, y)].map (·.1) := by
    simpa using fun heq : o = output => ho (heq ▸ List.mem_cons_self)
  have hfirst := Table.extends_putEach (t := r.1) [(output, y)]
  have hsecond := Table.extends_putEach (t := s.1) [(output, y)]
  exact ⟨⟨h.table.putEach hne, (hsecond.find? o hne).trans h.column,
    fun hmem => (hfirst.written_of_mem hmem).elim h.unknown hne, hfirst.distinct h.distinct₁,
    hsecond.distinct h.distinct₂, hc, hd⟩, fun n hn => hfirst.mem_names hn⟩

/-- Conditions beside one more column. -/
theorem paired_foldlM_beside {r s : Table × Sql.Catalog} (h : Beside o x r s)
    (hsteps : ∀ step ∈ steps, ∃ output clauses text others,
      step = condition output clauses text ∧ step.IsConfinedTo others ∧
        o ∉ output :: (others ++ reported clauses))
    (hplain : Table.IsPlain o) (hstaging : o ≠ stagingColumn) :
    Paired (fun r' s' => Beside o x r' s' ∧ ∀ n ∈ r.1.names, n ∈ r'.1.names)
      (steps.foldlM (fun r s => s.run r.1 r.2) r) (steps.foldlM (fun r s => s.run r.1 r.2) s) := by
  induction steps generalizing r s with
  | nil => exact .ok ⟨h, fun _ hn => hn⟩
  | cons step steps ih =>
    obtain ⟨output, clauses, text, others, rfl, hs, ho⟩ := hsteps step List.mem_cons_self
    simp only [List.foldlM_cons]
    refine (paired_run_beside h hs hplain hstaging ho).bind fun r' s' hrs => ?_
    refine (ih hrs.1 fun step hstep => hsteps step (List.mem_cons_of_mem _ hstep)).imp ?_
    exact fun _ _ hlast => ⟨hlast.1, fun n hn => hlast.2 n (hrs.2 n hn)⟩

end SqlStep

/-- Expanded names are told by the columns of a table that some output was expanded to. -/
theorem Expanded.resolve_congr_of_has {e : Expanded} {columns others names : List String}
    (h : ∀ output n, e.Has output n → (n ∈ columns ↔ n ∈ others)) :
    e.resolve columns names = e.resolve others names := by
  rw [resolve, resolve]
  refine List.flatMap_congr fun output _ => ?_
  cases hknown : e.lookup output with
  | none => rfl
  | some known =>
    refine List.filter_congr fun n hn => ?_
    rw [Bool.eq_iff_iff, List.contains_iff_mem, List.contains_iff_mem]
    exact h output n ⟨known, hknown, hn⟩

/-- A plan does not mention a column of a batch. -/
structure Plan.Overlooks (plan : Plan) (p : CompiledPlan) (t : Table) (name : String) : Prop where
  /-- The name stands for the column only. -/
  plain : Table.IsPlain name
  unstaged : name ≠ SqlStep.stagingColumn
  /-- It is neither the name of the provider nor an output, nor what an output is expanded to. -/
  unwritten : ¬plan.Writes p t name
  /-- The source of no rule is the column, or stands for it among others. -/
  unread : ∀ r ∈ plan.rules, ∀ n, r.sourceColumn = some n → ¬Table.Covers n name
  /-- No clause names it. -/
  unreported : ∀ o clauses text, .condition o clauses text ∈ p.statements →
    name ∉ SqlStep.reported clauses
  /-- No other column has a name that stands for it too, unless all columns are kept. -/
  uncovered : ∀ w, p.undropped t = .ok w →
    (∀ n ∈ w.table.names, ¬plan.Drops p t n) ∨ ∀ n ∈ w.table.names, ¬Table.Covers n name

namespace CompiledPlan

variable {plan : Plan} {p : CompiledPlan} {t u : Table} {o : String} {x : Deferred}

/-- **The steps of a plan beside one more column that it does not mention.** -/
theorem paired_undropped (hp : build .standard plan = .ok p)
    (hquery : ∀ r ∈ plan.rules, r.kind ≠ .sqlQuery) (h : Table.Adds o x t u)
    (ht : t.columns ≠ []) (hu : u.names.Nodup) (ho : plan.Overlooks p t o)
    (hconfined : ∀ s ∈ p.statements, ∃ others, o ∉ others ∧ s.IsConfinedTo others) :
    Paired (fun w v => Table.Adds o x w.table v.table ∧ v.expanded = w.expanded ∧
        w.table.columns ≠ [] ∧ v.table.names.Nodup ∧ providerColumn ∈ w.table.names)
      (p.undropped t) (p.undropped u) := by
  obtain ⟨hapart, hx, hnot⟩ := h.apart ht hu
  have hdistinct : t.names.Nodup := by
    obtain ⟨-, before, after, hbefore, hafter⟩ := h
    rw [Table.names, hafter, List.map_append, List.map_cons, List.nodup_middle, List.nodup_cons,
      ← List.map_append, ← hbefore] at hu
    exact hu.2
  obtain ⟨steps, hsteps, hassignments, -⟩ := steps_of_build hp
  have hreads : ∀ a ∈ p.assignments, ¬a.Reads o := by
    rintro a ha ⟨n, hn, hcovers⟩
    rw [hassignments] at ha
    rcases List.mem_cons.1 ha with rfl | ha
    · cases hn
    · obtain ⟨r, hr, hstep⟩ := rule_of_assignment hsteps ha
      exact ho.unread r hr n (Rule.source_of_step hstep hn) hcovers
  have hwrites : ¬Working.Writes p.assignments ⟨t, []⟩ o :=
    fun hw => ho.unwritten (Plan.writes_of_assignments hp hw)
  have hstatements : ∀ s ∈ p.statements, ∃ output clauses text others,
      s = .condition output clauses text ∧ s.IsConfinedTo others ∧
        o ∉ output :: (others ++ SqlStep.reported clauses) := by
    intro s hs
    obtain ⟨output, clauses, d, rfl, r, hr, rfl⟩ := Plan.conditions_of_build hp hquery s hs
    obtain ⟨others, hothers, hconfined⟩ := hconfined _ hs
    refine ⟨_, _, _, others, rfl, hconfined, ?_⟩
    rw [List.mem_cons, List.mem_append, not_or, not_or]
    exact ⟨fun heq => ho.unwritten (.inr ⟨r, hr, .inl heq⟩), hothers, ho.unreported _ _ _ hs⟩
  have hassigned := (Working.apart_of_not_writes (w := ⟨t, []⟩) (v := ⟨u, []⟩)
    ⟨hapart, hx, rfl⟩ hreads hwrites).found
  rw [undropped, undropped, assignAll, assignAll]
  refine (hassigned.mapError _ _).bind fun w v hwv => ?_
  obtain ⟨hw, hv, hwv⟩ := hwv
  have hleft := Working.extends_foldlM_assign ht hw
  have hright := Working.extends_foldlM_assign hapart.columns₂ hv
  have hbeside : SqlStep.Beside o x (w.table, .empty) (v.table, .empty) :=
    ⟨hwv.table, hwv.column, fun hmem => (hleft.written_of_mem hmem).elim hnot hwrites,
      hleft.distinct hdistinct, hright.distinct hu, Sql.Catalog.isBare_empty,
      Sql.Catalog.isBare_empty⟩
  refine (SqlStep.paired_foldlM_beside hbeside hstatements ho.plain ho.unstaged).bind
    fun r s hrs => .ok ⟨?_, hwv.expanded, hrs.1.table.columns₁, hrs.1.distinct₂, ?_⟩
  · exact hrs.1.table.adds hrs.1.column hrs.1.unknown hrs.1.distinct₁ hrs.1.distinct₂
  · exact hrs.2 _ (Plan.provider_mem_assignAll hp ht hw)

/-- A plan beside one more column that it does not mention. -/
theorem paired_apply (hp : build .standard plan = .ok p)
    (hquery : ∀ r ∈ plan.rules, r.kind ≠ .sqlQuery) (h : Table.Adds o x t u)
    (ht : t.columns ≠ []) (hu : u.names.Nodup) (ho : plan.Overlooks p t o)
    (hconfined : ∀ s ∈ p.statements, ∃ others, o ∉ others ∧ s.IsConfinedTo others) :
    Paired (fun a b => Table.Adds o x a.table b.table ∧ b.targetColumns = a.targetColumns)
      (p.apply t) (p.apply u) := by
  have happly : ∀ t, p.apply t = p.undropped t >>= p.finished := fun t => by
    simp only [apply, undropped, finished, bind_assoc, pure_bind]
  rw [happly, happly]
  refine (paired_undropped hp hquery h ht hu ho hconfined).found.bind fun w v hwv => ?_
  obtain ⟨hw, -, hadds, hexpanded, hcolumns, hdistinct, hprovider⟩ := hwv
  -- the column is none of those that some output was expanded to
  have hhas : ∀ output, ¬w.expanded.Has output o := by
    intro output hhas
    have hx := (Plan.has_undropped hw).1 hhas
    obtain ⟨r, hr, -, rfl⟩ := Plan.expands_of_expanding hp hx
    exact ho.unwritten (.inr ⟨r, hr, .inr hx⟩)
  have hnames : ∀ {t u : Table}, Table.Adds o x t u → ∀ output n, w.expanded.Has output n →
      (n ∈ u.names ↔ n ∈ t.names) := by
    rintro t u ⟨-, before, after, hbefore, hafter⟩ output n hn
    have hne : n ≠ o := fun heq => hhas output (heq ▸ hn)
    simp [Table.names, hbefore, hafter, hne]
  have htemporaries : v.expanded.resolve v.table.names p.temporaryColumns =
      w.expanded.resolve w.table.names p.temporaryColumns := by
    rw [hexpanded]
    exact Expanded.resolve_congr_of_has (hnames hadds)
  rw [finished, finished, htemporaries]
  refine ((Table.paired_withoutTemporaries_adds hadds hcolumns hdistinct ho.plain ?_ ?_
    ⟨_, hprovider, ?_, by decide⟩).mapError _ _).bind fun t' u' hadds' => .ok ⟨hadds', ?_⟩
  · intro hmem
    rw [Expanded.mem_resolve] at hmem
    obtain ⟨output, houtput, ⟨hx, -⟩ | ⟨-, rfl⟩⟩ := hmem
    · exact hhas output hx
    · obtain ⟨r, hr, -, rfl⟩ := (temporaryColumns_mem_iff hp).1 houtput
      exact ho.unwritten (.inr ⟨r, hr, .inl rfl⟩)
  · refine (ho.uncovered w hw).imp_left fun hnone n hn hmem => hnone n hn ?_
    exact (Plan.drops_iff_mem_resolve hp hw hn).2 hmem
  · exact fun hmem => Plan.not_drops_provider ((Plan.drops_iff_mem_resolve hp hw hprovider).2 hmem)
  · rw [hexpanded]
    exact Expanded.resolve_congr_of_has (hnames hadds')

end CompiledPlan

end FocusBilling
