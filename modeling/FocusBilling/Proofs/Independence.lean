import FocusBilling.Proofs.Stacking
import FocusBilling.Proofs.Sql.Columns

/-!
# Steps that do not meet

Two runs side by side, on tables that differ in one column only.  A step that fills columns does the
same in both, if it neither reads nor writes that column.  A condition does the same in both, if
they agree on its own column and on those that its clauses report.

* `Paired` : two results, both of which are there or neither;
* `Assignment.Reads` : the columns that a step which fills columns reads;
* `Working.Apart` : two runs that differ in one column;
* `Working.apart_foldlM_assign` : **steps that fill columns do the same beside one more column.**
-/

namespace FocusBilling

/-! ### Two runs side by side -/

/-- Two results: either both steps fail, or both are carried out and their results are related. -/
inductive Paired {ε δ α β : Type} (R : α → β → Prop) : Except ε α → Except δ β → Prop
  | error (e d) : Paired R (.error e) (.error d)
  | ok {a b} : R a b → Paired R (.ok a) (.ok b)

namespace Paired

variable {ε δ α β α' β' : Type} {R : α → β → Prop} {S : α' → β' → Prop} {x : Except ε α}
  {y : Except δ β}

theorem bind {f : α → Except ε α'} {g : β → Except δ β'} (h : Paired R x y)
    (hfg : ∀ a b, R a b → Paired S (f a) (g b)) : Paired S (x >>= f) (y >>= g) := by
  cases h with
  | error e d => exact .error e d
  | ok hr => exact hfg _ _ hr

/-- A step that does the same in both runs. -/
theorem bind_same {z : Except ε α} {f : α → Except ε α'} {g : α → Except ε β'}
    (hfg : ∀ a, z = .ok a → Paired S (f a) (g a)) : Paired S (z >>= f) (z >>= g) := by
  cases z with
  | error e => exact .error e e
  | ok a => exact hfg a rfl

theorem mapError {ε' δ' : Type} (h : Paired R x y) (f : ε → ε') (g : δ → δ') :
    Paired R (x.mapError f) (y.mapError g) := by
  cases h with
  | error e d => exact .error _ _
  | ok hr => exact .ok hr

theorem imp {Q : α → β → Prop} (h : Paired R x y) (hRQ : ∀ a b, R a b → Q a b) : Paired Q x y := by
  cases h with
  | error e d => exact .error e d
  | ok hr => exact .ok (hRQ _ _ hr)

/-- The results are related with what the two are. -/
theorem found (h : Paired R x y) : Paired (fun a b => x = .ok a ∧ y = .ok b ∧ R a b) x y := by
  cases h with
  | error e d => exact .error e d
  | ok hr => exact .ok ⟨rfl, rfl, hr⟩

theorem of_right {b : β} (h : Paired R x y) (hb : y = .ok b) : ∃ a, x = .ok a ∧ R a b := by
  subst hb
  obtain _ | hr := h
  exact ⟨_, rfl, hr⟩

theorem of_left {a : α} (h : Paired R x y) (ha : x = .ok a) : ∃ b, y = .ok b ∧ R a b := by
  subst ha
  obtain _ | hr := h
  exact ⟨_, rfl, hr⟩

theorem error_of_left {e : ε} (h : Paired R x y) (he : x = .error e) : ∃ d, y = .error d := by
  subst he
  obtain ⟨_, d⟩ | _ := h
  exact ⟨d, rfl⟩

theorem exists_iff (h : Paired R x y) : (∃ a, x = .ok a) ↔ ∃ b, y = .ok b := by
  cases h <;> simp

theorem related {a : α} {b : β} (h : Paired R x y) (ha : x = .ok a) (hb : y = .ok b) : R a b := by
  subst ha hb
  obtain _ | hr := h
  exact hr

theorem of_forall (hx : ∀ a, x = .ok a → ∃ b, y = .ok b ∧ R a b)
    (hy : ∀ b, y = .ok b → ∃ a, x = .ok a) : Paired R x y := by
  cases x with
  | ok a =>
    obtain ⟨b, rfl, hr⟩ := hx a rfl
    exact .ok hr
  | error e =>
    cases y with
    | error d => exact .error e d
    | ok b =>
      obtain ⟨a, ha⟩ := hy b rfl
      cases ha

/-- Two results are paired that are paired with a third one. -/
theorem trans {ε' γ : Type} {T : β → γ → Prop} {U : α → γ → Prop} {z : Except ε' γ}
    (h : Paired R x y) (k : Paired T y z) (hu : ∀ a b c, R a b → T b c → U a c) : Paired U x z := by
  cases h with
  | error e d =>
    obtain ⟨_, d'⟩ | _ := k
    exact .error e d'
  | ok hr =>
    obtain _ | ht := k
    exact .ok (hu _ _ _ hr ht)

end Paired

/-! ### The columns that a step reads -/

namespace Table

variable {t u : Table} {n m o : String}

/-- A name covers a column if it is its name, or if it stands for it among others. -/
def Covers (name column : String) : Prop :=
  name = column ∨ ∃ found, matchingNames [column] name = .ok found ∧ column ∈ found

theorem not_covers_of_plain (hn : IsPlain n) (hne : n ≠ o) : ¬Covers n o := by
  rintro (heq | ⟨found, hfound, ho⟩)
  · exact hne heq
  · simp only [matchingNames, hn.1, hn.2, if_false, Bool.false_eq_true, Except.ok.injEq] at hfound
    exact hne (List.mem_singleton.1 (hfound ▸ ho)).symm

/-- A name that does not cover a column stands for other columns only, whether or not that one is
there. -/
theorem matching_of_not_covers
    (hnames : u.names.filter (· != o) = t.names.filter (· != o)) (hn : ¬Covers n o) :
    u.matching n = t.matching n ∧ ∀ found, t.matching n = .ok found → o ∉ found := by
  rw [Covers, not_or] at hn
  obtain ⟨hne, hnot⟩ := hn
  rw [matching, matching, matchingNames, matchingNames]
  rw [matchingNames] at hnot
  by_cases hstar : n = "*"
  · simp [hstar] at hnot
  simp only [hstar, if_false] at hnot ⊢
  split
  next hpattern =>
    simp only [hpattern, if_true] at hnot
    cases hr : Regex.read? n with
    | none =>
      refine ⟨rfl, ?_⟩
      rintro _ ⟨⟩
    | some r =>
      have hfinds : r.findsIn o = false := by
        simp only [hr, Except.ok.injEq, exists_eq_left', List.mem_filter, List.mem_singleton,
          true_and] at hnot
        simpa using hnot
      have hfilter : ∀ names : List String,
          names.filter r.findsIn = (names.filter (· != o)).filter r.findsIn := by
        intro names
        rw [List.filter_filter]
        refine List.filter_congr fun m _ => ?_
        by_cases hm : m = o
        · simp [hm, hfinds]
        · simp [hm]
      have hsame : u.names.filter r.findsIn = t.names.filter r.findsIn := by
        rw [hfilter u.names, hfilter t.names, hnames]
      refine ⟨congrArg Except.ok hsame, ?_⟩
      rintro _ ⟨⟩ ho
      rw [(List.mem_filter.1 ho).2] at hfinds
      cases hfinds
  next =>
    refine ⟨rfl, ?_⟩
    rintro _ ⟨⟩ ho
    exact hne (List.mem_singleton.1 ho).symm

/-- Two tables that differ in one column only. -/
structure Apart (o : String) (t u : Table) : Prop where
  columns₁ : t.columns ≠ []
  columns₂ : u.columns ≠ []
  height : u.height = t.height
  names : u.names.filter (· != o) = t.names.filter (· != o)
  find? : ∀ n, n ≠ o → u.find? n = t.find? n

theorem Apart.get (h : Apart o t u) (hn : n ≠ o) : u.get n = t.get n := by
  rw [Table.get, Table.get, h.find? n hn]

theorem Apart.mem_names (h : Apart o t u) (hn : n ≠ o) : n ∈ u.names ↔ n ∈ t.names := by
  have hmem : ∀ names : List String, n ∈ names ↔ n ∈ names.filter (· != o) := by
    simp [hn]
  rw [hmem, h.names, ← hmem]

end Table

namespace Scalar

variable {t u : Table} {rows : Nat}

mutual

/-- An expression comes to the same over tables that agree on what it reads. -/
theorem eval_congr : (e : Scalar) → (∀ n ∈ e.reads, u.get n = t.get n) →
    e.eval u rows = e.eval t rows
  | column n, h => h n (List.mem_singleton_self n)
  | constant .., _ => rfl
  | apply op args, h => by rw [eval, eval, evalAll_congr args h]
  | inferred p arg, h => by rw [eval, eval, eval_congr arg h]

theorem evalAll_congr : (es : List Scalar) → (∀ n ∈ readsAll es, u.get n = t.get n) →
    evalAll u rows es = evalAll t rows es
  | [], _ => rfl
  | e :: es, h => by
    rw [evalAll, evalAll, eval_congr e fun n hn => h n (List.mem_append_left _ hn),
      evalAll_congr es fun n hn => h n (List.mem_append_right _ hn)]

end

mutual

/-- An expression that reads one column in place of another. -/
theorem mem_reads_reading {old new n : String} : (e : Scalar) → n ∈ (e.reading old new).reads →
    n = new ∨ n ∈ e.reads
  | column name, h => by
    rw [reading, reads, List.mem_singleton] at h
    split at h
    · exact .inl h
    · exact .inr (List.mem_singleton.2 h)
  | constant .., h => nomatch h
  | apply _ args, h => mem_readsAll_readingAll args h
  | inferred _ arg, h => mem_reads_reading arg h

theorem mem_readsAll_readingAll {old new n : String} : (es : List Scalar) →
    n ∈ readsAll (readingAll old new es) → n = new ∨ n ∈ readsAll es
  | e :: es, h => by
    rcases List.mem_append.1 h with h | h
    · exact (mem_reads_reading e h).imp_right (List.mem_append_left _)
    · exact (mem_readsAll_readingAll es h).imp_right (List.mem_append_right _)

end

/-- An expression that asks by plain names stands for itself only. -/
theorem expand_of_plain {e : Scalar} (h : ∀ n ∈ e.reads, Table.IsPlain n) :
    e.expand t = .ok [e] := by
  have hnone : e.reads.find? (fun n => n = "*" || Table.isPattern n) = none :=
    List.find?_eq_none.2 fun n hn => by simp [(h n hn).1, (h n hn).2]
  rw [expand, hnone]

/-- What an expression stands for beside one column that it does not read. -/
theorem expand_of_apart {o : String} {e : Scalar} (h : Table.Apart o t u)
    (he : ∀ n ∈ e.reads, ¬Table.Covers n o) :
    e.expand u = e.expand t ∧ ∀ values, e.expand t = .ok values → ∀ v ∈ values, o ∉ v.reads := by
  have hnot : o ∉ e.reads := fun ho => he o ho (.inl rfl)
  rw [expand, expand]
  cases hpattern : e.reads.find? fun n => n = "*" || Table.isPattern n with
  | none =>
    refine ⟨rfl, ?_⟩
    rintro _ ⟨⟩ v hv
    rwa [List.mem_singleton.1 hv]
  | some n =>
    obtain ⟨hmatching, hfound⟩ :=
      Table.matching_of_not_covers h.names (he n (List.mem_of_find?_eq_some hpattern))
    simp only [hmatching, true_and]
    intro values hvalues v hv hov
    obtain ⟨found, hm, rfl⟩ := map_eq_ok.1 hvalues
    obtain ⟨m, hmem, rfl⟩ := List.mem_map.1 hv
    rcases mem_reads_reading e hov with rfl | hov
    · exact hfound found hm hmem
    · exact hnot hov

end Scalar

namespace Assignment

variable {t u : Table} {a : Assignment} {o : String} {named : List (String × Scalar)}

/-- The names by which a step asks for columns. -/
def sources : Assignment → List String
  | column _ value => value.reads
  | field _ source _ | expanded _ source | defaultIfMissing _ source _ => [source]

/-- A step reads a column, by its name or by one that stands for it among others. -/
def Reads (a : Assignment) (column : String) : Prop := ∃ n ∈ a.sources, Table.Covers n column

theorem structFields_of_apart (h : Table.Apart o t u) {n : String} (hn : n ≠ o) :
    structFields u n = structFields t n := by
  rw [structFields, structFields, h.get hn]

theorem named_of_apart {e : Scalar} {output : String} (h : Table.Apart o t u)
    (he : ∀ n ∈ e.reads, ¬Table.Covers n o) :
    (do pure ((← e.expand u).map fun v => (output, v)) : Except FrameError _) =
      (do pure ((← e.expand t).map fun v => (output, v))) ∧
    ∀ named, (do pure ((← e.expand t).map fun v => (output, v)) : Except FrameError _) = .ok named →
      ∀ v ∈ named, o ∉ v.2.reads := by
  obtain ⟨hexpand, hreads⟩ := Scalar.expand_of_apart h he
  refine ⟨by rw [hexpand], fun named hnamed v hv => ?_⟩
  simp only [bind_eq_ok, pure_eq_ok] at hnamed
  obtain ⟨values, hvalues, rfl⟩ := hnamed
  obtain ⟨w, hw, rfl⟩ := List.mem_map.1 hv
  exact hreads values hvalues w hw

/-- What is gathered from the columns that a name stands for, each of which is read alone. -/
theorem gathered_of_apart {F G : String → Except FrameError (List (String × Scalar))}
    {source : String} (h : Table.Apart o t u) (hsource : ¬Table.Covers source o)
    (hFG : ∀ s, s ≠ o → F s = G s)
    (hreads : ∀ s named, G s = .ok named → ∀ v ∈ named, v.2.reads = [s]) :
    (do
      let found ← (← u.matching source).mapM F
      pure found.flatten) =
    (do
      let found ← (← t.matching source).mapM G
      pure found.flatten) ∧
    ∀ named, (do
      let found ← (← t.matching source).mapM G
      pure found.flatten) = .ok named → ∀ v ∈ named, o ∉ v.2.reads := by
  obtain ⟨hmatching, hothers⟩ := Table.matching_of_not_covers h.names hsource
  rw [hmatching]
  cases hfound : t.matching source with
  | error e => exact ⟨rfl, nofun⟩
  | ok found =>
    have ho := hothers found hfound
    have hsame : found.mapM F = found.mapM G := mapM_congr fun s hs => hFG s fun h => ho (h ▸ hs)
    refine ⟨by simp only [bind, Except.bind, hsame], fun named hnamed v hv hov => ?_⟩
    simp only [bind_eq_ok, pure_eq_ok] at hnamed
    obtain ⟨_, ⟨⟩, lists, hlists, rfl⟩ := hnamed
    obtain ⟨s, hs, named, hnamed, hv⟩ := (mem_flatten_of_mapM hlists).1 hv
    rw [hreads s named hnamed v hv, List.mem_singleton] at hov
    exact ho (hov ▸ hs)

/-- A step fills the same columns by the same expressions beside one column that it does not read,
and these do not read it either. -/
theorem columns_of_apart (h : Table.Apart o t u) (ha : ¬a.Reads o) :
    a.columns u = a.columns t ∧
      ∀ named, a.columns t = .ok named → ∀ v ∈ named, o ∉ v.2.reads := by
  have hsources : ∀ n ∈ a.sources, ¬Table.Covers n o := fun n hn hc => ha ⟨n, hn, hc⟩
  cases a with
  | column output value => exact named_of_apart h hsources
  | field output source name =>
    refine gathered_of_apart h (hsources source (List.mem_singleton_self _)) (fun s hs => ?_)
      fun s named hnamed v hv => ?_
    · rw [structFields_of_apart h hs]
    · simp only [bind_eq_ok, pure_eq_ok] at hnamed
      obtain ⟨_, _, names, _, rfl⟩ := hnamed
      obtain ⟨_, _, rfl⟩ := List.mem_map.1 hv
      rfl
  | expanded output source =>
    refine gathered_of_apart h (hsources source (List.mem_singleton_self _)) (fun s hs => ?_)
      fun s named hnamed v hv => ?_
    · rw [structFields_of_apart h hs]
    · simp only [bind_eq_ok, pure_eq_ok] at hnamed
      obtain ⟨_, _, rfl⟩ := hnamed
      obtain ⟨_, _, rfl⟩ := List.mem_map.1 hv
      rfl
  | defaultIfMissing output source default =>
    have hne : source ≠ o := fun heq => hsources source (List.mem_singleton_self _) (.inl heq)
    have hhas : u.hasColumn source = t.hasColumn source := by
      rw [Bool.eq_iff_iff, Table.hasColumn, Table.hasColumn, List.contains_iff_mem,
        List.contains_iff_mem, h.mem_names hne]
    rw [columns, columns, hhas]
    split
    · exact named_of_apart h hsources
    · refine ⟨rfl, ?_⟩
      rintro _ ⟨⟩ v hv
      rw [List.mem_singleton.1 hv]
      exact List.not_mem_nil

end Assignment

/-! ### Steps beside one more column -/

namespace Table

variable {t u : Table} {n o : String} {x : Deferred}
  {columns others filled : List (String × Deferred)}

theorem lookup_putEach_congr (h : columns.lookup n = others.lookup n) :
    (putEach columns filled).lookup n = (putEach others filled).lookup n := by
  induction filled generalizing columns others with
  | nil => exact h
  | cons c filled ih =>
    refine ih ?_
    by_cases hn : n = c.1
    · rw [hn, lookup_putIn_self, lookup_putIn_self]
    · rw [lookup_putIn_of_ne hn, lookup_putIn_of_ne hn, h]

theorem filter_foldl_addOnce {old new : List String} (hnew : o ∉ new) :
    (new.foldl CompiledPlan.addOnce old).filter (· != o) =
      new.foldl CompiledPlan.addOnce (old.filter (· != o)) := by
  induction new generalizing old with
  | nil => rfl
  | cons n new ih =>
    simp only [List.mem_cons, not_or] at hnew
    have hn : n ≠ o := Ne.symm hnew.1
    have hadd : (CompiledPlan.addOnce old n).filter (· != o) =
        CompiledPlan.addOnce (old.filter (· != o)) n := by
      by_cases hmem : n ∈ old
      · simp [CompiledPlan.addOnce, hmem, hn]
      · simp [CompiledPlan.addOnce, hmem, hn]
    rw [List.foldl_cons, List.foldl_cons, ih hnew.2, hadd]

/-- Columns put over tables that differ in one column, which is not among them. -/
theorem Apart.putEach (h : Apart o t u) (hfilled : o ∉ filled.map (·.1)) :
    Apart o ⟨t.height, putEach t.columns filled⟩ ⟨u.height, putEach u.columns filled⟩ where
  columns₁ := putEach_ne_nil h.columns₁
  columns₂ := putEach_ne_nil h.columns₂
  height := h.height
  names := by
    rw [Table.names, Table.names, names_putEach, names_putEach, filter_foldl_addOnce hfilled,
      filter_foldl_addOnce hfilled]
    exact congrArg (List.foldl CompiledPlan.addOnce · _) h.names
  find? n hn := lookup_putEach_congr (h.find? n hn)

/-- A table beside itself with one more column, or one in place of another. -/
theorem apart_putIn (ht : t.columns ≠ []) : Apart o t ⟨t.height, putIn o x t.columns⟩ where
  columns₁ := ht
  columns₂ := putIn_ne_nil
  height := rfl
  names := by
    rw [Table.names, names_putIn]
    split
    · rfl
    · simp [Table.names]
  find? n hn := lookup_putIn_of_ne hn

/-- Columns put over two tables: both can be, or neither. -/
theorem paired_putAll (ht : t.columns ≠ []) (hu : u.columns ≠ []) :
    Paired (fun t' u' => t' = ⟨t.height, putEach t.columns filled⟩ ∧
      u' = ⟨u.height, putEach u.columns filled⟩) (t.putAll filled) (u.putAll filled) := by
  by_cases hnodup : (filled.map (·.1)).Nodup
  · rw [(putAll_eq_ok ht).2 ⟨hnodup, rfl⟩, (putAll_eq_ok hu).2 ⟨hnodup, rfl⟩]
    exact .ok ⟨rfl, rfl⟩
  · have hfails : ∀ {t : Table}, t.columns ≠ [] → ∃ e, t.putAll filled = .error e := by
      intro t ht
      cases h : t.putAll filled with
      | error e => exact ⟨e, rfl⟩
      | ok t' => exact absurd ((putAll_eq_ok ht).1 h).1 hnodup
    obtain ⟨e, he⟩ := hfails ht
    obtain ⟨d, hd⟩ := hfails hu
    rw [he, hd]
    exact .error e d

end Table

/-- **A step that fills columns does the same beside one more column**, which it neither reads nor
writes. -/
theorem Assignment.apart_run {o : String} {x : Deferred} {t u : Table} {a : Assignment}
    (h : Table.Apart o t u) (hx : u.find? o = some x) (ha : ¬a.Reads o)
    (hwrites : ∀ named, a.columns t = .ok named → o ∉ named.map (·.1)) :
    Paired (fun t' u' => Table.Apart o t' u' ∧ u'.find? o = some x) (a.run t) (a.run u) := by
  obtain ⟨hcolumns, hreads⟩ := columns_of_apart h ha
  have hrows : ∀ {t : Table}, t.columns ≠ [] → t.rows = t.height := fun ht => by
    simp [Table.rows, ht]
  rw [run, run, hcolumns, hrows h.columns₁, hrows h.columns₂, h.height]
  refine .bind_same fun named hnamed => ?_
  have hsame : ∀ v ∈ named, v.2.eval u t.height = v.2.eval t t.height := fun v hv =>
    Scalar.eval_congr v.2 fun n hn => h.get fun heq => hreads named hnamed v hv (heq ▸ hn)
  have hfilled : (named.mapM fun v => do pure (v.1, ← v.2.eval u t.height)) =
      (named.mapM fun v => do pure (v.1, ← v.2.eval t t.height)) :=
    mapM_congr fun v hv => by rw [hsame v hv]
  rw [hfilled]
  refine .bind_same fun filled hfilled => ?_
  have hnames : filled.map (·.1) = named.map (·.1) := map_eq_of_mapM hfilled fun v c hc => by
    simp only [bind_eq_ok, pure_eq_ok] at hc
    obtain ⟨_, _, rfl⟩ := hc
    rfl
  have hnot : o ∉ filled.map (·.1) := hnames ▸ hwrites named hnamed
  refine (Table.paired_putAll h.columns₁ h.columns₂).imp ?_
  rintro _ _ ⟨rfl, rfl⟩
  exact ⟨h.putEach hnot, (Table.lookup_putEach_of_not_mem hnot).trans hx⟩

/-- Two runs that differ in one column, and what that is in the second. -/
structure Working.Apart (o : String) (x : Deferred) (w v : Working) : Prop where
  table : Table.Apart o w.table v.table
  column : v.table.find? o = some x
  expanded : v.expanded = w.expanded

namespace Working

variable {o : String} {x : Deferred} {w v : Working} {a : Assignment}

theorem apart_assign (h : Apart o x w v) (ha : ¬a.Reads o)
    (hwrites : ∀ named, a.columns w.table = .ok named → o ∉ named.map (·.1)) :
    Paired (Apart o x) (w.assign a) (v.assign a) := by
  have hcolumns := (Assignment.columns_of_apart h.table ha).1
  have hrun := Assignment.apart_run h.table h.column ha hwrites
  cases a <;> simp only [assign, hcolumns, h.expanded] <;>
    exact .bind_same fun _ _ => hrun.bind fun _ _ hu => .ok ⟨hu.1, hu.2, rfl⟩

end Working

/-! ### Conditions beside other columns -/

namespace Table

variable {t u : Table} {n : String}

theorem isSome_find? : (t.find? n).isSome ↔ n ∈ t.names := by
  rw [← not_iff_not, Option.not_isSome_iff_eq_none, find?, List.lookup_eq_none_iff, names,
    List.mem_map]
  simp only [bne_iff_ne, ne_eq, not_exists, not_and]
  exact ⟨fun h c hc heq => h c hc heq.symm, fun h c hc heq => h c hc heq.symm⟩

theorem mem_names_congr (h : u.find? n = t.find? n) : n ∈ u.names ↔ n ∈ t.names := by
  rw [← isSome_find?, h, isSome_find?]

/-- A table on which steps can work: it has columns, their names differ, and none is the staging
column. -/
structure Workable (t : Table) : Prop where
  columns : t.columns ≠ []
  distinct : t.names.Nodup
  unstaged : SqlStep.stagingColumn ∉ t.names

theorem Workable.putEach (ht : t.Workable) (filled : List (String × Deferred))
    (hfilled : SqlStep.stagingColumn ∉ filled.map (·.1)) :
    Workable ⟨t.height, Table.putEach t.columns filled⟩ where
  columns := putEach_ne_nil ht.columns
  distinct := (extends_putEach filled).distinct ht.distinct
  unstaged h := ((extends_putEach filled).written_of_mem h).elim ht.unstaged hfilled

end Table

namespace Sql

/-- What an expression means is settled by some columns: over tables that agree on them it means the
same, and it reads no others. -/
def SettledBy (columns : List String) (e : Expr) : Prop :=
  ∀ (t u : Table) (c d : Catalog), c.IsBare → d.IsBare → (∀ n ∈ columns, u.find? n = t.find? n) →
    (besideScope u d).formula e = (besideScope t c).formula e ∧
      ∀ F, (besideScope t c).formula e = .ok F → ∀ n ∈ F.reads, n ∈ columns

/-- A text is one or more branches `WHEN … THEN …` of a choice, settled by the columns that the text
reports. -/
def ReportsBranches (clause : String) : Prop :=
  ∃ branches : List Unit, SpellsBranches (fun _ c v =>
    SettledBy (conditionColumns clause) c ∧ SettledBy (conditionColumns clause) v) clause branches

theorem SettledBy.mono {columns others : List String} {e : Expr} (h : SettledBy columns e)
    (hsub : ∀ n ∈ columns, n ∈ others) : SettledBy others e := by
  intro t u c d hc hd hfind
  obtain ⟨hformula, hreads⟩ := h t u c d hc hd fun n hn => hfind n (hsub n hn)
  exact ⟨hformula, fun F hF n hn => hsub n (hreads F hF n hn)⟩

theorem formulas_congr_of {s s' : Scope} (es : List Expr)
    (h : ∀ e ∈ es, s.formula e = s'.formula e) : s.formulas es = s'.formulas es := by
  induction es with
  | nil => rfl
  | cons e es ih =>
    rw [Scope.formulas, Scope.formulas, h e List.mem_cons_self,
      ih fun e he => h e (List.mem_cons_of_mem _ he)]

/-- A choice is settled by what its branches and its default are settled by. -/
theorem settledBy_choiceExpr {columns : List String} {branches : List (Expr × Expr)}
    {default : Expr} {x : Elaborated Formula}
    (hbranches : ∀ b ∈ branches, SettledBy columns b.1 ∧ SettledBy columns b.2)
    (hdefault : ∀ s : Scope, s.formula default = x)
    (hreads : ∀ F, x = .ok F → ∀ n ∈ F.reads, n ∈ columns) :
    SettledBy columns (choiceExpr branches default) := by
  intro t u c d hc hd hfind
  have hsame : ∀ e, SettledBy columns e →
      (besideScope u d).formula e = (besideScope t c).formula e := fun e he =>
    (he t u c d hc hd hfind).1
  constructor
  · rw [formula_choiceExpr, formula_choiceExpr, hdefault, hdefault,
      formulas_congr_of (branches.map (·.1)) (List.forall_mem_map.2 fun b hb =>
        hsame b.1 (hbranches b hb).1),
      formulas_congr_of (branches.map (·.2)) (List.forall_mem_map.2 fun b hb =>
        hsame b.2 (hbranches b hb).2)]
  · intro F hF
    have hpart : ∀ e, SettledBy columns e → ∀ F, (besideScope t c).formula e = .ok F →
        ∀ n ∈ F.reads, n ∈ columns := fun e he => (he t t c c hc hc fun _ _ => rfl).2
    refine of_choiceExpr (P := fun F => ∀ n ∈ F.reads, n ∈ columns) hF ?_
      (fun b hb => ⟨hpart b.1 (hbranches b hb).1, hpart b.2 (hbranches b hb).2⟩)
      fun D hD => hreads D ((hdefault _).symm.trans hD)
    intro a b c ha hb hc n hn
    simp only [Formula.choose, Formula.reads, Formula.readsAll, List.append_nil,
      List.mem_append] at hn
    rcases hn with hn | hn | hn
    · exact hb n hn
    · exact hc n hn
    · exact ha n hn

/-- An equation between a column and a text is settled by the column. -/
theorem settledBy_equation (n v : String) (quote : Option Char) (place : Span) :
    SettledBy [n] (.binary .eq (.column [⟨n, quote, place⟩]) (.value (.text .plain v))) := by
  intro t u c d _ _ hfind
  have hformula : ∀ t c, (besideScope t c).formula
      (.binary .eq (.column [⟨n, quote, place⟩]) (.value (.text .plain v))) =
        .ok (.compare .eq (.column n) ((besideScope t c).asInstant (.column n) (.ofText v))) :=
    fun t c => rfl
  have htype : ∀ t c, (besideScope t c).columnType? (.column n) = (t.find? n).map (·.dtype) :=
    fun t c => Table.lookup_schema n
  have hinstant : (besideScope u d).asInstant (.column n) (.ofText v) =
      (besideScope t c).asInstant (.column n) (.ofText v) := by
    simp only [Scope.asInstant, htype, hfind n (List.mem_singleton_self n)]
  refine ⟨by rw [hformula, hformula, hinstant], fun F hF m hm => ?_⟩
  cases (hformula t c).symm.trans hF
  have hnothing : ((besideScope t c).asInstant (.column n) (.ofText v)).reads = [] := by
    rw [Scope.asInstant]
    split
    · split <;> rfl
    · split <;> rfl
    · rfl
  simpa [Formula.compare, Formula.reads, Formula.readsAll, hnothing] using hm

theorem settledBy_text (columns : List String) (w : String) :
    SettledBy columns (.value (.text .plain w)) := by
  intro t u c d _ _ _
  refine ⟨rfl, ?_⟩
  rintro _ ⟨⟩ n hn
  cases hn

/-- A clause that gives a text where a column equals another one is a branch, settled by the column,
if that one is reported. -/
theorem reportsBranches_equation {clause : String} {n : String} (v w : String)
    (hclause : clause.toList = ("WHEN " ++ quoteIdentifier n ++ " = " ++ Literal.quotedSql v ++
      " THEN " ++ Literal.quotedSql w).toList)
    (hn : n ∈ conditionColumns clause) : ReportsBranches clause := by
  obtain ⟨ts, hts, htakes⟩ := exists_takesBranch_equation n v w (P := fun c v =>
      SettledBy (conditionColumns clause) c ∧ SettledBy (conditionColumns clause) v) fun place =>
    ⟨(settledBy_equation n v _ place).mono fun m hm => List.mem_singleton.1 hm ▸ hn,
      settledBy_text _ w⟩
  refine ⟨[()], [ts], by simp, ?_, .cons htakes .nil⟩
  rw [List.flatten_singleton, hclause]
  exact hts

/-- A clause that tells the kind of some services looks at the service. -/
theorem conditionColumns_services :
    conditionColumns "WHEN \"Service\" = 's3' THEN 'Storage'" = ["Service"] := by
  decide +kernel

theorem reportsBranches_services :
    ReportsBranches "WHEN \"Service\" = 's3' THEN 'Storage'" :=
  reportsBranches_equation (n := "Service") "s3" "Storage" (by decide +kernel)
    (by rw [conditionColumns_services]; exact List.mem_singleton_self _)

end Sql

namespace SqlStep

variable {t u : Table} {c d : Sql.Catalog} {o text : String} {clauses : List String}


/-- The columns that clauses report. -/
def reported (clauses : List String) : List String := clauses.flatMap Sql.conditionColumns

/-- Names that no rule writes: that of the staging column, and those under which SQL reads numbers
that are not finite. -/
def reserved : List String := [stagingColumn, "inf", "NaN"]

/-- The columns that a condition can look at: its own one, those that its clauses report, and one
that its default may name. -/
def lookedAt (o : String) (clauses : List String) : List String :=
  o :: (reserved ++ reported clauses)

/-- A condition whose statement, whichever of its clauses are live, asks for all columns of a table
and for its own one only, which is settled by the columns that these clauses report; unless it
cannot be read. -/
def IsConfined : SqlStep → Prop
  | condition o clauses text => ∀ names statements,
      Sql.parse? true ((condition o clauses text).render (some names)) = some statements →
        ∃ e label place, label.text = Sql.conditionLabel names o ∧
          statements = [.query (.ofBody (.select
            (Sql.selectBeside e label ⟨Sql.tableName, none, place⟩)))] ∧
          Sql.SettledBy (reserved ++ reported (clauses.filter (isLive names))) e
  | query _ => True

/-- A condition whose statement, whichever of its clauses are live, asks for all columns of a table
and for its own one only, which is settled by the columns that these clauses report and by some
others; unless it cannot be read. -/
def IsConfinedTo (others : List String) : SqlStep → Prop
  | condition o clauses text => ∀ names statements,
      Sql.parse? true ((condition o clauses text).render (some names)) = some statements →
        ∃ e label place, label.text = Sql.conditionLabel names o ∧
          statements = [.query (.ofBody (.select
            (Sql.selectBeside e label ⟨Sql.tableName, none, place⟩)))] ∧
          Sql.SettledBy (others ++ reported (clauses.filter (isLive names))) e
  | query _ => True

theorem isConfined_iff {s : SqlStep} : s.IsConfined ↔ s.IsConfinedTo reserved := by
  cases s <;> rfl

theorem IsConfinedTo.mono {s : SqlStep} {others more : List String} (h : s.IsConfinedTo others)
    (hsub : ∀ n ∈ others, n ∈ more) : s.IsConfinedTo more := by
  match s, h with
  | query _, _ => trivial
  | condition o clauses text, h =>
    intro names statements hparse
    obtain ⟨e, label, place, hlabel, hstatements, hsettled⟩ := h names statements hparse
    refine ⟨e, label, place, hlabel, hstatements, hsettled.mono fun n hn => ?_⟩
    exact List.mem_append.2 ((List.mem_append.1 hn).imp_left (hsub n))

/-- The columns that the text of a default is taken to name: none, unless it is a number that is not
finite. -/
def defaultNames : Literal → List String
  | .float .nan => ["NaN"]
  | .float (.infinite _) => ["inf"]
  | _ => []

theorem defaultNames_subset_reserved (d : Literal) : ∀ n ∈ defaultNames d, n ∈ reserved := by
  match d with
  | .bool _ | .text _ | .int _ | .float (.finite ..) => nofun
  | .float .nan | .float (.infinite _) =>
    intro n hn
    obtain rfl := List.mem_singleton.1 hn
    decide

/-- A default reads the columns that its text is taken to name. -/
theorem mem_defaultNames_of_reads {d : Literal} {F : Sql.Formula} {n : String}
    (h : d.sqlReading = .ok F) (hn : n ∈ F.reads) : n ∈ defaultNames d := by
  have hnumber : ∀ {negative digits}, Sql.signedNumber negative digits = .ok F → False := by
    intro negative digits hF
    simp only [Sql.signedNumber, bind_eq_ok] at hF
    obtain ⟨n | x, _, hF⟩ := hF <;> cases hF <;> cases hn
  match d, h with
  | .bool _, h | .text _, h =>
    cases h
    cases hn
  | .float .nan, h | .float (.infinite false), h | .float (.infinite true), h =>
    cases h
    exact hn
  | .int (.ofNat _), h | .int (.negSucc _), h | .float (.finite ..), h => exact (hnumber h).elim

/-- A condition whose clauses are branches of a choice, settled by the columns that they report,
asks for its own column only, and reads no others than these and what its default names. -/
theorem isConfinedTo_of_branches (h : ∀ clause ∈ clauses, Sql.ReportsBranches clause) (o : String)
    (d : Literal) : (condition o clauses d.sql).IsConfinedTo (defaultNames d) := by
  intro names statements hparse
  have hlive : ∀ clause ∈ clauses.filter (isLive names), ∃ ms : List Unit,
      Sql.SpellsBranches (fun _ a b =>
        Sql.SettledBy (defaultNames d ++ reported (clauses.filter (isLive names))) a ∧
          Sql.SettledBy (defaultNames d ++ reported (clauses.filter (isLive names))) b)
        clause ms := by
    intro clause hclause
    obtain ⟨ms, tss, hne, hspells, htakes⟩ := h clause (List.mem_of_mem_filter hclause)
    have hsub : ∀ n ∈ Sql.conditionColumns clause,
        n ∈ defaultNames d ++ reported (clauses.filter (isLive names)) :=
      fun n hn => List.mem_append_right _ (List.mem_flatMap.2 ⟨clause, hclause, hn⟩)
    exact ⟨ms, tss, hne, hspells, htakes.imp fun _ _ ht => ht.mono fun a b hab =>
      ⟨hab.1.mono hsub, hab.2.mono hsub⟩⟩
  obtain ⟨branches, default, label, place, hlabel, htext, hbranches, hdefault⟩ :=
    Sql.exists_parse_branches hlive o d
  refine ⟨_, label, place, hlabel, (Option.some.inj (htext.symm.trans hparse)).symm, ?_⟩
  exact Sql.settledBy_choiceExpr hbranches hdefault fun F hF n hn =>
    List.mem_append_left _ (mem_defaultNames_of_reads hF hn)

theorem isConfined_of_branches (h : ∀ clause ∈ clauses, Sql.ReportsBranches clause) (o : String)
    (d : Literal) : (condition o clauses d.sql).IsConfined :=
  isConfined_iff.2 ((isConfinedTo_of_branches h o d).mono (defaultNames_subset_reserved d))

/-- A statement that cannot be read is not carried out. -/
theorem run_of_unreadable {s : SqlStep} (h : Sql.parse? true (s.render (some t.names)) = none) :
    ∃ e, s.run t c = .error e := by
  have hrun : Sql.runOn (s.render (some t.names)) t c = .error .unreadable := by
    rw [Sql.runOn, Sql.execute, h]
    rfl
  rw [run, hrun]
  exact ⟨_, rfl⟩

/-- The statement of a condition is a matter of its own column and of those that its clauses
report. -/
theorem render_congr (text : String)
    (hfind : ∀ n ∈ o :: reported clauses, u.find? n = t.find? n) :
    clauses.filter (isLive u.names) = clauses.filter (isLive t.names) ∧
      Sql.conditionLabel u.names o = Sql.conditionLabel t.names o ∧
      (condition o clauses text).render (some u.names) =
        (condition o clauses text).render (some t.names) := by
  have hmem : ∀ n ∈ o :: reported clauses, u.names.contains n = t.names.contains n := by
    intro n hn
    rw [Bool.eq_iff_iff, List.contains_iff_mem, List.contains_iff_mem,
      Table.mem_names_congr (hfind n hn)]
  have hlive : clauses.filter (isLive u.names) = clauses.filter (isLive t.names) := by
    refine List.filter_congr fun clause hclause => ?_
    rw [Bool.eq_iff_iff, isLive, isLive, List.all_eq_true, List.all_eq_true]
    refine forall₂_congr fun n hn => ?_
    rw [hmem n (List.mem_cons_of_mem _ (List.mem_flatMap.2 ⟨clause, hclause, hn⟩))]
  have ho : u.names.contains o = t.names.contains o := hmem o List.mem_cons_self
  refine ⟨hlive, ?_, ?_⟩
  · rw [Sql.conditionLabel, Sql.conditionLabel, ho]
  · simp only [render, liveClauses, hlive, Option.any_some, ho]

/-- **A condition does the same to tables that agree on its own column, on those that its clauses
report and on what else it may read**: it puts the same column over both, and all names are plain
then, or it fails on both. -/
theorem paired_confined {others : List String}
    (hs : (condition o clauses text).IsConfinedTo others) (ht : t.columns ≠ [])
    (hu : u.columns ≠ []) (ht' : t.names.Nodup) (hu' : u.names.Nodup) (hc : c.IsBare)
    (hd : d.IsBare) (hheight : u.height = t.height)
    (hstaging : o ∈ t.names → (stagingColumn ∈ u.names ↔ stagingColumn ∈ t.names))
    (hfind : ∀ n ∈ o :: (others ++ reported clauses), u.find? n = t.find? n)
    (hplain : (∀ n ∈ u.names, Table.IsPlain n) ↔ ∀ n ∈ t.names, Table.IsPlain n) :
    Paired (fun r s => ∃ x, r.1 = ⟨t.height, Table.putIn o x t.columns⟩ ∧
        s.1 = ⟨u.height, Table.putIn o x u.columns⟩ ∧ r.2.IsBare ∧ s.2.IsBare ∧
        ∀ n ∈ u.names, Table.IsPlain n)
      ((condition o clauses text).run t c) ((condition o clauses text).run u d) := by
  obtain ⟨hlive, hlabel, htext⟩ := render_congr text fun n hn => hfind n
    ((List.mem_cons.1 hn).elim (· ▸ List.mem_cons_self)
      fun hn => List.mem_cons_of_mem _ (List.mem_append_right _ hn))
  have ho : o ∈ u.names ↔ o ∈ t.names := Table.mem_names_congr (hfind o List.mem_cons_self)
  cases hparse : Sql.parse? true ((condition o clauses text).render (some t.names)) with
  | none =>
    obtain ⟨e, he⟩ := run_of_unreadable (c := c) hparse
    obtain ⟨e', he'⟩ := run_of_unreadable (c := d) (htext ▸ hparse)
    rw [he, he']
    exact .error e e'
  | some statements =>
    obtain ⟨e, label, place, hlabel', rfl, hsettled⟩ := hs t.names statements hparse
    have hagree : ∀ n ∈ others ++ reported (clauses.filter (isLive t.names)),
        u.find? n = t.find? n := by
      intro n hn
      refine hfind n (List.mem_cons_of_mem _ ((List.mem_append.1 hn).elim
        (List.mem_append_left _) fun hn => List.mem_append_right _ ?_))
      obtain ⟨clause, hclause, hn⟩ := List.mem_flatMap.1 hn
      exact List.mem_flatMap.2 ⟨clause, List.mem_of_mem_filter hclause, hn⟩
    obtain ⟨hformula, hreads⟩ := hsettled t u c d hc hd hagree
    have heval : ∀ F, (Sql.besideScope t c).formula e = .ok F →
        F.eval false (.ofTable u) = F.eval false (.ofTable t) := fun F hF =>
      F.eval_congr false ⟨congrArg Except.ok hheight, fun n hn => hagree n (hreads F hF n hn)⟩
    have hlabel'' := hlabel'.trans hlabel.symm
    have hparse' := htext ▸ hparse
    cases hr : (condition o clauses text).run t c with
    | ok r =>
      obtain ⟨hnames, hfresh, F, found, hF, hplainReads, hfound, hv, hc'⟩ :=
        (run_condition_eq_ok ht ht' hlabel' hparse).1 hr
      rw [(run_condition_eq_ok hu hu' hlabel'' hparse').2 ⟨hplain.2 hnames,
        fun hou hsu => hfresh (ho.1 hou) ((hstaging (ho.1 hou)).1 hsu), F, found,
        hformula.trans hF, hplainReads, (heval F hF).trans hfound, rfl, rfl⟩]
      exact .ok ⟨_, hv, by rw [hheight], hc' ▸ hc.next _, hd.next _, hplain.2 hnames⟩
    | error e =>
      cases hr' : (condition o clauses text).run u d with
      | error e' => exact .error e e'
      | ok r =>
        obtain ⟨hnames, hfresh, F, found, hF, hplainReads, hfound, _, _⟩ :=
          (run_condition_eq_ok hu hu' hlabel'' hparse').1 hr'
        have hF' := hformula.symm.trans hF
        have hok := (run_condition_eq_ok ht ht' hlabel' hparse).2 ⟨hplain.1 hnames,
          fun hot hst => hfresh (ho.2 hot) ((hstaging hot).2 hst), F, found, hF', hplainReads,
          (heval F hF').symm.trans hfound, rfl, rfl⟩
        cases hr.symm.trans hok

/-- A condition does the same to tables that agree on its own column and on those that its clauses
report, whatever its default may name. -/
theorem paired_condition (hs : (condition o clauses text).IsConfined) (ht : t.Workable)
    (hu : u.Workable) (hc : c.IsBare) (hd : d.IsBare) (hheight : u.height = t.height)
    (hfind : ∀ n ∈ lookedAt o clauses, u.find? n = t.find? n)
    (hplain : (∀ n ∈ u.names, Table.IsPlain n) ↔ ∀ n ∈ t.names, Table.IsPlain n) :
    Paired (fun r s => ∃ x, r.1 = ⟨t.height, Table.putIn o x t.columns⟩ ∧
        s.1 = ⟨u.height, Table.putIn o x u.columns⟩ ∧ r.2.IsBare ∧ s.2.IsBare ∧
        ∀ n ∈ u.names, Table.IsPlain n)
      ((condition o clauses text).run t c) ((condition o clauses text).run u d) :=
  paired_confined (isConfined_iff.1 hs) ht.columns hu.columns ht.distinct hu.distinct hc hd hheight
    (fun _ => iff_of_false hu.unstaged ht.unstaged) hfind hplain

end SqlStep

end FocusBilling
