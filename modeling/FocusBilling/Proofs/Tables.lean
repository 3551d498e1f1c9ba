import FocusBilling.Frame.Table
import FocusBilling.Proofs.Steps

/-!
# Columns of tables

* `Table.StandsFor` : a name stands for a column of a table;
* `Table.Proper` : a table whose columns can all be asked for by their names;
* `Table.mem_names_select` : the columns of a selection;
* `Table.find?_select`, `Table.names_select_of_plain`, `Table.select_filter` : columns chosen by
  their names are as they were, and plain names choose their columns in their order;
* `Table.names_collect`, `Table.mem_collect`, `Table.toTable_of_collect` : a frame has the columns
  of the table it is computed from;
* `Table.names_putIn`, `Table.putIn_of_mem` : a column put over the column of its name, or behind
  the others.
-/

namespace FocusBilling

namespace Table

variable {t u : Table} {n m : String} {d : Deferred}

/-- A name stands for a column, as one of those that it matches. -/
def StandsFor (t : Table) (name column : String) : Prop :=
  ∃ found, t.matching name = .ok found ∧ column ∈ found

/-- A name that stands for the column of that name only. -/
def IsPlain (name : String) : Prop := name ≠ "*" ∧ isPattern name = false

instance (name : String) : Decidable (IsPlain name) :=
  inferInstanceAs (Decidable (name ≠ "*" ∧ isPattern name = false))

theorem matchingNames_of_plain {columns : List String} (h : IsPlain n) :
    matchingNames columns n = .ok [n] := by
  simp [matchingNames, h.1, h.2]

theorem matching_of_plain (h : IsPlain n) : t.matching n = .ok [n] := matchingNames_of_plain h

theorem standsFor_of_plain (h : IsPlain n) : t.StandsFor n m ↔ m = n := by
  simp [StandsFor, matching_of_plain h]

/-- A table whose columns can all be asked for by their names: there are some, their names differ,
and each stands for its column only. -/
structure Proper (t : Table) : Prop where
  /-- There are columns. -/
  columns : t.columns ≠ []
  /-- Their names differ. -/
  distinct : t.names.Nodup
  /-- Each name stands for its column only. -/
  plain : ∀ n ∈ t.names, IsPlain n

theorem mem_columns_of_find? (h : t.find? n = some d) : (n, d) ∈ t.columns := by
  rw [find?, List.lookup_eq_some_iff] at h
  obtain ⟨before, after, hc, _⟩ := h
  simp [hc]

theorem mem_names_of_find? (h : t.find? n = some d) : n ∈ t.names :=
  List.mem_map_of_mem (mem_columns_of_find? h)

theorem find?_of_get (h : t.get n = .ok d) : t.find? n = some d := by
  rw [get] at h
  split at h
  next _ hfind => exact hfind.trans (congrArg some (Except.ok.inj h))
  next => cases h

theorem mem_columns_of_get (h : t.get n = .ok d) : (n, d) ∈ t.columns :=
  mem_columns_of_find? (find?_of_get h)

theorem mem_names_of_get (h : t.get n = .ok d) : n ∈ t.names :=
  List.mem_map_of_mem (mem_columns_of_get h)

theorem names_ofColumns {height : Nat} {columns : List (String × Deferred)}
    (h : ofColumns height columns = .ok t) : t.names = columns.map (·.1) := by
  rw [ofColumns] at h
  split at h
  next => cases h
  next => cases h; rfl

theorem names_select {names : List String} (h : t.select names = .ok u) :
    ∃ found, names.mapM t.matching = .ok found ∧ u.names = found.flatten ∧
      ∀ n ∈ found.flatten, n ∈ t.names := by
  simp only [select, bind_eq_ok] at h
  obtain ⟨found, hfound, columns, hcolumns, hu⟩ := h
  refine ⟨found, hfound, ?_, fun n hn => ?_⟩
  · have hnames := map_eq_of_mapM (g := Prod.fst) (k := id) hcolumns (by simp)
    rw [names_ofColumns hu, hnames, List.map_id]
  · obtain ⟨c, _, hc⟩ := exists_of_mem_mapM hcolumns hn
    simp only [bind_eq_ok] at hc
    obtain ⟨d, hd, _⟩ := hc
    exact mem_names_of_get hd

/-- The columns of a selection are those that its names stand for. -/
theorem mem_names_select {names : List String} (h : t.select names = .ok u) :
    n ∈ u.names ↔ ∃ m ∈ names, t.StandsFor m n := by
  obtain ⟨found, hfound, hu, _⟩ := names_select h
  rw [hu, mem_flatten_of_mapM hfound]
  rfl

/-- A selection has no other columns than the table. -/
theorem mem_names_of_mem_select {names : List String} (h : t.select names = .ok u)
    (hn : n ∈ u.names) : n ∈ t.names := by
  obtain ⟨found, _, hu, ht⟩ := names_select h
  exact ht n (hu ▸ hn)

/-- A frame has the columns of the table it is computed from. -/
theorem names_collect {f : Frame} (h : t.collect = .ok f) : f.names = t.names := by
  simp only [collect, bind_eq_ok, pure_eq_ok] at h
  obtain ⟨columns, hc, rfl⟩ := h
  refine map_eq_of_mapM (k := Prod.fst) hc fun x y hy => ?_
  simp only [bind_eq_ok, pure_eq_ok] at hy
  obtain ⟨cells, _, rfl⟩ := hy
  rfl

/-! ### Columns in place -/

section Columns

variable {columns : List (String × Deferred)}

/-- No name occurs again later. -/
theorem repeated?_eq_none {names : List String} (h : names.Nodup) : repeated? names = none := by
  induction names with
  | nil => rfl
  | cons n ns ih =>
    rw [List.nodup_cons] at h
    rw [repeated?, List.contains_iff_mem.not.2 h.1 |> Bool.eq_false_iff.2]
    exact ih h.2

theorem nodup_of_repeated? {names : List String} (h : repeated? names = none) : names.Nodup := by
  induction names with
  | nil => exact .nil
  | cons n ns ih =>
    rw [repeated?] at h
    split at h
    next => cases h
    next hn =>
      rw [List.contains_iff_mem] at hn
      exact List.nodup_cons.2 ⟨hn, ih h⟩

theorem lookup_eq_some (h : (columns.map (·.1)).Nodup) (hd : (n, d) ∈ columns) :
    columns.lookup n = some d := by
  induction columns with
  | nil => cases hd
  | cons c columns ih =>
    obtain ⟨m, e⟩ := c
    rw [List.map_cons, List.nodup_cons] at h
    rcases List.mem_cons.1 hd with heq | hrest
    · cases heq
      exact List.lookup_cons_self
    · have hne : n ≠ m := by
        rintro rfl
        exact h.1 (List.mem_map.2 ⟨_, hrest, rfl⟩)
      have hbeq : (n == m) = false := by simpa using hne
      rw [List.lookup_cons, hbeq]
      exact ih h.2 hrest

/-- A column that is put over another one keeps its place, and a new one stands last. -/
theorem names_putIn :
    (putIn n d columns).map (·.1) =
      if n ∈ columns.map (·.1) then columns.map (·.1) else columns.map (·.1) ++ [n] := by
  induction columns with
  | nil => rfl
  | cons c columns ih =>
    obtain ⟨m, e⟩ := c
    by_cases hm : m = n
    · simp [putIn, hm]
    · have hn : n ≠ m := Ne.symm hm
      simp only [putIn, hm, if_false, List.map_cons, ih, List.mem_cons, hn, false_or]
      split <;> rfl

theorem mem_names_putIn : m ∈ (putIn n d columns).map (·.1) ↔ m ∈ columns.map (·.1) ∨ m = n := by
  rw [names_putIn]
  split
  case isTrue hn => exact ⟨.inl, fun h => h.elim id fun hm => hm ▸ hn⟩
  case isFalse => rw [List.mem_append, List.mem_singleton]

theorem lookup_putIn_self : (putIn n d columns).lookup n = some d := by
  induction columns with
  | nil => simp [putIn]
  | cons c columns ih =>
    obtain ⟨m, e⟩ := c
    by_cases hm : m = n
    · simp [putIn, hm]
    · have hbeq : (n == m) = false := by simpa using Ne.symm hm
      simp [putIn, hm, List.lookup_cons, hbeq, ih]

theorem lookup_putIn_of_ne (h : m ≠ n) : (putIn n d columns).lookup m = columns.lookup m := by
  induction columns with
  | nil =>
    have hbeq : (m == n) = false := by simpa using h
    simp [putIn, List.lookup_cons, hbeq]
  | cons c columns ih =>
    obtain ⟨k, e⟩ := c
    by_cases hk : k = n
    · subst hk
      have hbeq : (m == k) = false := by simpa using h
      simp [putIn, List.lookup_cons, hbeq]
    · simp [putIn, hk, List.lookup_cons, ih]

theorem putIn_of_not_mem (h : n ∉ columns.map (·.1)) : putIn n d columns = columns ++ [(n, d)] := by
  induction columns with
  | nil => rfl
  | cons c columns ih =>
    obtain ⟨m, e⟩ := c
    simp only [List.map_cons, List.mem_cons, not_or] at h
    rw [putIn, if_neg (Ne.symm h.1), ih h.2]
    rfl

/-- A column that is put over another one leaves all others as they are. -/
theorem putIn_of_mem (hnodup : (columns.map (·.1)).Nodup) (h : n ∈ columns.map (·.1)) :
    putIn n d columns = columns.map fun c => (c.1, if c.1 = n then d else c.2) := by
  induction columns with
  | nil => cases h
  | cons c columns ih =>
    obtain ⟨m, e⟩ := c
    rw [List.map_cons, List.nodup_cons] at hnodup
    by_cases hm : m = n
    · subst hm
      have hothers : columns.map (fun c => (c.1, if c.1 = m then d else c.2)) = columns := by
        refine (List.map_congr_left fun c hc => ?_).trans columns.map_id
        have hne : c.1 ≠ m := fun heq => hnodup.1 (List.mem_map.2 ⟨c, hc, heq⟩)
        simp [hne]
      simp [putIn, hothers]
    · have hrest : n ∈ columns.map (·.1) := by
        rcases List.mem_cons.1 h with heq | hrest
        · exact absurd heq.symm hm
        · exact hrest
      rw [putIn, if_neg hm, ih hnodup.2 hrest, List.map_cons, if_neg hm]

end Columns

/-! ### Selections -/

section Selections

variable {names : List String}

theorem ofColumns_eq_ok {height : Nat} {columns : List (String × Deferred)} :
    ofColumns height columns = .ok t ↔
      (columns.map (·.1)).Nodup ∧ t = ⟨if columns.isEmpty then 0 else height, columns⟩ := by
  rw [ofColumns]
  cases hrepeated : repeated? (columns.map (·.1)) with
  | none =>
    simp only [Except.ok.injEq, nodup_of_repeated? hrepeated, true_and]
    exact eq_comm
  | some m =>
    have hnot : ¬(columns.map (·.1)).Nodup := fun h => by
      rw [repeated?_eq_none h] at hrepeated
      cases hrepeated
    simp [hnot]

/-- A column that is chosen is as it was. -/
theorem find?_select (h : t.select names = .ok u) (hn : n ∈ u.names) : u.find? n = t.find? n := by
  simp only [select, bind_eq_ok, ofColumns_eq_ok] at h
  obtain ⟨_, _, columns, hcolumns, hdistinct, rfl⟩ := h
  obtain ⟨⟨_, d⟩, hd, rfl⟩ := List.mem_map.1 hn
  obtain ⟨m, _, hm⟩ := exists_of_mem_of_mapM hcolumns hd
  simp only [bind_eq_ok, pure_eq_ok, Prod.mk.injEq] at hm
  obtain ⟨e, he, rfl, rfl⟩ := hm
  rw [find?, lookup_eq_some hdistinct hd]
  exact (find?_of_get he).symm

/-- A table of chosen columns is as high, if there are any. -/
theorem height_select (h : t.select names = .ok u) (hn : n ∈ u.names) : u.height = t.height := by
  simp only [select, bind_eq_ok, ofColumns_eq_ok] at h
  obtain ⟨_, _, columns, _, _, rfl⟩ := h
  cases columns with
  | nil => cases hn
  | cons c columns => rfl

/-- Plain names are looked up one by one. -/
theorem select_of_plain (h : ∀ n ∈ names, IsPlain n) :
    t.select names = names.mapM (fun n => do pure (n, ← t.get n)) >>= ofColumns t.height := by
  have hmatching : names.mapM t.matching = .ok (names.map fun n => [n]) := by
    rw [mapM_eq_ok, List.forall₂_map_right_iff, List.forall₂_same]
    exact fun n hn => matching_of_plain (h n hn)
  have hflatten : (names.map fun n => [n]).flatten = names := by
    rw [← List.flatMap_def, List.flatMap_singleton']
  rw [select, hmatching]
  change (((names.map fun n => [n]).flatten.mapM fun n => do
    pure (n, ← t.get n)) >>= ofColumns t.height) = _
  rw [hflatten]

/-- Plain names choose their columns, in the order of the names. -/
theorem names_select_of_plain (h : t.select names = .ok u) (hplain : ∀ n ∈ names, IsPlain n) :
    u.names = names := by
  rw [select_of_plain hplain, bind_eq_ok] at h
  obtain ⟨columns, hcolumns, hu⟩ := h
  rw [names_ofColumns hu]
  exact (map_eq_of_mapM (k := id) hcolumns (by simp)).trans names.map_id

/-- Some columns chosen by plain names. -/
theorem select_filter {keep : String → Bool} (hdistinct : t.names.Nodup)
    (hplain : ∀ n ∈ t.names, IsPlain n) :
    t.select (t.names.filter keep) =
      ofColumns t.height (t.columns.filter fun c => keep c.1) := by
  have hnames : t.names.filter keep = (t.columns.filter fun c => keep c.1).map (·.1) := by
    rw [Table.names, List.filter_map]
    rfl
  have hget : (t.names.filter keep).mapM (fun n => do pure (n, ← t.get n)) =
      .ok (t.columns.filter fun c => keep c.1) := by
    rw [hnames, mapM_eq_ok, List.forall₂_map_left_iff, List.forall₂_same]
    intro c hc
    have hfind : t.find? c.1 = some c.2 := lookup_eq_some hdistinct (List.mem_of_mem_filter hc)
    simp [get, hfind]
  rw [select_of_plain fun n hn => hplain n (List.mem_of_mem_filter hn), hget]
  rfl

end Selections

/-! ### Frames that are computed from tables -/

/-- A table can be computed if each of its columns can. -/
theorem exists_collect_iff :
    (∃ f, t.collect = .ok f) ↔ ∀ c ∈ t.columns, ∃ cells, c.2.cells = .ok cells := by
  have hall : (∃ f, t.collect = .ok f) ↔ ∃ columns, t.columns.mapM (fun c => do
      pure (Column.mk c.1 c.2.dtype (← c.2.cells))) =
        (.ok columns : Except FrameError (List Column)) := by
    simp only [collect, bind_eq_ok, pure_eq_ok]
    constructor
    · rintro ⟨_, columns, h, -⟩
      exact ⟨columns, h⟩
    · rintro ⟨columns, h⟩
      exact ⟨_, columns, h, rfl⟩
  rw [hall, exists_mapM_eq_ok]
  simp

/-- The column of a frame that is computed from a column at hand. -/
theorem mem_collect {f : Frame} {d : DType} {cells : List Cell} (h : t.collect = .ok f)
    (hn : t.find? n = some ⟨d, .ok cells⟩) : ⟨n, d, cells⟩ ∈ f.columns := by
  simp only [collect, bind_eq_ok, pure_eq_ok] at h
  obtain ⟨columns, hcolumns, rfl⟩ := h
  obtain ⟨c, hc, hcells⟩ := exists_of_mem_mapM hcolumns (mem_columns_of_find? hn)
  simp only [bind_eq_ok, pure_eq_ok] at hcells
  obtain ⟨_, ⟨⟩, rfl⟩ := hcells
  exact hc

theorem height_collect {f : Frame} (h : t.collect = .ok f) : f.height = t.height := by
  simp only [collect, bind_eq_ok, pure_eq_ok] at h
  obtain ⟨columns, _, rfl⟩ := h
  rfl

/-- The frame of a table holds the columns of the table. -/
theorem toTable_of_collect {f : Frame} (h : t.collect = .ok f) : f.toTable = t := by
  simp only [collect, bind_eq_ok, pure_eq_ok] at h
  obtain ⟨columns, hcolumns, rfl⟩ := h
  have hmap := map_eq_of_mapM (g := fun c : Column => (c.name, (⟨c.dtype, .ok c.cells⟩ : Deferred)))
    (k := id) hcolumns fun c d hd => by
      simp only [bind_eq_ok, pure_eq_ok] at hd
      obtain ⟨cells, hcells, rfl⟩ := hd
      rw [← hcells]
      rfl
  rw [Frame.toTable, hmap, List.map_id]

end Table

end FocusBilling
