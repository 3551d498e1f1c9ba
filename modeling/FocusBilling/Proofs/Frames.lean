import FocusBilling.Frame.Stack

/-!
# Frames of one schema

Frames whose columns have the names and types of one schema, and as many cells as there are rows,
are put below one another and cut apart like lists.

* `Frame.Fits` : a frame has the columns of a schema, each as long as the frame is high;
* `Frame.Fits.ext` : such frames are equal if they are equally high and hold the same cells;
* `Frame.slice_append`, `Frame.suffix_append` : frames put together and cut apart;
* `Frame.cuts`, `Frame.splitInto_cuts` : a frame cut into batches of one size, which hold its rows
  in order.
-/

namespace FocusBilling

namespace Frame

/-- A frame has the columns of a schema, each as long as the frame is high. -/
structure Fits (f : Frame) (schema : List (String × DType)) : Prop where
  schema_eq : f.schema = schema
  length_cells : ∀ c ∈ f.columns, c.cells.length = f.height

/-- The cells of a column, by its place; none behind the last column. -/
def cellsAt (f : Frame) (i : Nat) : List Cell := (f.columns[i]?.map Column.cells).getD []

/-- The rows from one position on. -/
def suffix (f : Frame) (start : Nat) : Frame := f.slice start (f.height - start)

variable {σ : List (String × DType)} {f g h : Frame}

theorem cellsAt_slice (f : Frame) (start count i : Nat) :
    (f.slice start count).cellsAt i = ((f.cellsAt i).drop start).take count := by
  cases hc : f.columns[i]? <;> simp [cellsAt, slice, hc]

theorem cellsAt_empty (σ : List (String × DType)) (i : Nat) : (empty σ).cellsAt i = [] := by
  cases hs : σ[i]? <;> simp [cellsAt, empty, hs]

theorem height_slice (f : Frame) (start count : Nat) :
    (f.slice start count).height = min count (f.height - start) := rfl

theorem height_append (f g : Frame) : (f.append g).height = f.height + g.height := rfl

theorem height_suffix (f : Frame) (start : Nat) : (f.suffix start).height = f.height - start := by
  simp [suffix, slice]

namespace Fits

theorem length_columns (hf : f.Fits σ) : f.columns.length = σ.length := by
  rw [← hf.schema_eq, schema, List.length_map]

theorem length_cellsAt (hf : f.Fits σ) (i : Nat) :
    (f.cellsAt i).length = if i < σ.length then f.height else 0 := by
  rw [← hf.length_columns]
  split
  next hi => simp [cellsAt, hi, hf.length_cells]
  next hi => simp [cellsAt, hi]

theorem length_cellsAt_le (hf : f.Fits σ) (i : Nat) : (f.cellsAt i).length ≤ f.height := by
  rw [hf.length_cellsAt]
  split <;> omega

theorem cellsAt_append (hf : f.Fits σ) (hg : g.Fits σ) (i : Nat) :
    (f.append g).cellsAt i = f.cellsAt i ++ g.cellsAt i := by
  have hl : f.columns.length = g.columns.length := hf.length_columns.trans hg.length_columns.symm
  simp only [cellsAt, append, List.getElem?_map, List.zip_eq_zipWith, List.getElem?_zipWith]
  by_cases hi : i < f.columns.length
  · have hj : i < g.columns.length := hl ▸ hi
    simp [hi, hj]
  · have hj : ¬i < g.columns.length := hl ▸ hi
    simp [hi, hj]

theorem cellsAt_suffix (hf : f.Fits σ) (start i : Nat) :
    (f.suffix start).cellsAt i = (f.cellsAt i).drop start := by
  have hl := hf.length_cellsAt_le i
  rw [Frame.suffix, cellsAt_slice, List.take_of_length_le (by rw [List.length_drop]; omega)]

/-- Frames of one schema are equal if they are equally high and hold the same cells. -/
theorem ext (hf : f.Fits σ) (hg : g.Fits σ) (hh : f.height = g.height)
    (hc : ∀ i, f.cellsAt i = g.cellsAt i) : f = g := by
  obtain ⟨m, cs⟩ := f
  obtain ⟨n, ds⟩ := g
  have hs : cs.map (fun c => (c.name, c.dtype)) = ds.map fun c => (c.name, c.dtype) :=
    hf.schema_eq.trans hg.schema_eq.symm
  refine Frame.mk.injEq .. ▸ ⟨hh, List.ext_getElem ?_ fun i hi hj => ?_⟩
  · simpa using congrArg List.length hs
  · have hkind : cs[i].name = ds[i].name ∧ cs[i].dtype = ds[i].dtype := by
      simpa [hi, hj] using congrArg (·[i]?) hs
    have hcells : cs[i].cells = ds[i].cells := by simpa [cellsAt, hi, hj] using hc i
    exact Column.mk.injEq .. ▸ ⟨hkind.1, hkind.2, hcells⟩

theorem empty (σ : List (String × DType)) : (empty σ).Fits σ := by
  constructor
  · simp [schema, Frame.empty, Function.comp_def]
  · intro c hc
    simp only [Frame.empty, List.mem_map] at hc
    obtain ⟨_, _, rfl⟩ := hc
    rfl

theorem append (hf : f.Fits σ) (hg : g.Fits σ) : (f.append g).Fits σ := by
  have hl : f.columns.length = g.columns.length := hf.length_columns.trans hg.length_columns.symm
  constructor
  · calc (f.append g).schema
        = ((f.columns.zip g.columns).map Prod.fst).map fun c => (c.name, c.dtype) := by
          simp [schema, Frame.append]
      _ = f.schema := by rw [List.map_fst_zip (by omega), schema]
      _ = σ := hf.schema_eq
  · intro c hc
    simp only [Frame.append, List.mem_map] at hc
    obtain ⟨⟨a, b⟩, hab, rfl⟩ := hc
    have ha := hf.length_cells a (List.of_mem_zip hab).1
    have hb := hg.length_cells b (List.of_mem_zip hab).2
    simp [Frame.append, ha, hb]

theorem slice (hf : f.Fits σ) (start count : Nat) : (f.slice start count).Fits σ := by
  constructor
  · rw [← hf.schema_eq]
    simp [schema, Frame.slice]
  · intro c hc
    simp only [Frame.slice, List.mem_map] at hc
    obtain ⟨a, ha, rfl⟩ := hc
    simp [Frame.slice, hf.length_cells a ha]

theorem suffix (hf : f.Fits σ) (start : Nat) : (f.suffix start).Fits σ := hf.slice ..

theorem foldl_append {fs : List Frame} (hf : f.Fits σ) (hfs : ∀ g ∈ fs, g.Fits σ) :
    (fs.foldl Frame.append f).Fits σ := by
  induction fs generalizing f with
  | nil => exact hf
  | cons g fs ih =>
    exact ih (hf.append (hfs g List.mem_cons_self)) fun h hh => hfs h (List.mem_cons_of_mem _ hh)

theorem stack {fs : List Frame} (hfs : ∀ g ∈ fs, g.Fits σ) : (stack σ fs).Fits σ :=
  foldl_append (.empty σ) hfs

/-- Frames without rows are all the same. -/
theorem eq_empty (hf : f.Fits σ) (hh : f.height = 0) : f = Frame.empty σ :=
  hf.ext (.empty σ) hh fun i => by
    have hl := hf.length_cellsAt_le i
    rw [cellsAt_empty, ← List.length_eq_zero_iff]
    omega

end Fits

/-! ### Frames put together and cut apart -/

theorem empty_append (hf : f.Fits σ) : (empty σ).append f = f :=
  ((Fits.empty σ).append hf).ext hf (Nat.zero_add _) fun i => by
    rw [(Fits.empty σ).cellsAt_append hf, cellsAt_empty, List.nil_append]

theorem append_empty (hf : f.Fits σ) : f.append (empty σ) = f :=
  (hf.append (.empty σ)).ext hf rfl fun i => by
    rw [hf.cellsAt_append (.empty σ), cellsAt_empty, List.append_nil]

theorem append_assoc (hf : f.Fits σ) (hg : g.Fits σ) (hh : h.Fits σ) :
    (f.append g).append h = f.append (g.append h) :=
  ((hf.append hg).append hh).ext (hf.append (hg.append hh)) (Nat.add_assoc ..) fun i => by
    rw [(hf.append hg).cellsAt_append hh, hf.cellsAt_append hg, hf.cellsAt_append (hg.append hh),
      hg.cellsAt_append hh, List.append_assoc]

theorem slice_suffix (hf : f.Fits σ) (start place count : Nat) :
    (f.suffix start).slice place count = f.slice (start + place) count := by
  refine ((hf.suffix start).slice place count).ext (hf.slice _ _) ?_ fun i => ?_
  · rw [height_slice, height_slice, height_suffix]
    omega
  · rw [cellsAt_slice, cellsAt_slice, hf.cellsAt_suffix, List.drop_drop]

theorem slice_append_slice (hf : f.Fits σ) (count more : Nat) :
    (f.slice 0 count).append (f.slice count more) = f.slice 0 (count + more) := by
  refine ((hf.slice 0 count).append (hf.slice count more)).ext (hf.slice _ _) ?_ fun i => ?_
  · rw [height_append, height_slice, height_slice, height_slice]
    omega
  · rw [(hf.slice 0 count).cellsAt_append (hf.slice count more), cellsAt_slice, cellsAt_slice,
      cellsAt_slice, List.drop_zero, List.take_add]

/-- Rows that reach to the end are all that there are. -/
theorem slice_all (hf : f.Fits σ) {count : Nat} (hc : f.height ≤ count) : f.slice 0 count = f := by
  refine (hf.slice 0 count).ext hf ?_ fun i => ?_
  · rw [height_slice]
    omega
  · have hl := hf.length_cellsAt_le i
    rw [cellsAt_slice, List.drop_zero, List.take_of_length_le (by omega)]

/-- Rows taken from two frames, one below the other: some of the first, then some of the second. -/
theorem slice_append_eq (hf : f.Fits σ) (hg : g.Fits σ) (start count : Nat) :
    (f.append g).slice start count = (f.slice start count).append
      (g.slice (start - f.height) (count - (f.height - start))) := by
  refine ((hf.append hg).slice _ _).ext ((hf.slice _ _).append (hg.slice _ _)) ?_ fun i => ?_
  · simp only [height_slice, height_append]
    omega
  · have hl := hf.length_cellsAt i
    have hm := hg.length_cellsAt i
    rw [cellsAt_slice, (hf.slice _ _).cellsAt_append (hg.slice _ _), cellsAt_slice, cellsAt_slice,
      hf.cellsAt_append hg]
    split at hl
    next => rw [List.drop_append, List.take_append, List.length_drop, hl]
    next hi =>
      -- behind the last column there are no cells
      rw [if_neg hi] at hm
      rw [List.length_eq_zero_iff.1 hl, List.length_eq_zero_iff.1 hm]
      simp

/-- The first rows of two frames, if the first of them has as many. -/
theorem slice_append (hf : f.Fits σ) (hg : g.Fits σ) {count : Nat} (hc : count ≤ f.height) :
    (f.append g).slice 0 count = f.slice 0 count := by
  have hnone := (hg.slice (0 - f.height) (count - (f.height - 0))).eq_empty (by
    rw [height_slice]
    omega)
  rw [slice_append_eq hf hg, hnone, append_empty (hf.slice _ _)]

theorem suffix_append (hf : f.Fits σ) (hg : g.Fits σ) {start : Nat} (hs : start ≤ f.height) :
    (f.append g).suffix start = (f.suffix start).append g := by
  refine ((hf.append hg).suffix start).ext ((hf.suffix start).append hg) ?_ fun i => ?_
  · rw [height_suffix, height_append, height_append, height_suffix]
    omega
  · have hl := hf.length_cellsAt i
    have hm := hg.length_cellsAt i
    rw [(hf.append hg).cellsAt_suffix, hf.cellsAt_append hg, (hf.suffix start).cellsAt_append hg,
      hf.cellsAt_suffix]
    split at hl
    next => rw [List.drop_append_of_le_length (by omega)]
    next hi =>
      rw [if_neg hi, List.length_eq_zero_iff] at hm
      rw [hm, List.append_nil, List.append_nil]

/-! ### Stacks -/

theorem foldl_append (hf : f.Fits σ) {fs : List Frame} (hfs : ∀ g ∈ fs, g.Fits σ) :
    fs.foldl append f = f.append (stack σ fs) := by
  induction fs generalizing f with
  | nil => exact (append_empty hf).symm
  | cons g fs ih =>
    have hg := hfs g List.mem_cons_self
    have hrest : ∀ h ∈ fs, h.Fits σ := fun h hh => hfs h (List.mem_cons_of_mem _ hh)
    rw [List.foldl_cons, ih (hf.append hg) hrest, append_assoc hf hg (.stack hrest)]
    exact congrArg f.append ((ih hg hrest).symm.trans (by
      rw [stack, List.foldl_cons, empty_append hg]))

theorem stack_cons (hf : f.Fits σ) {fs : List Frame} (hfs : ∀ g ∈ fs, g.Fits σ) :
    stack σ (f :: fs) = f.append (stack σ fs) := by
  rw [stack, List.foldl_cons, empty_append hf, foldl_append hf hfs]

theorem stack_append {fs gs : List Frame} (hfs : ∀ g ∈ fs, g.Fits σ) (hgs : ∀ g ∈ gs, g.Fits σ) :
    stack σ (fs ++ gs) = (stack σ fs).append (stack σ gs) := by
  rw [stack, List.foldl_append, ← foldl_append (.stack hfs) hgs, stack]

theorem height_stack (σ : List (String × DType)) (fs : List Frame) :
    (stack σ fs).height = (fs.map height).sum := by
  have key : ∀ f : Frame, (fs.foldl append f).height = f.height + (fs.map height).sum := by
    induction fs with
    | nil => exact fun f => rfl
    | cons g fs ih =>
      intro f
      rw [List.foldl_cons, ih, height_append, List.map_cons, List.sum_cons, Nat.add_assoc]
  rw [stack, key, empty, Nat.zero_add]

/-! ### Parts of one height -/

/-- The first parts of a frame, each of the same number of rows unless the frame ends before. -/
def cuts (size : Nat) (f : Frame) (count : Nat) : List Frame :=
  (List.range count).map fun k => f.slice (k * size) size

theorem cuts_succ (hf : f.Fits σ) (size count : Nat) :
    f.cuts size (count + 1) = f.slice 0 size :: (f.suffix size).cuts size count := by
  simp only [cuts, List.range_succ_eq_map, List.map_cons, List.map_map, Nat.zero_mul,
    List.cons.injEq, true_and, List.map_inj_left, Function.comp_apply]
  intro k _
  rw [slice_suffix hf, Nat.add_comm size, Nat.succ_mul]

theorem Fits.cuts (hf : f.Fits σ) (size count : Nat) : ∀ g ∈ f.cuts size count, g.Fits σ := by
  intro g hg
  simp only [Frame.cuts, List.mem_map] at hg
  obtain ⟨k, _, rfl⟩ := hg
  exact hf.slice ..

/-- A frame cut into parts, and put together again. -/
theorem stack_cuts (hf : f.Fits σ) (size count : Nat) :
    stack σ (f.cuts size count) = f.slice 0 (count * size) := by
  induction count generalizing f with
  | zero => exact ((hf.slice 0 _).eq_empty (by rw [height_slice]; omega)).symm
  | succ count ih =>
    rw [cuts_succ hf, stack_cons (hf.slice ..) ((hf.suffix size).cuts size count),
      ih (hf.suffix size), slice_suffix hf, Nat.add_zero, slice_append_slice hf, Nat.succ_mul,
      Nat.add_comm]

theorem cuts_concat (size : Nat) (f : Frame) (count : Nat) :
    f.cuts size (count + 1) = f.cuts size count ++ [f.slice (count * size) size] := by
  simp [cuts, List.range_succ]

theorem height_of_mem_cuts {size count : Nat} (hc : count * size ≤ f.height) :
    ∀ b ∈ f.cuts size count, b.height = size := by
  intro b hb
  simp only [cuts, List.mem_map, List.mem_range] at hb
  obtain ⟨k, hk, rfl⟩ := hb
  have hle : (k + 1) * size ≤ count * size := Nat.mul_le_mul_right size hk
  rw [Nat.succ_mul] at hle
  rw [height_slice]
  omega

/-- Batches hold the rows of a frame in order, as many each as one size says; only the last may
hold fewer, and none is empty. -/
structure SplitInto (whole : Frame) (σ : List (String × DType)) (size : Nat)
    (batches : List Frame) : Prop where
  fits : ∀ b ∈ batches, b.Fits σ
  stack_eq : stack σ batches = whole
  height_eq : ∀ b ∈ batches.dropLast, b.height = size
  height_last : ∀ b ∈ batches.getLast?, 0 < b.height ∧ b.height ≤ size
  length_eq : batches.length = (whole.height + size - 1) / size

theorem splitInto_cuts (hf : f.Fits σ) {size : Nat} (hs : 0 < size) :
    f.SplitInto σ size (f.cuts size ((f.height + size - 1) / size)) := by
  have hdiv : size * ((f.height + size - 1) / size) + (f.height + size - 1) % size =
    f.height + size - 1 := Nat.div_add_mod ..
  have hmod : (f.height + size - 1) % size < size := Nat.mod_lt _ hs
  rw [Nat.mul_comm] at hdiv
  have hstack : stack σ (f.cuts size ((f.height + size - 1) / size)) = f := by
    rw [stack_cuts hf, slice_all hf (by omega)]
  -- the batches in front of the last one end inside the frame
  refine ⟨hf.cuts _ _, hstack, ?_, ?_, by simp [cuts]⟩ <;> clear hstack
  all_goals
    generalize (f.height + size - 1) / size = count at hdiv ⊢
    rcases count with _ | count
    · simp [cuts]
    rw [Nat.succ_mul] at hdiv
    rw [cuts_concat]
  · rw [List.dropLast_concat]
    exact height_of_mem_cuts (by omega)
  · rw [List.getLast?_concat]
    rintro b ⟨⟩
    rw [height_slice]
    omega

end Frame

end FocusBilling
