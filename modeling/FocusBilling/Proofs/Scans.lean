import FocusBilling.Proofs.Batches
import FocusBilling.Proofs.Stacking

/-!
# Data all at once and batch by batch

Batches are cut from data without a look at what was cut before.  Together they are the rows that
one has who reads everything at once.

* `Frame.toTable_append`, `Frame.toTable_slice`, `Frame.toTable_stack` : tables of frames are put
  together and cut apart as the frames are;
* `Table.Fits.exists_frames` : the frame of tables below one another is made of their frames;
* `DataSource.cut_eq` : rows taken from files one below the other are rows of the whole;
* `Csv.schema?_proper` : the columns that a header names;
* `DataSource.Holds` : the rows of data that can be read at once;
* `DataSource.Holds.batches_eq` : **batches are the rows of data**, from one place on after the
  other.
-/

namespace FocusBilling

open Files (Node)

/-! ### Tables of frames -/

namespace Frame

variable {σ : List (String × DType)} {f : Frame}

theorem toTable_injective : Function.Injective toTable := by
  rintro ⟨m, cs⟩ ⟨n, ds⟩ h
  obtain ⟨hheight, hcolumns⟩ := Table.mk.inj h
  have hcolumn : Function.Injective fun c : Column =>
      (c.name, (⟨c.dtype, .ok c.cells⟩ : Deferred)) := by
    rintro ⟨_, _, _⟩ ⟨_, _, _⟩ h
    cases h
    rfl
  exact Frame.mk.injEq .. ▸ ⟨hheight, hcolumn.list_map hcolumns⟩

theorem schema_toTable (f : Frame) : f.toTable.schema = f.schema := by
  simp [Table.schema, toTable, schema]

theorem toTable_append (f g : Frame) : (f.append g).toTable = f.toTable.append g.toTable := by
  simp only [toTable, append, Table.append, List.zip_map, List.map_map]
  rfl

theorem toTable_slice (f : Frame) (start count : Nat) :
    (f.slice start count).toTable = f.toTable.slice start count := by
  simp only [toTable, slice, Table.slice, List.map_map]
  rfl

theorem toTable_foldl_append (f : Frame) (fs : List Frame) :
    (fs.foldl append f).toTable = (fs.map toTable).foldl Table.append f.toTable := by
  induction fs generalizing f with
  | nil => rfl
  | cons g fs ih => rw [List.foldl_cons, ih, toTable_append, List.map_cons, List.foldl_cons]

theorem toTable_stack (σ : List (String × DType)) (fs : List Frame) :
    (stack σ fs).toTable = (fs.map toTable).foldl Table.append (empty σ).toTable :=
  toTable_foldl_append _ fs

end Frame

namespace Table

variable {σ : List (String × DType)} {t u : Table} {f : Frame}

/-- A table has the columns of a schema, and those that can be computed are as long as the table is
high. -/
structure Fits (t : Table) (schema : List (String × DType)) : Prop where
  schema_eq : t.schema = schema
  length_cells : ∀ c ∈ t.columns, ∀ cells, c.2.cells = .ok cells → cells.length = t.height

namespace Fits

theorem of_frame (hf : f.Fits σ) : f.toTable.Fits σ := by
  refine ⟨(f.schema_toTable).trans hf.schema_eq, fun c hc cells hcells => ?_⟩
  obtain ⟨d, hd, rfl⟩ := List.mem_map.1 hc
  obtain rfl : d.cells = cells := Except.ok.inj hcells
  exact hf.length_cells d hd

theorem collect (ht : t.Fits σ) (h : t.collect = .ok f) : f.Fits σ := by
  obtain rfl := toTable_of_collect h
  refine ⟨(f.schema_toTable).symm.trans ht.schema_eq, fun c hc => ?_⟩
  exact ht.length_cells _ (List.mem_map_of_mem hc) _ rfl

/-- The rows of a table below those of another. -/
theorem stacked (ht : t.Fits σ) (hu : u.Fits σ) :
    Stacked t.height u.height t u (t.append u) := by
  refine ⟨rfl, rfl, rfl, ?_⟩
  have hschema := ht.schema_eq.trans hu.schema_eq.symm
  have hlength := ht.length_cells
  have hlength' := hu.length_cells
  obtain ⟨m, cs⟩ := t
  obtain ⟨n, ds⟩ := u
  simp only [schema, append] at hschema hlength hlength' ⊢
  clear ht hu
  induction cs generalizing ds with
  | nil =>
    obtain rfl := List.map_eq_nil_iff.1 hschema.symm
    exact .nil
  | cons c cs ih =>
    obtain ⟨d, rest, rfl, hkind, hrest⟩ := List.map_eq_cons_iff.1 hschema.symm
    obtain ⟨name, dtype, x⟩ := c
    obtain ⟨_, _, y⟩ := d
    cases hkind
    have hx : ∀ cells, x = .ok cells → cells.length = m := hlength _ List.mem_cons_self
    have hy : ∀ cells, y = .ok cells → cells.length = n := hlength' _ List.mem_cons_self
    refine .cons (.mk (.mk ⟨fun a ha => ?_, fun a b ha hb => ?_⟩)) (ih
      (fun c hc => hlength c (List.mem_cons_of_mem _ hc)) rest
      (fun c hc => hlength' c (List.mem_cons_of_mem _ hc)) hrest.symm)
    · simp only [bind_eq_ok, pure_eq_ok] at ha
      obtain ⟨a, ha, b, hb, rfl⟩ := ha
      exact ⟨a, b, ha, hb, hx a ha, hy b hb, rfl⟩
    · have hab : (do pure ((← x) ++ (← y)) : Except FrameError (List Cell)) = .ok (a ++ b) := by
        simp [ha, hb]
      exact ⟨a ++ b, hab, hx a ha, hy b hb, rfl⟩

theorem append (ht : t.Fits σ) (hu : u.Fits σ) : (t.append u).Fits σ := by
  refine ⟨(ht.stacked hu).schema_eq.1.symm.trans ht.schema_eq, fun c hc cells hcells => ?_⟩
  obtain ⟨⟨⟨n, a⟩, m, b⟩, hab, rfl⟩ := List.mem_map.1 hc
  obtain ⟨ha, hb⟩ := List.of_mem_zip hab
  simp only [appendCells, bind_eq_ok, pure_eq_ok] at hcells
  obtain ⟨x, hx, y, hy, rfl⟩ := hcells
  have hfirst := ht.length_cells _ ha x hx
  have hsecond := hu.length_cells _ hb y hy
  rw [List.length_append, hfirst, hsecond, Table.append]

/-- The frame of tables below one another is made of the frames of the tables. -/
theorem exists_frames {ts : List Table} {whole : Frame} (ht : t.Fits σ) (hts : ∀ u ∈ ts, u.Fits σ)
    (h : (ts.foldl Table.append t).collect = .ok whole) :
    ∃ f fs, t.collect = .ok f ∧
      List.Forall₂ (fun u g => u.collect = .ok g ∧ g.Fits σ) ts fs ∧
      whole = fs.foldl Frame.append f := by
  induction ts generalizing t with
  | nil => exact ⟨whole, [], h, .nil, rfl⟩
  | cons u ts ih =>
    have hu := hts u List.mem_cons_self
    have hrest : ∀ v ∈ ts, v.Fits σ := fun v hv => hts v (List.mem_cons_of_mem _ hv)
    obtain ⟨_, fs, hboth, hfs, rfl⟩ := ih (ht.append hu) hrest h
    obtain ⟨f, g, hf, hg, rfl, -⟩ := (Frame.stacked_collect (ht.stacked hu)).split _ hboth
    exact ⟨f, g :: fs, hf, .cons ⟨hg, hu.collect hg⟩ hfs, rfl⟩

/-- What a schema asks for of a frame. -/
theorem conformed (hf : ∀ c ∈ f.columns, c.cells.length = f.height) :
    (Table.conformed σ f).Fits σ := by
  refine ⟨?_, fun c hc cells hcells => ?_⟩
  · simp [schema, Table.conformed, Function.comp_def]
  · obtain ⟨⟨n, d⟩, -, rfl⟩ := List.mem_map.1 hc
    simp only at hcells
    split at hcells
    · split at hcells
      next c hc =>
        obtain rfl := Except.ok.inj hcells
        exact hf c (List.mem_of_find?_eq_some hc)
      next => cases hcells
    · cases hcells

end Fits

end Table

/-! ### Rows of files below one another -/

namespace DataSource

variable {σ : List (String × DType)} {frames parts : List Frame}

/-- Frames in files, and the same with the columns that a schema asks for. -/
def AreConformed (σ : List (String × DType)) (frames parts : List Frame) : Prop :=
  List.Forall₂ (fun f part => part.toTable = Table.conformed σ f ∧ part.Fits σ) frames parts

theorem AreConformed.fits (h : AreConformed σ frames parts) : ∀ part ∈ parts, part.Fits σ := by
  induction h with
  | nil => nofun
  | cons hf _ ih => exact List.forall_mem_cons.2 ⟨hf.2, ih⟩

theorem AreConformed.height_eq (h : AreConformed σ frames parts) :
    (frames.map Frame.height).sum = (Frame.stack σ parts).height := by
  rw [Frame.height_stack]
  induction h with
  | nil => rfl
  | cons hf _ ih =>
    have hheight := congrArg Table.height hf.1
    rw [List.map_cons, List.map_cons, List.sum_cons, List.sum_cons, ih]
    exact congrArg (· + _) hheight.symm

/-- The rows from one position on, at most so many, of a frame that starts at an offset. -/
def window (offset start count : Nat) (f : Frame) : Frame :=
  f.slice (start - offset) (start + count - offset - (start - offset))

theorem window_append {f g : Frame} (hf : f.Fits σ) (hg : g.Fits σ) (offset start count : Nat) :
    window offset start count (f.append g) =
      (window offset start count f).append (window (offset + f.height) start count g) := by
  have hstart : start - offset - f.height = start - (offset + f.height) := by omega
  have hcount : start + count - offset - (start - offset) - (f.height - (start - offset)) =
      start + count - (offset + f.height) - (start - (offset + f.height)) := by omega
  rw [window, Frame.slice_append_eq hf hg, hstart, hcount]
  rfl

/-- One file more in the loop of a cut. -/
def cutNext (σ : List (String × DType)) (start count : Nat) (found : List Table × Nat) (f : Frame) :
    List Table × Nat :=
  let first := start - found.2
  let t := (Table.conformed σ f).slice first (start + count - found.2 - first)
  (if t.height = 0 then found.1 else found.1 ++ [t], found.2 + f.height)

theorem cut_eq_foldl (first : Frame) (frames : List Frame) (start count : Nat) :
    cut first frames start count =
      (frames.foldl (cutNext first.schema start count) ([], 0)).1.foldl Table.append
        (Frame.empty first.schema).toTable := rfl

/-- One file more in the loop of a cut gives its rows. -/
theorem exists_cutNext {f part : Frame} (hpart : part.toTable = Table.conformed σ f)
    (hfits : part.Fits σ) (start count : Nat) {found : List Frame} (hfound : ∀ g ∈ found, g.Fits σ)
    (offset : Nat) :
    ∃ next : List Frame, cutNext σ start count (found.map Frame.toTable, offset) f =
        (next.map Frame.toTable, offset + part.height) ∧
      (∀ g ∈ next, g.Fits σ) ∧
      Frame.stack σ next = (Frame.stack σ found).append (window offset start count part) := by
  have hrows : (window offset start count part).Fits σ := hfits.slice _ _
  have hheight : f.height = part.height := (congrArg Table.height hpart).symm
  have htable : (Table.conformed σ f).slice (start - offset)
      (start + count - offset - (start - offset)) = (window offset start count part).toTable := by
    rw [← hpart, window, Frame.toTable_slice]
  simp only [cutNext, htable, hheight]
  split
  next hzero =>
    -- a file without such rows is left out
    refine ⟨found, rfl, hfound, ?_⟩
    rw [hrows.eq_empty hzero, Frame.append_empty (.stack hfound)]
  next =>
    have hone : ∀ g ∈ [window offset start count part], g.Fits σ := by simpa using hrows
    refine ⟨found ++ [window offset start count part], by simp, fun g hg => ?_, ?_⟩
    · exact (List.mem_append.1 hg).elim (hfound g) (hone g)
    · have hlast : Frame.stack σ [window offset start count part] =
          window offset start count part := Frame.empty_append hrows
      rw [Frame.stack_append hfound hone, hlast]

/-- The loop of a cut gives the rows of all files. -/
theorem exists_foldl_cutNext (h : AreConformed σ frames parts) (start count : Nat)
    {found : List Frame} (hfound : ∀ g ∈ found, g.Fits σ) (offset : Nat) :
    ∃ last : List Frame,
      (frames.foldl (cutNext σ start count) (found.map Frame.toTable, offset)).1 =
        last.map Frame.toTable ∧
      Frame.stack σ last =
        (Frame.stack σ found).append (window offset start count (.stack σ parts)) := by
  induction h generalizing found offset with
  | nil =>
    have hnone : window offset start count (Frame.stack σ []) = Frame.empty σ :=
      ((Frame.Fits.empty σ).slice _ _).eq_empty (by simp [Frame.slice, Frame.empty])
    exact ⟨found, rfl, by rw [hnone, Frame.append_empty (.stack hfound)]⟩
  | @cons f part frames parts hf hparts ih =>
    obtain ⟨hpart, hfits⟩ := hf
    have hrest := AreConformed.fits hparts
    have hrows : (window offset start count part).Fits σ := hfits.slice _ _
    have hlater : (window (offset + part.height) start count (.stack σ parts)).Fits σ :=
      (Frame.Fits.stack hrest).slice _ _
    obtain ⟨next, hnext, hnextFits, hstack⟩ :=
      exists_cutNext hpart hfits start count hfound offset
    obtain ⟨last, hlast, hstack'⟩ := ih hnextFits (offset + part.height)
    refine ⟨last, ?_, ?_⟩
    · rw [List.foldl_cons, hnext, hlast]
    · rw [hstack', hstack, Frame.append_assoc (.stack hfound) hrows hlater,
        Frame.stack_cons hfits hrest, window_append hfits (.stack hrest)]

/-- **Rows taken from files one below the other are rows of the whole**, wherever they start and
however many they are. -/
theorem cut_eq {first : Frame} (h : AreConformed first.schema frames parts) (start count : Nat) :
    cut first frames start count =
      ((Frame.stack first.schema parts).slice start count).toTable := by
  have hnone : ∀ g ∈ ([] : List Frame), g.Fits first.schema := nofun
  obtain ⟨last, hloop, hstack⟩ := exists_foldl_cutNext h start count hnone 0
  have hfits : (Frame.stack first.schema parts).Fits first.schema := .stack h.fits
  have hall : window 0 start count (Frame.stack first.schema parts) =
      (Frame.stack first.schema parts).slice start count := by
    rw [window, Nat.sub_zero, Nat.sub_zero, Nat.add_sub_cancel_left]
  have hempty : Frame.stack first.schema [] = Frame.empty first.schema := rfl
  rw [hempty, hall, Frame.empty_append (hfits.slice _ _)] at hstack
  rw [cut_eq_foldl]
  rw [List.map_nil] at hloop
  rw [hloop, ← Frame.toTable_stack, hstack]

/-- All files below one another, if they can be read. -/
theorem exists_conformed {root : Node} {s : DataSource} {first whole : Frame} {others : List Frame}
    (hframes : s.frames? root = some (first, others))
    (hlength : ∀ f ∈ first :: others, ∀ c ∈ f.columns, c.cells.length = f.height)
    (hscan : s.scanParquet root = some whole) :
    ∃ parts, AreConformed first.schema (first :: others) parts ∧
      whole = .stack first.schema parts := by
  have hcollect : (((first :: others).map (Table.conformed first.schema)).foldl Table.append
      (Frame.empty first.schema).toTable).collect = .ok whole := by
    simp only [scanParquet, hframes, Option.bind_eq_bind, Option.bind_some] at hscan
    obtain ⟨_, hcollect, rfl⟩ := exists_of_map_toOption (f := id) (by simpa using hscan)
    exact hcollect
  have htables : ∀ t ∈ (first :: others).map (Table.conformed first.schema),
      t.Fits first.schema := by
    intro t ht
    obtain ⟨f, hf, rfl⟩ := List.mem_map.1 ht
    exact .conformed (hlength f hf)
  obtain ⟨start, parts, hstart, hparts, rfl⟩ :=
    (Table.Fits.of_frame (.empty first.schema)).exists_frames htables hcollect
  obtain rfl : start = Frame.empty first.schema :=
    Frame.toTable_injective (Table.toTable_of_collect hstart)
  refine ⟨parts, ?_, rfl⟩
  refine (List.forall₂_map_left_iff.1 hparts).imp fun f part hpart => ?_
  exact ⟨Table.toTable_of_collect hpart.1, hpart.2⟩

end DataSource

/-! ### Columns of separated values -/

namespace Csv

variable {σ known : List (String × DType)}

theorem fields_ne_nil (line : List Char) : fields line ≠ [] := by
  rw [fields, fieldsWithin]
  split <;> simp

theorem uniqueNames_ne_nil {seen names : List String} (h : names ≠ []) :
    uniqueNames seen names ≠ [] := by
  cases names with
  | nil => exact absurd rfl h
  | cons n names => simp [uniqueNames]

/-- A type for a column that is known already counts in place of the earlier one. -/
def putType (known : List (String × DType)) (c : String × DType) : List (String × DType) :=
  match known.findIdx? fun k => k.1 == c.1 with
  | some i => known.set i c
  | none => known ++ [c]

theorem putType_ne_nil (known : List (String × DType)) (c : String × DType) :
    putType known c ≠ [] := by
  rw [putType]
  split
  next i hi =>
    obtain ⟨hlt, -⟩ := List.findIdx?_eq_some_iff_getElem.1 hi
    have hpos := Nat.lt_of_le_of_lt (Nat.zero_le i) hlt
    rw [← List.length_pos_iff, List.length_set]
    exact hpos
  next => simp

theorem nodup_putType (h : (known.map (·.1)).Nodup) (c : String × DType) :
    ((putType known c).map (·.1)).Nodup := by
  rw [putType]
  split
  next i hi =>
    -- the name at the place stays
    obtain ⟨hlt, hname, -⟩ := List.findIdx?_eq_some_iff_getElem.1 hi
    have hnames : (known.set i c).map (·.1) = known.map (·.1) := calc
      (known.set i c).map (·.1) = (known.set i known[i]).map (·.1) := by
        rw [List.map_set, List.map_set, beq_iff_eq.1 hname]
      _ = known.map (·.1) := by rw [List.set_getElem_self]
    rw [hnames]
    exact h
  next hnone =>
    rw [List.findIdx?_eq_none_iff] at hnone
    have hnew : c.1 ∉ known.map (·.1) := fun hmem => by
      obtain ⟨k, hk, hname⟩ := List.mem_map.1 hmem
      simpa [hname] using hnone k hk
    rw [List.map_append, List.nodup_append]
    refine ⟨h, by simp, fun a ha b hb hab => hnew ?_⟩
    obtain rfl : b = c.1 := by simpa using hb
    exact hab ▸ ha

theorem putTypes_proper {columns : List (String × DType)} (h : (known.map (·.1)).Nodup)
    (hne : known ≠ [] ∨ columns ≠ []) :
    columns.foldl putType known ≠ [] ∧ ((columns.foldl putType known).map (·.1)).Nodup := by
  induction columns generalizing known with
  | nil => exact ⟨hne.resolve_right (· rfl), h⟩
  | cons c columns ih => exact ih (nodup_putType h c) (.inl (putType_ne_nil known c))

/-- A header names columns, each once. -/
theorem schema?_proper {rows : Option Nat} {text : List Char} (h : schema? rows text = some σ) :
    σ ≠ [] ∧ (σ.map (·.1)).Nodup := by
  rw [schema?] at h
  split at h
  next => cases h
  next first rest _ =>
    obtain rfl := Option.some.inj h
    refine putTypes_proper .nil (.inr ?_)
    have hheader : header first ≠ [] := uniqueNames_ne_nil (by simpa using fields_ne_nil _)
    simpa [← List.length_eq_zero_iff] using hheader

end Csv

/-! ### The rows of data -/

/-- What every table is: the names of its columns differ, each column is as long as the table is
high, and without columns there are no rows. -/
structure Frame.Proper (f : Frame) : Prop where
  distinct : f.names.Nodup
  length_cells : ∀ c ∈ f.columns, c.cells.length = f.height
  height_eq : f.columns = [] → f.height = 0

namespace DataSource

variable {root : Node} {s : DataSource} {whole : Frame}

/-- The rows of data that can be read at once: of separated values those of all chunks, of Parquet
files those of all files, one below the other. -/
inductive Holds (root : Node) (s : DataSource) : Frame → Prop
  | csv {text columns chunks} : s.format = .csv → s.text? root = some text →
      Csv.schema? s.options.inferRows text = some columns →
      Csv.read columns text = chunks.map some → Holds root s (.stack columns chunks)
  | parquet {first others whole} : s.format = .parquet → s.frames? root = some (first, others) →
      (∀ f ∈ first :: others, f.Proper) → s.scanParquet root = some whole → whole.Proper →
      Holds root s whole

/-- The chunks of separated values have the columns of the header. -/
theorem fits_of_read {columns : List (String × DType)} {text : List Char} {chunks : List Frame}
    (h : Csv.read columns text = chunks.map some) : ∀ f ∈ chunks, f.Fits columns := by
  intro f hf
  have hmem : some f ∈ Csv.read columns text := h ▸ List.mem_map_of_mem hf
  obtain ⟨chunk, -, hchunk⟩ := List.mem_map.1 hmem
  exact Csv.fits_of_frame? hchunk

namespace Holds

theorem proper (h : s.Holds root whole) : whole.Proper := by
  cases h with
  | parquet _ _ _ _ hwhole => exact hwhole
  | @csv text columns chunks _ _ hcolumns hchunks =>
    obtain ⟨hne, hdistinct⟩ := Csv.schema?_proper hcolumns
    have hfits : (Frame.stack columns chunks).Fits columns := .stack (fits_of_read hchunks)
    refine ⟨?_, hfits.length_cells, fun hnone => ?_⟩
    · rw [← Frame.names_toTable, hfits.names_toTable]
      exact hdistinct
    · have hlength := hfits.length_columns
      rw [hnone] at hlength
      exact absurd (List.length_eq_zero_iff.1 hlength.symm) hne

/-- Chunks that can all be read. -/
theorem delivered_chunks (chunks : List Frame) :
    CsvChunks.delivered (chunks.map fun f => (.ok [f] : Except InputError (List Frame))) = chunks ∧
      CsvChunks.fault? (chunks.map fun f => (.ok [f] : Except InputError (List Frame))) = none := by
  induction chunks with
  | nil => exact ⟨rfl, rfl⟩
  | cons f chunks ih =>
    obtain ⟨hdelivered, hfault⟩ := ih
    simp [CsvChunks.delivered, CsvChunks.fault?, hdelivered, hfault]

/-- Chunks of which none fails can all be read. -/
theorem exists_chunks_of_fault? {read : List (Option Frame)}
    (h : CsvChunks.fault? (read.map fun f =>
      match f with
      | some f => (.ok [f] : Except InputError (List Frame))
      | none => .error .tableUnreadable) = none) :
    ∃ chunks : List Frame, read = chunks.map some := by
  induction read with
  | nil => exact ⟨[], rfl⟩
  | cons f read ih =>
    cases f with
    | none => simp [CsvChunks.fault?] at h
    | some f =>
      obtain ⟨chunks, rfl⟩ := ih (by simpa [CsvChunks.fault?] using h)
      exact ⟨f :: chunks, rfl⟩

/-- Separated values hold rows if no batch fails. -/
theorem exists_of_csv (hformat : s.format = .csv) (hok : ∀ b ∈ s.batches root, ∃ t, b = .ok t) :
    ∃ whole, s.Holds root whole := by
  cases hchunks : s.chunks? root with
  | none =>
    have hall : s.batches root = [.error .tableUnreadable] := by
      simp only [batches, reader, hformat, hchunks]
      rfl
    obtain ⟨t, ht⟩ := hok (.error .tableUnreadable) (hall ▸ List.mem_cons_self)
    cases ht
  | some deliveries =>
    obtain ⟨σ, hfits⟩ := fits_delivered hchunks
    have hall : s.batches root = BatchReader.itemsOf s.options.size
        (.stack σ (CsvChunks.delivered deliveries)) (CsvChunks.fault? deliveries) := by
      simp only [batches, reader, hformat, hchunks]
      exact (BatchReader.yields_chunks s.options.size_pos deliveries hfits).2
    have hfault : CsvChunks.fault? deliveries = none := by
      cases hfault : CsvChunks.fault? deliveries with
      | none => rfl
      | some e =>
        obtain ⟨t, ht⟩ := hok (.error e) (by simp [hall, BatchReader.itemsOf, hfault])
        cases ht
    simp only [chunks?, Option.bind_eq_bind, Option.bind_eq_some_iff] at hchunks
    obtain ⟨text, htext, columns, hcolumns, hdeliveries⟩ := hchunks
    obtain rfl := Option.some.inj hdeliveries
    obtain ⟨chunks, hread⟩ := exists_chunks_of_fault? hfault
    exact ⟨_, .csv hformat htext hcolumns hread⟩

/-- **Batches are the rows of data**, from one place on after the other, if no batch fails. -/
theorem batches_eq (h : s.Holds root whole) (hok : ∀ b ∈ s.batches root, ∃ t, b = .ok t) :
    s.batches root =
      (whole.cuts s.options.size ((whole.height + s.options.size - 1) / s.options.size)).map
        fun b => .ok b.toTable := by
  have hs := s.options.size_pos
  have hm := s.options.size_le
  cases h with
  | @csv text columns chunks hformat htext hcolumns hchunks =>
    have hdeliveries : s.chunks? root = some (chunks.map fun f => .ok [f]) := by
      simp [chunks?, htext, hcolumns, hchunks, Function.comp_def]
    obtain ⟨hdelivered, hfault⟩ := delivered_chunks chunks
    have hall := (BatchReader.yields_chunks hs _ (hdelivered.symm ▸ fits_of_read hchunks)).2
    rw [hdelivered, hfault] at hall
    simpa [batches, reader, hformat, hdeliveries, BatchReader.itemsOf, BatchReader.count] using hall
  | @parquet first others whole hformat hframes hproper hscan hwhole =>
    obtain ⟨parts, hparts, rfl⟩ := exists_conformed hframes
      (fun f hf => (hproper f hf).length_cells) hscan
    simp only [batches, reader, hformat, hframes, hparts.height_eq] at hok ⊢
    split at hok
    next =>
      -- too many rows to count
      have hall : (BatchReader.start s.options.size (.error InputError.tableUnreadable)).all =
          [.error .tableUnreadable] := rfl
      rw [hall] at hok
      obtain ⟨t, ht⟩ := hok _ List.mem_cons_self
      cases ht
    next hrows =>
      rw [if_neg hrows]
      simp only [cut_eq hparts]
      refine (BatchReader.yields_frame hs hm ?_).2
      simp only [LoadOptions.maxSize] at hrows
      omega

end Holds

end DataSource

end FocusBilling
