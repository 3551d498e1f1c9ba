import FocusBilling.Proofs.Exporting
import FocusBilling.Proofs.FilledColumns
import FocusBilling.Proofs.Projections
import FocusBilling.Proofs.Scans
import FocusBilling.Proofs.SegmentOrder

/-!
# Segments that are read back

An export writes its batches to files of one folder, and all files below the folder are read as one
table.

* `Frame.stacked?`, `DataSource.scanParquet_eq` : frames of one schema, one below the other;
* `Table.schema_select`, `SegmentExport.schema_evaluate` : projections of one schema have one
  schema;
* `SegmentExport.Filed` : the invariant, that a folder holds the frames written so far as segments;
* `Filed.write`, `Filed.exists_writeAll` : one more batch is one more segment;
* `SegmentExport.writeAll_scan` : **an export is read back as it was written**, by a literal path
  and from at most a hundred thousand segments;
* `SegmentExport.scan_reorders` : what happens otherwise.
-/

namespace FocusBilling

open Files (Node Content)

/-! ### Frames below one another -/

/-- Frames one below the other with the columns of the first, if there is one. -/
def Frame.stacked? (fs : List Frame) : Option Frame := fs.head?.map fun f => .stack f.schema fs

/-- A frame has the columns that its own schema asks for. -/
theorem Table.conformed_eq {σ : List (String × DType)} {f : Frame} (h : f.schema = σ)
    (hdistinct : f.names.Nodup) : Table.conformed σ f = f.toTable := by
  obtain rfl := h
  rw [conformed, Frame.toTable, Frame.schema, List.map_map]
  refine congrArg (Table.mk f.height) (List.map_congr_left fun c hc => ?_)
  have hfind : f.columns.find? (fun d => d.name == c.name) = some c :=
    (find?_named_eq_some_iff hdistinct hc).2 rfl
  simp only [Function.comp_apply, hfind]
  rw [if_pos]
  -- the frame has the columns of its schema
  simp only [List.length_map, beq_self_eq_true, Bool.true_and, List.all_map, List.all_eq_true,
    Function.comp_apply, List.any_eq_true]
  exact fun d hd => ⟨d, hd, by simp⟩

namespace DataSource

/-- All rows of files with frames of one schema. -/
theorem scanParquet_eq {root : Node} {s : DataSource} {fs : List Frame}
    (hcontents : s.contents root = some (fs.map .table))
    (hschema : ∀ f ∈ fs, ∀ g ∈ fs, f.schema = g.schema) (hdistinct : ∀ f ∈ fs, f.names.Nodup) :
    s.scanParquet root = Frame.stacked? fs := by
  have hframes : (fs.map Content.table).mapM frameOf? = some fs := by
    rw [List.mapM_map]
    exact (mapM_eq_some_map (g := id) fun _ _ => rfl).trans (congrArg some fs.map_id)
  cases fs with
  | nil =>
    simp only [scanParquet, frames?, hcontents]
    rfl
  | cons f fs =>
    have hframes : s.frames? root = some (f, fs) := by
      simp only [frames?, hcontents, Option.bind_eq_bind, Option.bind_some, hframes]
      rfl
    have hparts : (f :: fs).map (Table.conformed f.schema) = (f :: fs).map Frame.toTable := by
      refine List.map_congr_left fun g hg => Table.conformed_eq ?_ (hdistinct g hg)
      exact hschema g hg f List.mem_cons_self
    have hcollect : (((f :: fs).map (Table.conformed f.schema)).foldl Table.append
        (Frame.empty f.schema).toTable).collect = .ok (.stack f.schema (f :: fs)) := by
      rw [hparts, ← Frame.toTable_stack]
      exact Table.collect_eq_ok.2 rfl
    simp only [scanParquet, hframes, Option.bind_eq_bind, Option.bind_some, hcollect]
    rfl

end DataSource

/-! ### Projections of one schema -/

namespace Table

variable {t t' u u' : Table}

/-- The schema of a table tells the types of the columns that are chosen. -/
theorem types_of_get {names : List String} {columns : List (String × Deferred)}
    (h : names.mapM (fun n => do pure (n, ← t.get n)) = Except.ok columns) :
    (columns.map fun c => (c.1, c.2.dtype)).map some =
      names.map fun n => (t.schema.lookup n).map fun d => (n, d) := by
  rw [List.map_map]
  refine map_eq_of_mapM h fun n c hc => ?_
  simp only [bind_eq_ok, pure_eq_ok] at hc
  obtain ⟨d, hd, rfl⟩ := hc
  rw [lookup_schema, find?_of_get hd]
  rfl

/-- Selections of the same columns from tables of one schema have one schema. -/
theorem schema_select {names : List String} (h : t.schema = t'.schema)
    (hu : t.select names = .ok u) (hu' : t'.select names = .ok u') : u.schema = u'.schema := by
  simp only [select, bind_eq_ok, ofColumns_eq_ok] at hu hu'
  obtain ⟨found, hfound, columns, hcolumns, -, rfl⟩ := hu
  obtain ⟨found', hfound', columns', hcolumns', -, rfl⟩ := hu'
  rw [matching_congr h, hfound'] at hfound
  obtain rfl := Except.ok.inj hfound
  have hinjective : Function.Injective (some : String × DType → _) := fun _ _ => Option.some.inj
  have htypes := types_of_get hcolumns
  rw [h, ← types_of_get hcolumns'] at htypes
  exact hinjective.list_map htypes

end Table

namespace SegmentExport

variable {x : SegmentExport} {t t' : Table} {targets targets' : List String} {f g : Frame}

theorem schema_evaluate (h : t.schema = t'.schema)
    (hnames : projection x.options targets t.names = projection x.options targets' t'.names)
    (hf : x.evaluate t targets = .ok f) (hg : x.evaluate t' targets' = .ok g) :
    f.schema = g.schema := by
  obtain ⟨u, hu, hf⟩ := bind_eq_ok.1 hf
  obtain ⟨u', hu', hg⟩ := bind_eq_ok.1 hg
  rw [← f.schema_toTable, ← g.schema_toTable, Table.toTable_of_collect hf,
    Table.toTable_of_collect hg]
  exact Table.schema_select h hu (hnames ▸ hu')

theorem nodup_names_evaluate (hf : x.evaluate t targets = .ok f) : f.names.Nodup := by
  obtain ⟨u, hu, hf⟩ := bind_eq_ok.1 hf
  simp only [Table.select, bind_eq_ok, Table.ofColumns_eq_ok] at hu
  obtain ⟨found, -, columns, -, hdistinct, rfl⟩ := hu
  rw [Table.names_collect hf]
  exact hdistinct

end SegmentExport

/-! ### Segments that are written and read -/

namespace Files.Node

variable {n : Node} {dir : List String} {es : List (String × Node)} {name : String}

theorem putEntry_of_not_mem (h : name ∉ es.map (·.1)) (f : Option Node → Node) :
    putEntry name f es = es ++ [(name, f none)] := by
  induction es with
  | nil => rfl
  | cons e es ih =>
    rw [List.map_cons, List.mem_cons, not_or] at h
    rw [putEntry, if_neg (Ne.symm h.1), ih h.2, List.cons_append]

/-- A node that is put into a folder becomes one of its entries. -/
theorem at?_put_entry (h : n.at? dir = some (folder es)) (new : Node) :
    (n.put (dir ++ [name]) new).at? dir = some (folder (putEntry name (fun _ => new) es)) := by
  induction dir generalizing n with
  | nil =>
    obtain rfl := Option.some.inj h
    simp only [List.nil_append, put_folder_cons, put_nil, at?]
  | cons d dir ih =>
    cases n with
    | file c => cases h
    | folder es' =>
      obtain ⟨m, hm, hd⟩ := Option.bind_eq_some_iff.1 h
      rw [List.cons_append, put_folder_cons, at?, lookup_putEntry, if_pos rfl, hm]
      exact ih hd

theorem has_of_hasFolder {path : String} (h : n.hasFolder path = true) : n.has path = true := by
  rw [hasFolder] at h
  rw [has]
  cases hfind : n.find path with
  | ok m => rfl
  | error e => simp [hfind] at h

end Files.Node

namespace SegmentExport

variable {x₀ x : SegmentExport} {dir : List String} {done frames : List Frame} {f : Frame}
  {t : Table} {targets : List String} {batches : List (Table × List String)}

/-- The batches as the next segments, one after the other, as long as none of them fails. -/
def writeAll (x : SegmentExport) (batches : List (Table × List String)) :
    Except ExportError SegmentExport :=
  batches.foldlM (fun x b =>
    let (answer, x') := x.write b.1 b.2
    answer.map fun _ => x') x

/-- An export that has written frames to an empty folder, and nothing else, since its start. -/
structure Filed (x₀ : SegmentExport) (dir : List String) (frames : List Frame)
    (x : SegmentExport) : Prop where
  folder_eq : x.folder = x₀.folder
  options_eq : x.options = x₀.options
  open_ : x.closed = false
  count : x.written.length = frames.length
  /-- The folder holds the frames as segments. -/
  entries : x.root.at? dir =
    some (.folder (Node.fileEntries (segmentFiles x₀.options.format frames)))
  /-- Folders stay where they were. -/
  folders : ∀ names, x₀.root.standingAt? names = some .folder →
    x.root.standingAt? names = some .folder

namespace Filed

theorem ofStart {root : Node} {folder : String} {options : ExportOptions}
    (hstart : start root folder options = .ok x₀) (hempty : x₀.root.at? dir = some (.folder [])) :
    Filed x₀ dir [] x₀ := by
  obtain ⟨haccounts, hopen⟩ := Accounts.ofStart hstart
  exact ⟨rfl, rfl, hopen, haccounts.length_written, hempty, fun _ => id⟩

theorem leadsTo (h : Filed x₀ dir frames x) {path : String} (hpath : x₀.root.LeadsTo path dir) :
    x.root.LeadsTo path dir :=
  ⟨Node.follow_mono h.folders hpath.follows, h.folders _ hpath.folder⟩

/-- One more batch is one more segment. -/
theorem write (h : Filed x₀ dir frames x) (hparquet : x₀.options.format = .parquet)
    (hfolder : x₀.root.LeadsTo x₀.folder dir) (hf : x₀.evaluate t targets = .ok f) :
    ∃ x', x.write t targets = (.ok f.height, x') ∧ Filed x₀ dir (frames ++ [f]) x' := by
  have hevaluate : x.evaluate t targets = .ok f := by
    rw [evaluate, h.options_eq]
    exact hf
  have hhere : x.root.LeadsTo x.folder dir := h.folder_eq ▸ h.leadsTo hfolder
  have hname : segmentName x₀.options.format frames.length ∉
      (Node.fileEntries (segmentFiles x₀.options.format frames)).map (·.1) := by
    rw [names_segmentFiles, List.mem_map]
    rintro ⟨i, hi, heq⟩
    exact (List.mem_range.1 hi).ne (segmentName_injective _ heq)
  have hnew : x.root.standingAt? (dir ++ [segmentName x.options.format x.written.length]) ≠
      some .folder := by
    have hnone : (Node.fileEntries (segmentFiles x₀.options.format frames)).lookup
        (segmentName x₀.options.format frames.length) = none := by
      refine List.lookup_eq_none_iff.2 fun e he => bne_iff_ne.2 fun heq => hname ?_
      exact heq ▸ List.mem_map_of_mem he
    rw [h.options_eq, h.count, Node.standingAt?, Node.at?_append, h.entries, Option.bind_some,
      Node.at?, hnone]
    rintro ⟨⟩
  obtain ⟨x', hwrite⟩ := exists_write_of_stores h.open_ hevaluate
    (stores_of_leadsTo (h.options_eq ▸ hparquet) hhere hnew)
  refine ⟨x', hwrite, ?_⟩
  obtain ⟨-, f', root, hf', -, hroot, rfl⟩ := write_eq_ok hwrite
  obtain rfl : f = f' := Except.ok.inj (hevaluate.symm.trans hf')
  obtain ⟨hleads, -, helse⟩ := hhere.write (isName_segmentName _ _) hroot
  obtain ⟨dir', hdir', -, -, rfl⟩ := (Node.write_join_eq_ok (isName_segmentName _ _)).1 hroot
  obtain rfl : dir = dir' := Except.ok.inj (hhere.follows.symm.trans hdir')
  refine ⟨h.folder_eq, h.options_eq, h.open_, by simp [h.count], ?_, fun names hnames => ?_⟩
  · rw [h.options_eq, h.count, Node.at?_put_entry h.entries, Node.putEntry_of_not_mem hname,
      segmentFiles_concat, Node.fileEntries, Node.fileEntries, List.map_append]
    rfl
  · rw [helse names fun hn => hnew (hn ▸ h.folders _ hnames)]
    exact h.folders names hnames

/-- All batches are written if all of them can be computed. -/
theorem exists_writeAll (h : Filed x₀ dir done x) (hparquet : x₀.options.format = .parquet)
    (hfolder : x₀.root.LeadsTo x₀.folder dir)
    (hframes : batches.mapM (fun b => x₀.evaluate b.1 b.2) = .ok frames) :
    ∃ x', x.writeAll batches = .ok x' ∧ Filed x₀ dir (done ++ frames) x' := by
  induction batches generalizing x done frames with
  | nil =>
    rw [List.mapM_nil, pure_eq_ok] at hframes
    subst hframes
    exact ⟨x, rfl, by rwa [List.append_nil]⟩
  | cons b batches ih =>
    simp only [List.mapM_cons, bind_eq_ok, pure_eq_ok] at hframes
    obtain ⟨f, hf, frames, hframes, rfl⟩ := hframes
    obtain ⟨x₁, hwrite, hfiled⟩ := h.write hparquet hfolder hf
    obtain ⟨x', hrest, hfiled'⟩ := ih hfiled hframes
    refine ⟨x', ?_, ?_⟩
    · rw [writeAll, foldlM_cons_eq_ok]
      exact ⟨x₁, by simp only [hwrite, Except.map], hrest⟩
    · rwa [List.append_assoc] at hfiled'

/-- The segments are found by a literal path, and read in the order of their names. -/
theorem exists_scan (h : Filed x₀ dir frames x) (hparquet : x₀.options.format = .parquet)
    {path : String} (hpath : x₀.root.LeadsTo path dir) (hne : path.isEmpty = false)
    (hliteral : Path.IsLiteral path) {loading : LoadOptions} (hdataset : loading.layout = .dataset)
    (hschema : ∀ f ∈ frames, ∀ g ∈ frames, f.schema = g.schema)
    (hdistinct : ∀ f ∈ frames, f.names.Nodup) :
    ∃ s, DataSource.locate x.root path (some .parquet) loading = .ok s ∧
      s.scan x.root = Frame.stacked? (inNameOrder .parquet frames) := by
  have hhere := h.leadsTo hpath
  have hhas : x.root.has path = true := Node.has_of_hasFolder (hhere.hasFolder hne)
  have hentries := h.entries
  rw [hparquet] at hentries
  have hcontents : (⟨path, .parquet, loading⟩ : DataSource).contents x.root =
      some ((inNameOrder .parquet frames).map .table) := by
    rw [DataSource.contents, hdataset]
    exact (Node.filesLike?_flat hhere hliteral hentries (isListing_segmentFiles _ _)
      fun _ => read_of_mem_segmentFiles).trans (congrArg some (contents_segmentFiles _ _))
  exact ⟨⟨path, .parquet, loading⟩, if_pos hhas, DataSource.scanParquet_eq hcontents
    (fun f hf g hg => hschema f (mem_of_mem_inNameOrder hf) g (mem_of_mem_inNameOrder hg))
    fun f hf => hdistinct f (mem_of_mem_inNameOrder hf)⟩

end Filed

/-! ### Numbered rows -/

/-- A row with its number. -/
def numbered (i : Nat) : Frame := ⟨1, [⟨"n", .i64, [.int i]⟩]⟩

theorem numbered_injective : Function.Injective numbered := by
  intro i j h
  exact Int.ofNat_inj.1 (by simpa [numbered] using h)

theorem foldl_append_numbered (count : Nat) (cells : List Cell) (is : List Nat) :
    (is.map numbered).foldl Frame.append ⟨count, [⟨"n", .i64, cells⟩]⟩ =
      ⟨count + is.length, [⟨"n", .i64, cells ++ is.map fun i : Nat => .int i⟩]⟩ := by
  induction is generalizing count cells with
  | nil => simp
  | cons i is ih =>
    rw [List.map_cons, List.foldl_cons]
    refine (ih (count + 1) (cells ++ [.int i])).trans ?_
    simp [Nat.add_assoc, Nat.add_comm 1]

theorem stacked?_numbered (is : List Nat) : Frame.stacked? (is.map numbered) =
    is.head?.map fun _ => ⟨is.length, [⟨"n", .i64, is.map fun i : Nat => .int i⟩]⟩ := by
  cases is with
  | nil => rfl
  | cons i is =>
    refine congrArg some ((foldl_append_numbered 0 [] (i :: is)).trans ?_)
    rw [Nat.zero_add, List.nil_append]

/-- Numbered rows below one another tell their order. -/
theorem stacked?_numbered_injective {is js : List Nat}
    (h : Frame.stacked? (is.map numbered) = Frame.stacked? (js.map numbered)) : is = js := by
  have hcell : Function.Injective fun i : Nat => Cell.int i := fun i j hij =>
    Int.ofNat_inj.1 (Cell.int.inj hij)
  rw [stacked?_numbered, stacked?_numbered] at h
  cases is with
  | nil =>
    cases js with
    | nil => rfl
    | cons j js => cases h
  | cons i is =>
    cases js with
    | nil => cases h
    | cons j js =>
      refine hcell.list_map ?_
      obtain ⟨-, hcolumns⟩ := Frame.mk.inj (Option.some.inj h)
      exact (Column.mk.inj (List.head_eq_of_cons_eq hcolumns)).2.2

/-- An export of Parquet files into an empty folder. -/
def fresh : SegmentExport := ⟨.folder [("out", .folder [])], "out", {}, [], false⟩

/-- All files below a folder. -/
def wholeFolder : LoadOptions := { layout := .dataset }

theorem start_fresh : start (.folder []) "out" {} = .ok fresh := rfl

theorem leadsTo_fresh : fresh.root.LeadsTo "out" ["out"] := ⟨by decide +kernel, rfl⟩

theorem isLiteral_out : Path.IsLiteral "out" := by decide

/-- A row with its number as a batch. -/
def numberedBatch (i : Nat) : Table × List String := ((numbered i).toTable, [])

theorem projection_numbered (i : Nat) :
    projection fresh.options (numberedBatch i).2 (numberedBatch i).1.names = ["n"] := rfl

theorem evaluate_numbered (i : Nat) :
    fresh.evaluate (numberedBatch i).1 (numberedBatch i).2 = .ok (numbered i) := by
  have hselect : (numbered i).toTable.select ["n"] = .ok (numbered i).toTable := by
    rw [Table.select_of_plain (by decide)]
    rfl
  rw [evaluate, projection_numbered, numberedBatch, hselect]
  change (numbered i).toTable.collect = _
  exact Table.collect_eq_ok.2 rfl

theorem mapM_evaluate_numbered (is : List Nat) :
    (is.map numberedBatch).mapM (fun b => fresh.evaluate b.1 b.2) = .ok (is.map numbered) := by
  rw [mapM_eq_ok, List.forall₂_map_left_iff, List.forall₂_map_right_iff, List.forall₂_same]
  exact fun i _ => evaluate_numbered i

theorem inNameOrder_numbered (format : DataFormat) (count : Nat) :
    inNameOrder format ((List.range count).map numbered) =
      ((nameOrder format ((List.range count).map numbered).length).map Fin.val).map numbered := by
  rw [inNameOrder, List.map_map]
  exact List.map_congr_left fun i _ => by simp

/-- Too many numbered rows are not read as they were written. -/
theorem stacked?_inNameOrder_ne {format : DataFormat} {count : Nat} (h : 100000 < count) :
    Frame.stacked? (inNameOrder format ((List.range count).map numbered)) ≠
      Frame.stacked? ((List.range count).map numbered) := by
  intro heq
  have hdistinct : ((List.range count).map numbered).Nodup :=
    List.nodup_range.map numbered_injective
  have hne : inNameOrder format ((List.range count).map numbered) ≠
      (List.range count).map numbered := inNameOrder_ne hdistinct (by simpa using h)
  rw [inNameOrder_numbered] at heq hne
  exact hne (congrArg _ (stacked?_numbered_injective heq))

/-- Numbered rows, each in a segment of its own, are read in the order of the names; if there are
too many, they are not read as they were written. -/
theorem exists_scan_numbered (count : Nat) :
    ∃ x s, fresh.writeAll ((List.range count).map numberedBatch) = .ok x ∧
      DataSource.locate x.root "out" (some .parquet) wholeFolder = .ok s ∧
      s.scan x.root = Frame.stacked? (inNameOrder .parquet ((List.range count).map numbered)) ∧
      (100000 < count → s.scan x.root ≠ Frame.stacked? ((List.range count).map numbered)) := by
  obtain ⟨x, hwritten, hfiled⟩ := (Filed.ofStart start_fresh rfl).exists_writeAll rfl leadsTo_fresh
    (mapM_evaluate_numbered _)
  rw [List.nil_append] at hfiled
  have hdataset : wholeFolder.layout = .dataset := rfl
  obtain ⟨s, hs, hscan⟩ := hfiled.exists_scan rfl leadsTo_fresh rfl isLiteral_out hdataset
    (by simp [numbered, Frame.schema]) (by simp [numbered, Frame.names])
  exact ⟨x, s, hwritten, hs, hscan, fun h => hscan ▸ stacked?_inNameOrder_ne h⟩

/-! ### What is read back -/

/-- **An export is read back as it was written**: the segments of batches of one schema and one
projection, written to an empty folder, are found by every literal path of the folder, and they are
read in the order of the names of their files; that is the order in which they were written as long
as there are at most a hundred thousand of them. -/
theorem writeAll_scan {root : Node} {folder path : String} {options : ExportOptions}
    {loading : LoadOptions} {σ : List (String × DType)} {names : List String}
    (hparquet : options.format = .parquet) (hdataset : loading.layout = .dataset)
    (hstart : start root folder options = .ok x₀) (hfolder : x₀.root.LeadsTo folder dir)
    (hempty : x₀.root.at? dir = some (.folder []))
    (hpath : x₀.root.LeadsTo path dir) (hne : path.isEmpty = false)
    (hliteral : Path.IsLiteral path)
    (hschema : ∀ b ∈ batches, b.1.schema = σ)
    (hnames : ∀ b ∈ batches, projection options b.2 b.1.names = names)
    (hframes : batches.mapM (fun b => x₀.evaluate b.1 b.2) = .ok frames) :
    ∃ x s, x₀.writeAll batches = .ok x ∧
      DataSource.locate x.root path (some .parquet) loading = .ok s ∧
      (∀ f ∈ frames, ∀ g ∈ frames, f.schema = g.schema) ∧
      s.scan x.root = Frame.stacked? (inNameOrder .parquet frames) ∧
      (frames.length ≤ 100000 → s.scan x.root = Frame.stacked? frames) := by
  obtain ⟨⟨rfl, rfl, -, -⟩, -⟩ := Accounts.ofStart hstart
  have hschemas : ∀ f ∈ frames, ∀ g ∈ frames, f.schema = g.schema := by
    intro f hf g hg
    obtain ⟨b, hb, hf⟩ := exists_of_mem_of_mapM hframes hf
    obtain ⟨c, hc, hg⟩ := exists_of_mem_of_mapM hframes hg
    exact schema_evaluate ((hschema b hb).trans (hschema c hc).symm)
      ((hnames b hb).trans (hnames c hc).symm) hf hg
  have hdistinct : ∀ f ∈ frames, f.names.Nodup := fun f hf => by
    obtain ⟨b, -, hf⟩ := exists_of_mem_of_mapM hframes hf
    exact nodup_names_evaluate hf
  obtain ⟨x, hwritten, hfiled⟩ := (Filed.ofStart hstart hempty).exists_writeAll hparquet hfolder
    hframes
  rw [List.nil_append] at hfiled
  obtain ⟨s, hs, hscan⟩ := hfiled.exists_scan hparquet hpath hne hliteral hdataset hschemas
    hdistinct
  refine ⟨x, s, hwritten, hs, hschemas, hscan, fun hcount => ?_⟩
  rw [hscan, inNameOrder_of_le hcount]

/-- Two rows in two segments. -/
theorem writeAll_scan_two :
    start (.folder []) "out" {} = .ok fresh ∧
      ∃ x s, fresh.writeAll [numberedBatch 0, numberedBatch 1] = .ok x ∧
        DataSource.locate x.root "out" (some .parquet) wholeFolder = .ok s ∧
        s.scan x.root = some ⟨2, [⟨"n", .i64, [.int 0, .int 1]⟩]⟩ := by
  have hdataset : wholeFolder.layout = .dataset := rfl
  have hschema : ∀ b ∈ [0, 1].map numberedBatch, b.1.schema = [("n", .i64)] :=
    List.forall_mem_map.2 fun _ _ => rfl
  have hnames : ∀ b ∈ [0, 1].map numberedBatch,
      projection fresh.options b.2 b.1.names = ["n"] :=
    List.forall_mem_map.2 fun i _ => projection_numbered i
  obtain ⟨x, s, hwritten, hs, -, -, hscan⟩ := writeAll_scan rfl hdataset start_fresh leadsTo_fresh
    rfl leadsTo_fresh rfl isLiteral_out hschema hnames (mapM_evaluate_numbered [0, 1])
  exact ⟨start_fresh, x, s, hwritten, hs, hscan (by decide)⟩

/-- **Too many segments are not read as they were written**, as the first number of six digits comes
before the last one of five; **and a folder with a bracket in its name is not found at all.** -/
theorem scan_reorders :
    (start (.folder []) "out" {} = .ok fresh ∧
        ∃ x s, fresh.writeAll ((List.range 100001).map numberedBatch) = .ok x ∧
          DataSource.locate x.root "out" (some .parquet) wholeFolder = .ok s ∧
          s.scan x.root =
            Frame.stacked? (inNameOrder .parquet ((List.range 100001).map numbered)) ∧
          s.scan x.root ≠ Frame.stacked? ((List.range 100001).map numbered)) ∧
      ∃ x₀ x s, start (.folder []) "out[1]" {} = .ok x₀ ∧
        x₀.writeAll [numberedBatch 0] = .ok x ∧
        DataSource.locate x.root "out[1]" (some .parquet) wholeFolder = .ok s ∧
        s.scan x.root = none := by
  refine ⟨⟨start_fresh, ?_⟩, ?_⟩
  · obtain ⟨x, s, hwritten, hs, hscan, hne⟩ := exists_scan_numbered 100001
    exact ⟨x, s, hwritten, hs, hscan, hne (Nat.lt_succ_self _)⟩
  · have hnone : (start (.folder []) "out[1]" {}).toOption.map (fun x₀ =>
        (x₀.writeAll [numberedBatch 0]).toOption.map fun x =>
          (DataSource.locate x.root "out[1]" (some .parquet) wholeFolder).toOption.map fun s =>
            (s.scan x.root).isNone) = some (some (some true)) := by
      decide +kernel
    obtain ⟨x₀, hstart, hnone⟩ := exists_of_map_toOption hnone
    obtain ⟨x, hwritten, hnone⟩ := exists_of_map_toOption hnone
    obtain ⟨s, hs, hnone⟩ := exists_of_map_toOption hnone
    exact ⟨x₀, x, s, hstart, hwritten, hs, Option.isNone_iff_eq_none.1 hnone⟩

end SegmentExport

end FocusBilling
