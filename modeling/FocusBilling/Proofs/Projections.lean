import FocusBilling.Proofs.Exporting
import FocusBilling.Proofs.Exports

/-!
# The columns of a segment

A segment has the columns that are asked for: the targets, and behind them all columns of the batch
or those to pass through.  The names are settled before the file of the segment is made.

* `SegmentExport.projection_eq` : each name is asked for once, where it comes first;
* `Table.select_lacks`, `Table.exists_select`, `Table.exists_collect_select` : plain names choose
  columns that are there, and fail for the first that is not;
* `SegmentExport.Stores` : the disk and the format take a frame as the next segment;
* `SegmentExport.write_projects` : **a segment has the columns that are asked for, and only a column
  that is missing keeps it from being written**;
* `SegmentExport.pattern_left_out` : names that are patterns are not taken by their letters.
-/

namespace FocusBilling

open Files (Node)

namespace Table

variable {t u : Table} {names : List String} {n : String} {g : Frame}

/-- A selection by plain names fails for the first of them that is no column. -/
theorem select_lacks (hplain : ∀ m ∈ names, IsPlain m)
    (hn : names.find? (fun m => !t.hasColumn m) = some n) :
    t.select names = .error (.missingColumn n) := by
  obtain ⟨hmissing, before, after, rfl, hbefore⟩ := List.find?_eq_some_iff_append.1 hn
  simp only [hasColumn, Bool.not_not, List.contains_iff_mem] at hbefore
  have hnot : n ∉ t.names := by simpa [hasColumn] using hmissing
  have hlookup : (before ++ n :: after).mapM (fun m => do pure (m, ← t.get m)) =
      (.error (.missingColumn n) : Except FrameError (List (String × Deferred))) := by
    refine mapM_eq_error.2 ⟨before, n, after, rfl, fun m hm => ?_, ?_⟩
    · obtain ⟨d, hd⟩ := exists_get (hbefore m hm)
      exact ⟨(m, d), by simp [hd]⟩
    · rw [get_of_not_mem hnot]
      rfl
  rw [select_of_plain hplain, hlookup]
  rfl

/-- A selection of columns by plain names, none of them twice. -/
theorem exists_select (hplain : ∀ m ∈ names, IsPlain m) (hdistinct : names.Nodup)
    (hn : ∀ m ∈ names, m ∈ t.names) : ∃ u, t.select names = .ok u := by
  obtain ⟨columns, hcolumns⟩ : ∃ columns, names.mapM (fun m => do pure (m, ← t.get m)) =
      (.ok columns : Except FrameError (List (String × Deferred))) := by
    refine exists_mapM_eq_ok.2 fun m hm => ?_
    obtain ⟨d, hd⟩ := exists_get (hn m hm)
    exact ⟨(m, d), by simp [hd]⟩
  have hnames : columns.map (·.1) = names :=
    (map_eq_of_mapM (k := id) hcolumns (by simp)).trans names.map_id
  rw [select_of_plain hplain, hcolumns]
  exact ⟨_, ofColumns_eq_ok.2 ⟨hnames.symm ▸ hdistinct, rfl⟩⟩

/-- Columns chosen from a table that can be computed can be computed. -/
theorem exists_collect_select (hg : ∃ g, t.collect = .ok g) (hu : t.select names = .ok u) :
    ∃ f, u.collect = .ok f := by
  rw [exists_collect_iff] at hg ⊢
  simp only [select, bind_eq_ok, ofColumns_eq_ok] at hu
  obtain ⟨_, _, columns, hcolumns, -, rfl⟩ := hu
  intro c hc
  obtain ⟨m, _, hm⟩ := exists_of_mem_of_mapM hcolumns hc
  simp only [bind_eq_ok, pure_eq_ok] at hm
  obtain ⟨d, hd, rfl⟩ := hm
  exact hg _ (mem_columns_of_get hd)

end Table

namespace SegmentExport

variable {x x' : SegmentExport} {t : Table} {targets : List String} {f : Frame} {n : String}

/-! ### The names that are asked for -/

/-- Each name is asked for once, where it comes first. -/
theorem projection_eq (o : ExportOptions) (targets columns : List String) :
    projection o targets columns =
      (targets ++ if o.keepSources then columns else o.passthrough).eraseDups :=
  CompiledPlan.foldl_addOnce_nil _

theorem nodup_projection {o : ExportOptions} {columns : List String} :
    (projection o targets columns).Nodup := Table.nodup_foldl_addOnce .nil

theorem mem_projection {o : ExportOptions} {columns : List String} :
    n ∈ projection o targets columns ↔
      n ∈ targets ∨ n ∈ if o.keepSources then columns else o.passthrough := by
  rw [projection_eq, List.mem_eraseDups, List.mem_append]

section Plain

variable (hplain : ∀ n ∈ projection x.options targets t.names, Table.IsPlain n)

include hplain

theorem names_evaluate (hf : x.evaluate t targets = .ok f) :
    f.names = projection x.options targets t.names := by
  obtain ⟨u, hu, hf⟩ := bind_eq_ok.1 hf
  rw [Table.names_collect hf, Table.names_select_of_plain hu hplain]

theorem evaluate_lacks
    (hn : (projection x.options targets t.names).find? (fun m => !t.hasColumn m) = some n) :
    x.evaluate t targets = .error (.missingColumn n) := by
  rw [evaluate, Table.select_lacks hplain hn]
  rfl

theorem exists_evaluate (hg : ∃ g, t.collect = .ok g)
    (hn : ∀ m ∈ projection x.options targets t.names, m ∈ t.names) :
    ∃ f, x.evaluate t targets = .ok f := by
  obtain ⟨u, hu⟩ := Table.exists_select hplain nodup_projection hn
  obtain ⟨f, hf⟩ := Table.exists_collect_select hg hu
  exact ⟨f, bind_eq_ok.2 ⟨u, hu, hf⟩⟩

end Plain

/-! ### The write -/

/-- The disk takes a frame as the next segment, and the format has a form for it. -/
def Stores (x : SegmentExport) (f : Frame) : Prop :=
  writable x.options.format f = true ∧
    ∃ root, x.root.write x.nextPath (contentOf x.options.format f) = .ok root

/-- A folder that stands takes the next segment, unless a folder has its name. -/
theorem stores_of_leadsTo {dir : List String} (hparquet : x.options.format = .parquet)
    (hdir : x.root.LeadsTo x.folder dir)
    (hnew : x.root.standingAt? (dir ++ [segmentName x.options.format x.written.length]) ≠
      some .folder) : x.Stores f :=
  ⟨by rw [hparquet]; rfl, _,
    (Node.write_join_eq_ok (isName_segmentName _ _)).2 ⟨dir, hdir.follows, hdir.folder, hnew, rfl⟩⟩

theorem exists_write_of_stores (hopen : x.closed = false) (hf : x.evaluate t targets = .ok f)
    (hstores : x.Stores f) : ∃ x', x.write t targets = (.ok f.height, x') := by
  obtain ⟨hwritable, root, hroot⟩ := hstores
  rw [write, hopen, hf]
  simp only [hroot, hwritable, if_true, Bool.false_eq_true, if_false]
  exact ⟨_, rfl⟩

/-- The file of a segment holds the frame that its batch contributes. -/
theorem held_of_write {rows : ℕ} (h : x.write t targets = (.ok rows, x')) :
    ∃ f, x.evaluate t targets = .ok f ∧ rows = f.height ∧
      x'.root.standingOf? x.nextPath = some (.file (contentOf x.options.format f)) := by
  obtain ⟨-, f, root, hf, hrows, hroot, rfl⟩ := write_eq_ok h
  exact ⟨f, hf, hrows, Node.standingOf?_write_self (isName_segmentName _ _) hroot⟩

section Plain

variable (hplain : ∀ n ∈ projection x.options targets t.names, Table.IsPlain n)

include hplain

theorem columns_of_write {rows : ℕ} (h : x.write t targets = (.ok rows, x')) :
    ∃ f, x'.root.standingOf? x.nextPath = some (.file (contentOf x.options.format f)) ∧
      f.names = projection x.options targets t.names := by
  obtain ⟨f, hf, -, hstands⟩ := held_of_write h
  exact ⟨f, hstands, names_evaluate hplain hf⟩

theorem write_lacks (hopen : x.closed = false)
    (hn : (projection x.options targets t.names).find? (fun m => !t.hasColumn m) = some n) :
    x.write t targets = (.error (.frame (.missingColumn n)), x) := by
  rw [write, hopen, evaluate_lacks hplain hn]
  rfl

theorem exists_write (hg : ∃ g, t.collect = .ok g) (hopen : x.closed = false)
    (hstores : ∀ f, x.evaluate t targets = .ok f → x.Stores f)
    (hn : ∀ m ∈ projection x.options targets t.names, m ∈ t.names) :
    ∃ rows x', x.write t targets = (.ok rows, x') := by
  obtain ⟨f, hf⟩ := exists_evaluate hplain hg hn
  obtain ⟨x', hwrite⟩ := exists_write_of_stores hopen hf (hstores f hf)
  exact ⟨_, x', hwrite⟩

end Plain

/-- **A segment has the columns that are asked for**: the targets, and behind them all columns of
the batch or those to pass through, each once.  **Only a column that is missing keeps a segment from
being written**; then nothing has changed. -/
theorem write_projects
    (hplain : ∀ n ∈ projection x.options targets t.names, Table.IsPlain n) :
    projection x.options targets t.names =
        (targets ++ if x.options.keepSources then t.names else x.options.passthrough).eraseDups ∧
      (∀ rows x', x.write t targets = (.ok rows, x') →
        ∃ f, x'.root.standingOf? x.nextPath = some (.file (contentOf x.options.format f)) ∧
          f.names = projection x.options targets t.names ∧
          (x.options.keepSources = true → ∀ n ∈ t.names, f.names.count n = 1) ∧
          (x.options.keepSources = false →
            ∀ n ∈ f.names, n ∈ targets ∨ n ∈ x.options.passthrough)) ∧
      ((∃ g, t.collect = .ok g) → x.closed = false →
        (∀ f, x.evaluate t targets = .ok f → x.Stores f) →
        ((∃ e, (x.write t targets).1 = .error e) ↔
            ∃ n ∈ projection x.options targets t.names, n ∉ t.names) ∧
          ∀ e, (x.write t targets).1 = .error e → (x.write t targets).2 = x ∧
            ∃ n, (projection x.options targets t.names).find? (fun m => !t.hasColumn m) = some n ∧
              e = .frame (.missingColumn n)) := by
  refine ⟨projection_eq _ _ _, fun rows x' h => ?_, fun hcollect hopen hstores => ?_⟩
  · obtain ⟨f, hstands, hnames⟩ := columns_of_write hplain h
    refine ⟨f, hstands, hnames, fun hkeep n hn => ?_, fun hkeep n hn => ?_⟩
    · rw [hnames]
      exact List.count_eq_one_of_mem nodup_projection (mem_projection.2 (.inr (by simpa [hkeep])))
    · simpa [hnames, mem_projection, hkeep] using hn
  · cases hfirst : (projection x.options targets t.names).find? (fun m => !t.hasColumn m) with
    | some n =>
      have hmissing : n ∉ t.names := by simpa [Table.hasColumn] using List.find?_some hfirst
      rw [write_lacks hplain hopen hfirst]
      refine ⟨⟨fun _ => ⟨n, List.mem_of_find?_eq_some hfirst, hmissing⟩, fun _ => ⟨_, rfl⟩⟩, ?_⟩
      rintro _ ⟨⟩
      exact ⟨rfl, n, rfl, rfl⟩
    | none =>
      have hall : ∀ m ∈ projection x.options targets t.names, m ∈ t.names := by
        simpa [Table.hasColumn] using hfirst
      obtain ⟨rows, x', hwrite⟩ := exists_write hplain hcollect hopen hstores hall
      have hsucceeds : ∀ e, (x.write t targets).1 ≠ .error e := by simp [hwrite]
      refine ⟨⟨?_, ?_⟩, fun e he => absurd he (hsucceeds e)⟩
      · rintro ⟨e, he⟩
        exact absurd he (hsucceeds e)
      · rintro ⟨n, hn, hmissing⟩
        exact absurd (hall n hn) hmissing

/-- A target that is asked for twice, and is a column of the batch too, is written once. -/
theorem write_projects_twice :
    let x : SegmentExport := ⟨.folder [("out", .folder [])], "out", {}, [], false⟩
    let t : Table := ⟨1, [("x", ⟨.text, .ok [.text "v"]⟩), ("y", ⟨.text, .ok [.text "w"]⟩)]⟩
    projection x.options ["y", "y"] t.names = ["y", "x"] ∧
      (∃ rows x', x.write t ["y", "y"] = (.ok rows, x')) ∧
      ∀ rows x', x.write t ["y", "y"] = (.ok rows, x') →
        ∃ f, x'.root.standingOf? x.nextPath = some (.file (.table f)) ∧ f.names = ["y", "x"] := by
  intro x t
  have hprojection : projection x.options ["y", "y"] t.names = ["y", "x"] := by decide
  have hplain : ∀ n ∈ projection x.options ["y", "y"] t.names, Table.IsPlain n := by
    rw [hprojection]
    decide
  obtain ⟨-, hwritten, hfails⟩ := write_projects hplain
  have hcollect : ∃ g, t.collect = .ok g := ⟨_, rfl⟩
  have hdir : x.root.LeadsTo x.folder ["out"] := ⟨by decide +kernel, rfl⟩
  have hstores : ∀ f, x.evaluate t ["y", "y"] = .ok f → x.Stores f := fun _ _ =>
    stores_of_leadsTo rfl hdir (by rintro ⟨⟩)
  obtain ⟨hiff, -⟩ := hfails hcollect rfl hstores
  refine ⟨hprojection, ?_, fun rows x' h => ?_⟩
  · rcases hwrite : x.write t ["y", "y"] with ⟨e | rows, x'⟩
    · obtain ⟨n, hn, hmissing⟩ := hiff.1 ⟨e, congrArg Prod.fst hwrite⟩
      have hall : ∀ n ∈ ["y", "x"], n ∈ t.names := by decide
      exact absurd (hall n (hprojection ▸ hn)) hmissing
    · exact ⟨rows, x', rfl⟩
  · obtain ⟨f', hstands, hnames, -⟩ := hwritten rows x' h
    exact ⟨f', hstands, hnames.trans hprojection⟩

/-- **Names that are patterns are not taken by their letters**: a column of a batch that has such a
name is not written with the others, and one that is to be passed through stands for others. -/
theorem pattern_left_out :
    let root : Node := .folder [("out", .folder [])]
    let all : SegmentExport := ⟨root, "out", {}, [], false⟩
    let few : SegmentExport := ⟨root, "out", ⟨.parquet, false, ["^x$"]⟩, [], false⟩
    let t : Table := ⟨1, [("x", ⟨.text, .ok [.text "v"]⟩), ("^a$", ⟨.text, .ok [.text "w"]⟩)]⟩
    (∃ x' f, all.write t [] = (.ok 1, x') ∧
        x'.root.standingOf? all.nextPath = some (.file (.table f)) ∧ f.names = ["x"]) ∧
      ∃ x' f, few.write t [] = (.ok 1, x') ∧
        x'.root.standingOf? few.nextPath = some (.file (.table f)) ∧ f.names = ["x"] := by
  intro root all few t
  have hdir : root.LeadsTo "out" ["out"] := ⟨by decide +kernel, rfl⟩
  have hwritten : ∀ x : SegmentExport, x.closed = false →
      (x.evaluate t []).toOption.map (fun f => (f.height, f.names)) = some (1, ["x"]) →
      (∀ f, x.Stores f) → ∃ x' f, x.write t [] = (.ok 1, x') ∧
        x'.root.standingOf? x.nextPath = some (.file (contentOf x.options.format f)) ∧
        f.names = ["x"] := by
    intro x hopen hevaluate hstores
    obtain ⟨f, hf, heq⟩ := exists_of_map_toOption hevaluate
    obtain ⟨hheight, hnames⟩ := Prod.mk.inj heq
    obtain ⟨x', hwrite⟩ := exists_write_of_stores hopen hf (hstores f)
    obtain ⟨f', hf', -, hstands⟩ := held_of_write hwrite
    obtain rfl := Except.ok.inj (hf.symm.trans hf')
    exact ⟨x', f, hheight ▸ hwrite, hstands, hnames⟩
  exact ⟨hwritten all rfl (by decide +kernel) fun _ => stores_of_leadsTo rfl hdir (by rintro ⟨⟩),
    hwritten few rfl (by decide +kernel) fun _ => stores_of_leadsTo rfl hdir (by rintro ⟨⟩)⟩

end SegmentExport

end FocusBilling
