import FocusBilling.Proofs.Conversion
import FocusBilling.Proofs.Folders
import FocusBilling.Proofs.Segments

/-!
# Batches written to segments

What the loop over the batches leaves behind when it hands them over to an export into a folder.

* `CompiledPlan.exportBatches_error` : a loop that fails has first run over the batches in front of
  the one that fails, as if there were no others;
* `SegmentExport.write_eq_ok`, `SegmentExport.write_eq_frame` : a write that succeeds, and one whose
  batch cannot be computed;
* `Contributes` : the frame that a batch becomes on its way into a segment;
* `Written`, `Written.single` : what has changed once frames are written to segments, and a batch
  that is written to one;
* `exportBatches_written` : **a loop that succeeds writes one segment for each batch;**
* `SegmentExport.start_spec` : an export that starts has made the folder of its segments, and
  nothing else;
* `Exported` : what an export has come to since its start.
-/

namespace FocusBilling

open Files (Node Content Standing)

/-! ### The first failure of a loop -/

namespace CompiledPlan

variable {S σ ε : Type} {p : CompiledPlan} {x : Exporter S σ ε}

/-- A loop that fails has taken the batches in front of the one that fails, and has come as far as a
loop over those alone; then the next batch cannot be applied, or the exporter refuses it. -/
theorem exportBatches_error {batches : List (Except σ Table)} {g : Progress S}
    {e : ConvertError σ ε} (h : (exportBatches p x batches g).1 = .error e) :
    ∃ k batch g', batches[k]? = some batch ∧
      exportBatches p x (batches.take k) g = (.ok (), g') ∧
      ((p.applied batch = .error e ∧
          (exportBatches p x batches g).2 = { g' with taken := g'.taken + 1 }) ∨
        ∃ a, p.applied batch = (.ok a : Except (ConvertError σ ε) AppliedBatch) ∧
          (x.collect a g'.state).1 = .error e ∧
          (exportBatches p x batches g).2 =
            { g' with taken := g'.taken + 1, state := (x.collect a g'.state).2 }) := by
  induction batches generalizing g with
  | nil => cases h
  | cons batch batches ih =>
    rw [exportBatches_cons] at h ⊢
    cases happlied : (p.applied batch : Except (ConvertError σ ε) AppliedBatch) with
    | error e' =>
      rw [happlied] at h
      obtain rfl : e' = e := Except.error.inj h
      exact ⟨0, batch, g, rfl, rfl, .inl ⟨happlied, rfl⟩⟩
    | ok a =>
      cases hcollect : x.collect a g.state with
      | mk answer s =>
        simp only [happlied, hcollect] at h ⊢
        cases answer with
        | error e' =>
          obtain rfl : e' = e := Except.error.inj h
          refine ⟨0, batch, g, rfl, rfl, .inr ⟨a, happlied, ?_, ?_⟩⟩
          · rw [hcollect]
          · rw [hcollect]
        | ok n =>
          -- the batch is taken, and the failure lies behind it
          obtain ⟨k, batch', g', hbatch', htake, hfails⟩ := ih h
          refine ⟨k + 1, batch', g', hbatch', ?_, hfails⟩
          rw [List.take_succ_cons, exportBatches_cons, happlied]
          simp only [hcollect]
          exact htake

end CompiledPlan

/-! ### One write -/

namespace SegmentExport

variable {x x' : SegmentExport} {t : Table} {targets : List String}

/-- A write that succeeds. -/
theorem write_eq_ok {n : ℕ} (h : x.write t targets = (.ok n, x')) :
    x.closed = false ∧ ∃ f root, x.evaluate t targets = .ok f ∧ n = f.height ∧
      x.root.write x.nextPath (contentOf x.options.format f) = .ok root ∧
      x' = { x with root, written := x.written ++ [⟨x.nextPath, f.height, f.columns.length⟩] } := by
  rw [write] at h
  split at h
  next => cases h
  next hopen =>
    have hopen : x.closed = false := by simpa using hopen
    split at h
    next => cases h
    next f hf =>
      split at h
      next => cases h
      next root hroot =>
        split at h
        next =>
          cases h
          exact ⟨hopen, f, root, hf, rfl, hroot, rfl⟩
        next => cases h

/-- A write whose batch cannot be computed changes nothing. -/
theorem write_eq_frame {e : FrameError} (h : (x.write t targets).1 = .error (.frame e)) :
    x.evaluate t targets = .error e ∧ (x.write t targets).2 = x := by
  rw [write] at h ⊢
  split at h
  next => cases h
  next hopen =>
    rw [if_neg hopen]
    split at h
    next e' he =>
      simp only [Except.error.injEq, ExportError.frame.injEq] at h
      subst h
      exact ⟨he, rfl⟩
    next f hf =>
      split at h
      next => cases h
      next root hroot => split at h <;> cases h

end SegmentExport

/-! ### A whole loop -/

/-- The frame that a batch becomes on its way into a segment. -/
def CompiledPlan.Contributes {σ : Type} (p : CompiledPlan) (x : SegmentExport)
    (batch : Except σ Table) (f : Frame) : Prop :=
  ∃ t a, batch = .ok t ∧ p.apply t = .ok a ∧ x.evaluate a.table a.targetColumns = .ok f

/-- Frames as segments with the numbers from one on. -/
def SegmentExport.segmentsOf (folder : String) (format : DataFormat) (first : ℕ)
    (frames : List Frame) : List Segment :=
  frames.mapIdx fun i f => ⟨segmentPath folder format (first + i), f.height, f.columns.length⟩

open SegmentExport (segmentName segmentPath segmentsOf contentOf isName_segmentName
  segmentName_injective)

/-- What has changed once frames are written to the segments that come next in a folder. -/
structure Written (dir : List String) (frames : List Frame) (g g' : Progress SegmentExport) :
    Prop where
  taken : g'.taken = g.taken + frames.length
  batches : g'.batches = g.batches + frames.length
  rows : g'.rows = g.rows + (frames.map Frame.height).sum
  folder : g'.state.folder = g.state.folder
  options : g'.state.options = g.state.options
  open_ : g'.state.closed = false
  /-- Each frame is the next segment. -/
  segments : g'.state.written = g.state.written ++
    segmentsOf g.state.folder g.state.options.format g.state.written.length frames
  /-- The folder is where it was. -/
  leads : g'.state.root.LeadsTo g.state.folder dir
  /-- The file of each segment holds its frame. -/
  held : ∀ i f, frames[i]? = some f →
    g'.state.root.standingAt?
        (dir ++ [segmentName g.state.options.format (g.state.written.length + i)]) =
      some (.file (contentOf g.state.options.format f))
  /-- Everything else is as it was. -/
  elsewhere : ∀ names, (∀ i < frames.length,
      names ≠ dir ++ [segmentName g.state.options.format (g.state.written.length + i)]) →
    g'.state.root.standingAt? names = g.state.root.standingAt? names

namespace Written

variable {dir : List String} {g g₁ g' : Progress SegmentExport} {f : Frame} {frames : List Frame}

theorem nil (hopen : g.state.closed = false) (hdir : g.state.root.LeadsTo g.state.folder dir) :
    Written dir [] g g where
  taken := rfl
  batches := rfl
  rows := rfl
  folder := rfl
  options := rfl
  open_ := hopen
  segments := by simp [segmentsOf]
  leads := hdir
  held i f h := by simp at h
  elsewhere _ _ := rfl

/-- A batch that is handed over and taken is written to one segment. -/
theorem single {a : AppliedBatch} {n : ℕ} {x' : SegmentExport} (hopen : g.state.closed = false)
    (hdir : g.state.root.LeadsTo g.state.folder dir)
    (h : g.state.write a.table a.targetColumns = (.ok n, x')) :
    ∃ f, g.state.evaluate a.table a.targetColumns = .ok f ∧
      Written dir [f] g ⟨g.taken + 1, g.batches + 1, g.rows + n, x'⟩ := by
  obtain ⟨-, f, root, hf, rfl, hroot, rfl⟩ := SegmentExport.write_eq_ok h
  obtain ⟨hleads, hheld, helse⟩ := hdir.write (isName_segmentName _ _) hroot
  refine ⟨f, hf, rfl, rfl, by simp, rfl, rfl, hopen, ?_, hleads, fun i f' hi => ?_, ?_⟩
  · simp [segmentsOf, SegmentExport.nextPath, segmentPath]
  · cases i with
    | zero =>
      obtain rfl : f = f' := by simpa using hi
      exact hheld
    | succ i => simp at hi
  · intro names hnames
    exact helse names (hnames 0 (by simp))

/-- One segment, and those behind it. -/
theorem cons (h₁ : Written dir [f] g g₁) (h : Written dir frames g₁ g') :
    Written dir (f :: frames) g g' := by
  have hlength : g₁.state.written.length = g.state.written.length + 1 := by
    rw [h₁.segments]
    simp [segmentsOf]
  have hfolder := h₁.folder
  have hformat : g₁.state.options.format = g.state.options.format := by rw [h₁.options]
  constructor
  · rw [h.taken, h₁.taken]
    simp [Nat.add_assoc, Nat.add_comm 1]
  · rw [h.batches, h₁.batches]
    simp [Nat.add_assoc, Nat.add_comm 1]
  · rw [h.rows, h₁.rows, List.map_cons, List.sum_cons]
    simp [Nat.add_assoc]
  · exact h.folder.trans hfolder
  · exact h.options.trans h₁.options
  · exact h.open_
  · rw [h.segments, hlength, hfolder, hformat, h₁.segments]
    simp [segmentsOf, List.mapIdx_cons, Nat.add_comm 1, Nat.add_assoc]
  · exact hfolder ▸ h.leads
  · intro i f' hi
    cases i with
    | zero =>
      obtain rfl : f = f' := by simpa using hi
      -- the segments behind have other names
      rw [h.elsewhere _ fun j _ hj => ?_]
      · exact h₁.held 0 f rfl
      · rw [hlength, hformat, List.append_cancel_left_eq, List.cons.injEq] at hj
        have hnumber := segmentName_injective _ hj.1
        omega
    | succ i =>
      have hheld := h.held i f' (by simpa using hi)
      rw [hlength, hformat, Nat.add_assoc, Nat.add_comm 1] at hheld
      exact hheld
  · intro names hnames
    rw [h.elsewhere names fun i hi => ?_, h₁.elsewhere names fun i hi => ?_]
    · obtain rfl : i = 0 := by simpa using hi
      exact hnames 0 (by simp)
    · have hne := hnames (i + 1) (by simpa using hi)
      rw [hlength, hformat, Nat.add_assoc, Nat.add_comm 1]
      exact hne

end Written

open CompiledPlan SegmentExport

/-- **A loop that succeeds writes one segment for each batch**, in order, behind those that are
there, and touches nothing else. -/
theorem exportBatches_written {σ : Type} {p : CompiledPlan} {dir : List String}
    {batches : List (Except σ Table)} {g g' : Progress SegmentExport}
    (hopen : g.state.closed = false) (hdir : g.state.root.LeadsTo g.state.folder dir)
    (h : exportBatches p exporter batches g = (.ok (), g')) :
    ∃ frames, List.Forall₂ (p.Contributes g.state) batches frames ∧ Written dir frames g g' := by
  induction batches generalizing g with
  | nil =>
    obtain rfl : g = g' := congrArg Prod.snd h
    exact ⟨[], .nil, .nil hopen hdir⟩
  | cons batch batches ih =>
    rw [exportBatches_cons] at h
    cases happlied : (p.applied batch : Except (ConvertError σ ExportError) AppliedBatch) with
    | error e =>
      rw [happlied] at h
      cases h
    | ok a =>
      rw [happlied] at h
      cases hwrite : g.state.write a.table a.targetColumns with
      | mk answer x' =>
        simp only [exporter, hwrite] at h
        cases answer with
        | error e => cases h
        | ok n =>
          -- the first batch is written, and the others behind it
          obtain ⟨f, hf, h₁⟩ := Written.single hopen hdir hwrite
          obtain ⟨frames, hframes, hwritten⟩ := ih h₁.open_ (h₁.folder ▸ h₁.leads) h
          refine ⟨f :: frames, .cons ?_ (hframes.imp fun batch f hb => ?_), h₁.cons hwritten⟩
          · cases batch with
            | error e => cases happlied
            | ok t => exact ⟨t, a, rfl, mapError_eq_ok.1 happlied, hf⟩
          · obtain ⟨t, a, hbatch, ha, hf⟩ := hb
            refine ⟨t, a, hbatch, ha, ?_⟩
            rw [evaluate, ← h₁.options]
            exact hf

/-! ### An export from its start -/

namespace SegmentExport

/-- An export that starts has made the folder of its segments, as far as it was missing, and
nothing else. -/
theorem start_spec {root : Node} {folder : String} {options : ExportOptions} {x : SegmentExport}
    (hroot : root.standingAt? [] = some .folder) (h : start root folder options = .ok x) :
    x.folder = folder ∧ x.options = options ∧ x.written = [] ∧ x.closed = false ∧
      Node.Grown root x.root ∧ ∃ dir, x.root.LeadsTo folder dir := by
  rw [start] at h
  split at h
  next hfolder =>
    obtain rfl := Except.ok.inj h
    obtain rfl : folder = "" := by simpa using hfolder
    -- the empty path has no parts, and leads nowhere else
    exact ⟨rfl, rfl, rfl, rfl, .refl root, [], rfl, hroot⟩
  next =>
    split at h
    next root' hmake =>
      obtain rfl := Except.ok.inj h
      obtain ⟨hgrown, hleads⟩ := Node.makeFolders_ok hroot hmake
      exact ⟨rfl, rfl, rfl, rfl, hgrown, hleads⟩
    next => cases h

end SegmentExport

/-- What an export into a folder has come to that has written frames, and nothing else, since its
start. -/
structure Exported (root : Node) (folder : String) (options : ExportOptions) (frames : List Frame)
    (g : Progress SegmentExport) : Prop where
  taken : g.taken = frames.length
  batches : g.batches = frames.length
  rows : g.rows = (frames.map Frame.height).sum
  options_eq : g.state.options = options
  /-- Each frame is a segment. -/
  segments : g.state.written = segmentsOf folder options.format 0 frames
  /-- The file of each segment holds its frame. -/
  held : ∀ i f, frames[i]? = some f →
    g.state.root.standingOf? (segmentPath folder options.format i) =
      some (.file (contentOf options.format f))
  /-- The folder is there. -/
  hasFolder : folder = "" ∨ g.state.root.hasFolder folder = true
  /-- Everything else is as it was, new folders apart. -/
  elsewhere : ∀ names, (∀ i < frames.length,
      g.state.root.locate (segmentPath folder options.format i) ≠ .ok names) →
    g.state.root.standingAt? names = root.standingAt? names ∨
      (root.standingAt? names = none ∧ g.state.root.standingAt? names = some .folder)

/-- **An export whose loop succeeds has written one segment for each batch**, and nothing else. -/
theorem exportBatches_exported {σ : Type} {p : CompiledPlan} {root : Node} {folder : String}
    {options : ExportOptions} {x : SegmentExport} {batches : List (Except σ Table)}
    {g : Progress SegmentExport} (hroot : root.standingAt? [] = some .folder)
    (hstart : start root folder options = .ok x)
    (h : exportBatches p exporter batches ⟨0, 0, 0, x⟩ = (.ok (), g)) :
    ∃ frames, List.Forall₂ (p.Contributes x) batches frames ∧
      Exported root folder options frames g := by
  obtain ⟨rfl, rfl, hnone, hopen, hgrown, dir, hdir⟩ := start_spec hroot hstart
  obtain ⟨frames, hframes, hwritten⟩ := exportBatches_written hopen hdir h
  have hleads : g.state.root.LeadsTo x.folder dir := hwritten.leads
  -- where the path of a segment leads
  have hlocate : ∀ i, g.state.root.locate (segmentPath x.folder x.options.format i) =
      .ok (dir ++ [segmentName x.options.format i]) := fun i =>
    hleads.locate_join (isName_segmentName _ i)
  have hsegments := hwritten.segments
  have hheld := hwritten.held
  have helse := hwritten.elsewhere
  simp only [hnone, List.nil_append, List.length_nil, Nat.zero_add] at hsegments hheld helse
  refine ⟨frames, hframes, ?_, ?_, ?_, hwritten.options, hsegments, fun i f hi => ?_, ?_,
    fun names hnames => ?_⟩
  · rw [hwritten.taken, Nat.zero_add]
  · rw [hwritten.batches, Nat.zero_add]
  · rw [hwritten.rows, Nat.zero_add]
  · rw [Node.standingOf?, hlocate i]
    exact hheld i f hi
  · by_cases hempty : x.folder = ""
    · exact .inl hempty
    · exact .inr (hleads.hasFolder (by simpa using hempty))
  · have hsame : g.state.root.standingAt? names = x.root.standingAt? names := by
      refine helse names fun i hi hname => hnames i hi ?_
      rw [hname]
      exact hlocate i
    simp only [hsame]
    exact hgrown names

end FocusBilling
