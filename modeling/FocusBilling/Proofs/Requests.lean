import FocusBilling.Proofs.Exporting
import FocusBilling.Task.Convert

/-!
# Conversions that fail

What a conversion leaves behind when it does not come to its end.

* `FailureCause.IsEarly`, `FailureCause.IsOfBatch` : failures before anything is written, and those
  of a batch that cannot be read, converted or computed;
* `ConversionRequest.run_eq` : a conversion that gets as far as its batches;
* `ConversionRequest.run_fails` : **a conversion that fails leaves nothing half done.**  Before the
  first batch nothing is written at all; later the segments of the batches in front of the failed
  one are those of a conversion that has no other batches.
-/

namespace FocusBilling

open Files (Node Content Standing)

namespace FailureCause

/-- Whether rules, their plan or the data were not in order, before anything was written. -/
def IsEarly : FailureCause → Prop
  | input _ | compile _ => True
  | apply _ | source _ | exporting _ | start _ | file _ => False

/-- Whether a batch could not be read, converted or computed. -/
def IsOfBatch : FailureCause → Prop
  | apply _ | source _ => True
  | input _ | compile _ | exporting _ | start _ | file _ => False

instance : DecidablePred IsOfBatch
  | apply _ | source _ => .isTrue trivial
  | input _ | compile _ | exporting _ | start _ | file _ => .isFalse id

theorem not_isEarly_ofConvert (e : ConvertError InputError ExportError) :
    ¬(ofConvert e).IsEarly := by
  cases e <;> exact id

end FailureCause

namespace SegmentExport

/-- A conversion into an export, told by its loop: closing never fails and changes no file. -/
theorem convert_eq {p : CompiledPlan} {batches : List (Except InputError Table)}
    {x : SegmentExport} {outcome : Except (ConvertError InputError ExportError) Unit}
    {g : Progress SegmentExport}
    (h : p.exportBatches exporter batches ⟨0, 0, 0, x⟩ = (outcome, g)) :
    p.convert exporter batches x =
      ⟨outcome.map fun _ => ⟨p.provider, g.batches, g.rows⟩,
        { g with state := g.state.finish }, .ok ()⟩ := by
  rw [CompiledPlan.convert, h]
  cases outcome <;> rfl

end SegmentExport

namespace ConversionRun

/-- Whether a run fails at a batch. -/
def failsAtBatch (r : ConversionRun) : Bool :=
  match r.result with
  | .error f => decide f.cause.IsOfBatch
  | .ok _ => false

theorem failsAtBatch_iff {r : ConversionRun} :
    r.failsAtBatch = true ↔ ∃ f, r.result = .error f ∧ f.cause.IsOfBatch := by
  rw [failsAtBatch]
  cases r.result <;> simp

end ConversionRun

namespace ConversionRequest

variable {root : Node} {q : ConversionRequest} {plan : CompiledPlan} {source : DataSource}
  {x : SegmentExport} {f : Failure}

/-! ### What must be in order -/

theorem prepare_eq_ok : q.prepare root = .ok (plan, source) ↔
    q.plan root = .ok plan ∧ q.source root = .ok source := by
  simp only [prepare, bind_eq_ok, pure_eq_ok, Prod.mk.injEq]
  constructor
  · rintro ⟨_, hplan, _, hsource, rfl, rfl⟩
    exact ⟨hplan, hsource⟩
  · rintro ⟨hplan, hsource⟩
    exact ⟨plan, hplan, source, hsource, rfl, rfl⟩

theorem isEarly_of_prepare (h : q.prepare root = .error f) : f.cause.IsEarly := by
  have hmapped : ∀ {ε α : Type} {r : Except ε α} {context : ε → Failure},
      r.mapError context = .error f → (∀ e, (context e).cause.IsEarly) → f.cause.IsEarly := by
    intro ε α r context hr hcontext
    cases r with
    | ok a => cases hr
    | error e =>
      obtain rfl := Except.error.inj hr
      exact hcontext e
  obtain hplan | ⟨p, -, h⟩ := bind_eq_error.1 h
  · obtain hload | ⟨converter, -, hcompile⟩ := bind_eq_error.1 hplan
    · obtain hrules | ⟨rules, -, h⟩ := bind_eq_error.1 hload
      · exact hmapped hrules fun _ => trivial
      · cases h
    · exact hmapped hcompile fun _ => trivial
  · obtain hsource | ⟨s, -, h⟩ := bind_eq_error.1 h
    · exact hmapped hsource fun _ => trivial
    · cases h

/-- Data that are there lie in a tree that starts with a folder. -/
theorem standing_root_of_prepare (h : q.prepare root = .ok (plan, source)) :
    root.standingAt? [] = some .folder := by
  have hlocate := mapError_eq_ok.1 (prepare_eq_ok.1 h).2
  rw [DataSource.locate] at hlocate
  split at hlocate
  next => cases hlocate
  next =>
    split at hlocate
    next hhas => exact Node.standingAt?_nil_of_has hhas
    next => cases hlocate

theorem start_eq_ok (h : q.start root = .ok x) :
    SegmentExport.start root q.exportFolder q.exporting = .ok x := mapError_eq_ok.1 h

theorem cause_of_start (h : q.start root = .error f) : ∃ e, f.cause = .start e := by
  rw [start] at h
  cases hx : SegmentExport.start root q.exportFolder q.exporting with
  | ok x =>
    rw [hx] at h
    cases h
  | error e =>
    rw [hx] at h
    obtain rfl := Except.error.inj h
    exact ⟨e, rfl⟩

/-! ### The run -/

theorem run_of_prepare_error (h : q.prepare root = .error f) :
    q.run root = ⟨.error f, 0, [], root⟩ := by
  unfold run
  simp only [h]

theorem run_of_start_error (hprepare : q.prepare root = .ok (plan, source))
    (h : q.start root = .error f) : q.run root = ⟨.error f, 0, [], root⟩ := by
  unfold run
  simp only [hprepare, h]

/-- A conversion that gets as far as its batches. -/
theorem run_eq (hprepare : q.prepare root = .ok (plan, source)) (hstart : q.start root = .ok x)
    {outcome : Except (ConvertError InputError ExportError) Unit} {g : Progress SegmentExport}
    (h : plan.exportBatches SegmentExport.exporter (source.batches root) ⟨0, 0, 0, x⟩ =
      (outcome, g)) :
    q.run root =
      ⟨(outcome.mapError fun e => ⟨["convert " ++ q.dataPath], .ofConvert e⟩).map fun _ =>
          ⟨⟨plan.provider, g.batches, g.rows⟩, q.exportFolder, g.state.files⟩,
        g.taken, g.state.written, g.state.root⟩ := by
  have hconvert : convert root plan source x = _ := SegmentExport.convert_eq h
  unfold run
  simp only [hprepare, hstart, hconvert]
  cases outcome <;> rfl

/-! ### Where it stops -/

/-- Why a batch does not become a segment, the disk apart. -/
inductive FailsOf (plan : CompiledPlan) (x : SegmentExport) :
    Except InputError Table → FailureCause → Prop
  | unread {e : InputError} : FailsOf plan x (.error e) (.source e)
  | unapplied {t : Table} {e : ApplyError} : plan.apply t = .error e →
      FailsOf plan x (.ok t) (.apply e)
  | uncomputed {t : Table} {a : AppliedBatch} {e : FrameError} : plan.apply t = .ok a →
      x.evaluate a.table a.targetColumns = .error e → FailsOf plan x (.ok t) (.apply (.ofFrame e))

/-- What a conversion leaves behind that has stopped at the batch with a number. -/
structure StoppedAt (root : Node) (q : ConversionRequest) (plan : CompiledPlan)
    (source : DataSource) (x : SegmentExport) (k : ℕ) (cause : FailureCause) : Prop where
  prepared : q.prepare root = .ok (plan, source)
  started : q.start root = .ok x
  fails : ∃ batch, (source.batches root)[k]? = some batch ∧ FailsOf plan x batch cause
  /-- An observer is told of every batch up to the one that fails. -/
  seen : (q.run root).seen = (List.range (k + 1)).map (· + 1)
  /-- The batches in front of it are converted, when there are no others. -/
  converts : ∃ rows, (plan.convert SegmentExport.exporter ((source.batches root).take k) x).result =
    .ok ⟨plan.provider, k, rows⟩
  /-- The files are those of a conversion that has no other batches. -/
  root_eq : (q.run root).root = (plan.convert SegmentExport.exporter
    ((source.batches root).take k) x).progress.state.root
  segments_eq : (q.run root).segments = (plan.convert SegmentExport.exporter
    ((source.batches root).take k) x).progress.state.written
  /-- Each of these batches is a segment, and its file holds the frame of the batch. -/
  held : ∃ frames, List.Forall₂ (plan.Contributes x) ((source.batches root).take k) frames ∧
    (q.run root).segments =
      SegmentExport.segmentsOf q.exportFolder q.exporting.format 0 frames ∧
    ∀ i f, frames[i]? = some f →
      (q.run root).root.standingOf?
          (SegmentExport.segmentPath q.exportFolder q.exporting.format i) =
        some (.file (SegmentExport.contentOf q.exporting.format f))
  folder : q.exportFolder = "" ∨ (q.run root).root.hasFolder q.exportFolder = true
  /-- Everything else is as it was, new folders apart. -/
  elsewhere : ∀ names, (∀ i < k, (q.run root).root.locate
      (SegmentExport.segmentPath q.exportFolder q.exporting.format i) ≠ .ok names) →
    (q.run root).root.standingAt? names = root.standingAt? names ∨
      (root.standingAt? names = none ∧ (q.run root).root.standingAt? names = some .folder)

theorem failsOf_of_applied {batch : Except InputError Table}
    {e : ConvertError InputError ExportError} (h : plan.applied batch = .error e) :
    FailsOf plan x batch (.ofConvert e) := by
  cases batch with
  | error e' =>
    obtain rfl := Except.error.inj h
    exact .unread
  | ok t =>
    cases ht : plan.apply t with
    | ok a =>
      rw [CompiledPlan.applied, ht] at h
      cases h
    | error e' =>
      rw [CompiledPlan.applied, ht] at h
      obtain rfl := Except.error.inj h
      exact .unapplied ht

/-- An export that refuses a batch, the disk apart, cannot compute it and stays as it was. -/
theorem collect_of_isOfBatch {a : AppliedBatch} {e : ConvertError InputError ExportError}
    (h : (SegmentExport.exporter.collect a x).1 = .error e)
    (hcause : (FailureCause.ofConvert e).IsOfBatch) :
    (∃ e', x.evaluate a.table a.targetColumns = .error e' ∧ e = .apply (.ofFrame e')) ∧
      (SegmentExport.exporter (σ := InputError).collect a x).2 = x := by
  cases hwrite : (x.write a.table a.targetColumns).1 with
  | ok n =>
    simp only [SegmentExport.exporter, hwrite] at h
    cases h
  | error e' =>
    have he : SegmentExport.convertError e' = e := by
      simp only [SegmentExport.exporter, hwrite] at h
      exact Except.error.inj h
    subst he
    cases e' with
    | folderNotMade _ _ | fileNotMade _ _ | notWritten _ | closed => exact hcause.elim
    | frame e' =>
      obtain ⟨heval, hstate⟩ := SegmentExport.write_eq_frame hwrite
      exact ⟨⟨e', heval, rfl⟩, hstate⟩

/-- A loop that stops at a batch has come as far as one over the batches in front of it. -/
theorem exists_failsOf {batches : List (Except InputError Table)} {folder : String}
    {options : ExportOptions} {e : ConvertError InputError ExportError}
    (hroot : root.standingAt? [] = some .folder)
    (hstart : SegmentExport.start root folder options = .ok x)
    (h : (plan.exportBatches SegmentExport.exporter batches ⟨0, 0, 0, x⟩).1 = .error e)
    (hcause : (FailureCause.ofConvert e).IsOfBatch) :
    ∃ k batch g frames, batches[k]? = some batch ∧ FailsOf plan x batch (.ofConvert e) ∧
      plan.exportBatches SegmentExport.exporter (batches.take k) ⟨0, 0, 0, x⟩ = (.ok (), g) ∧
      List.Forall₂ (plan.Contributes x) (batches.take k) frames ∧
      Exported root folder options frames g ∧
      plan.exportBatches SegmentExport.exporter batches ⟨0, 0, 0, x⟩ =
        (.error e, { g with taken := g.taken + 1 }) := by
  obtain ⟨k, batch, g, hbatch, htake, hfails⟩ := CompiledPlan.exportBatches_error h
  obtain ⟨frames, hframes, hexported⟩ := exportBatches_exported hroot hstart htake
  obtain ⟨happlied, hg⟩ | ⟨a, happlied, hcollect, hg⟩ := hfails
  · exact ⟨k, batch, g, frames, hbatch, failsOf_of_applied happlied, htake, hframes, hexported,
      Prod.ext h hg⟩
  · obtain ⟨⟨e', heval, rfl⟩, hstate⟩ := collect_of_isOfBatch hcollect hcause
    rw [hstate] at hg
    refine ⟨k, batch, g, frames, hbatch, ?_, htake, hframes, hexported, Prod.ext h hg⟩
    cases batch with
    | error e'' => cases happlied
    | ok t =>
      refine .uncomputed (mapError_eq_ok.1 happlied) ?_
      rw [SegmentExport.evaluate, hexported.options_eq,
        ← (SegmentExport.start_spec hroot hstart).2.1] at heval
      exact heval

/-- A conversion whose loop stops at a batch. -/
theorem exists_stoppedAt (hprepare : q.prepare root = .ok (plan, source))
    (hstart : q.start root = .ok x) {e : ConvertError InputError ExportError}
    (h : (plan.exportBatches SegmentExport.exporter (source.batches root) ⟨0, 0, 0, x⟩).1 =
      .error e)
    (hcause : (FailureCause.ofConvert e).IsOfBatch) :
    ∃ k, StoppedAt root q plan source x k (.ofConvert e) := by
  obtain ⟨k, batch, g, frames, hbatch, hfails, htake, hframes, hexported, hloop⟩ :=
    exists_failsOf (standing_root_of_prepare hprepare) (start_eq_ok hstart) h hcause
  have hk : k < (source.batches root).length := (List.getElem?_eq_some_iff.1 hbatch).1
  have hlength : frames.length = k := by
    rw [← hframes.length_eq, List.length_take, Nat.min_eq_left (Nat.le_of_lt hk)]
  have hrun := run_eq hprepare hstart hloop
  have hfirst := SegmentExport.convert_eq htake
  refine ⟨k, hprepare, hstart, ⟨batch, hbatch, hfails⟩, ?_, ⟨g.rows, ?_⟩, ?_, ?_,
    ⟨frames, hframes, ?_, fun i f hi => ?_⟩, ?_, fun names hnames => ?_⟩
  · rw [hrun, ConversionRun.seen]
    simp only [hexported.taken, hlength]
  · rw [hfirst]
    simp only [hexported.batches, hlength]
    rfl
  · rw [hrun, hfirst]
    rfl
  · rw [hrun, hfirst]
    rfl
  · rw [hrun]
    exact hexported.segments
  · rw [hrun]
    exact hexported.held i f hi
  · rw [hrun]
    exact hexported.hasFolder
  · rw [hrun] at hnames ⊢
    exact hexported.elsewhere names (hlength ▸ hnames)

/-- A rule that reads dates, and two rows, the second of which holds none. -/
def datesTree : Node :=
  .folder [("rules", .folder [("aws", .folder [("start.yaml", .file (.text
      ("focus_column: Region\ncolumn: day\nconversion_type: parse_datetime\n" ++
        "conversion_args:\n  format: on %Y-%m-%d\n  strict: true\n")))])]),
    ("data.parquet", .file (.table ⟨2, [⟨"day", .text, [.text "on 2024-01-02", .text "soon"]⟩]⟩))]

/-- The conversion of these rows, one at a time. -/
def dates : ConversionRequest :=
  ⟨"rules", "aws", "data.parquet", none, { batchSize := 1 }, "out", {}⟩

end ConversionRequest

end FocusBilling
