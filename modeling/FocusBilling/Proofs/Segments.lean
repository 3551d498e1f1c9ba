import Mathlib.Data.List.Nodup
import FocusBilling.Export.Segments
import FocusBilling.Proofs.Files

/-!
# The segments of an export

An export takes calls in any order, and each of them may fail: a batch may not be computable, the
disk may refuse the file of a segment, or it may break off in the middle of it.

* `segmentName_injective` : no two numbers give one name, however many digits they have;
* `Attempt` : how a write may come out, on a disk that may fail;
* `Event`, `Step`, `Run` : calls with their answers, and sequences of them, between which other
  programs may do to the files whatever they like;
* `Attempt.outcome` : the four ways in which a write comes out;
* `Accounts` : the invariant, that the segments are numbered in order and keep the rows that were
  answered;
* `run_accounts` : **an export keeps its accounts.**  After every sequence of calls the list of
  segments, the number of rows and whether the export is closed are told by the answers alone, and
  the next call touches nothing but the file of the next segment.
-/

namespace FocusBilling

open Files (Node Fault Content)

namespace SegmentExport

/-! ### Names -/

/-- A padded number is read back, whatever its width. -/
theorem ofDigitChars_padded (width n : Nat) :
    Nat.ofDigitChars 10 (Text.padded width n).toList 0 = n := by
  simp [Text.padded, Nat.toString_eq_repr, Nat.ofDigitChars_append,
    Nat.ofDigitChars_replicate_zero]

/-- Padded numbers are told apart, also those that are wider than the padding. -/
theorem padded_injective (width : Nat) : Function.Injective (Text.padded width) := by
  intro a b h
  rw [← ofDigitChars_padded width a, ← ofDigitChars_padded width b, h]

theorem isDigit_padded {width n : Nat} {c : Char} (h : c ∈ (Text.padded width n).toList) :
    c.isDigit = true := by
  simp only [Text.padded, Nat.toString_eq_repr, String.toList_ofList, List.mem_append,
    List.mem_replicate, Nat.toList_repr] at h
  rcases h with ⟨-, rfl⟩ | h
  · rfl
  · exact Nat.isDigit_of_mem_toDigits (by decide) (by decide) h

theorem segmentName_injective (format : DataFormat) :
    Function.Injective (segmentName format) := by
  intro a b h
  have hl := congrArg String.toList h
  simp only [segmentName, String.toList_append, List.append_assoc, List.append_cancel_left_eq,
    List.append_cancel_right_eq] at hl
  exact padded_injective 5 (String.toList_inj.1 hl)

theorem isName_segmentName (format : DataFormat) (number : Nat) :
    Path.IsName (segmentName format number) := by
  have hform : (segmentName format number).toList = 's' :: ("egment_".toList ++
      (Text.padded 5 number).toList ++ ".".toList ++ format.name.toList) := by
    simp [segmentName]
  refine ⟨by simp [hform], by simp [hform], by simp [hform], fun h => ?_⟩
  have hpad : '/' ∉ (Text.padded 5 number).toList := fun h => by cases isDigit_padded h
  have hname : '/' ∉ format.name.toList := by cases format <;> decide
  simp only [hform, List.mem_cons, List.mem_append] at h
  rcases h with h | ((h | h) | h) | h
  · cases h
  · revert h; decide
  · exact hpad h
  · revert h; decide
  · exact hname h

/-- The path of the segment with a number. -/
def segmentPath (folder : String) (format : DataFormat) (number : Nat) : String :=
  Path.join folder (segmentName format number)

theorem segmentPath_injective (folder : String) (format : DataFormat) :
    Function.Injective (segmentPath folder format) := by
  intro a b h
  have hp := congrArg Path.parts h
  simp only [segmentPath, Path.parts_join _ (isName_segmentName _ _), List.append_cancel_left_eq,
    List.cons.injEq, Path.Part.name.injEq, and_true] at hp
  exact segmentName_injective format (String.toList_inj.1 hp)

/-! ### Calls -/

/-- How a write may come out. -/
inductive Attempt (x : SegmentExport) (t : Table) (targets : List String) :
    Except ExportError Nat → SegmentExport → Prop
  /-- The disk does as it is told. -/
  | carriedOut : Attempt x t targets (x.write t targets).1 (x.write t targets).2
  /-- The disk refuses the file. -/
  | refused {f : Frame} {fault : Fault} : x.closed = false → x.evaluate t targets = .ok f →
      Attempt x t targets (.error (.fileNotMade x.nextPath fault)) x
  /-- The disk takes the file and fails later, with whatever it has taken by then. -/
  | brokenOff {f : Frame} {content : Content} {root : Node} : x.closed = false →
      x.evaluate t targets = .ok f → x.root.write x.nextPath content = .ok root →
      Attempt x t targets (.error (.notWritten x.nextPath)) { x with root }

/-- The four ways in which a write comes out. -/
inductive Outcome (x : SegmentExport) (t : Table) (targets : List String) :
    Except ExportError Nat → SegmentExport → Prop
  | closed : x.closed = true → Outcome x t targets (.error .closed) x
  | failed {e : ExportError} : x.closed = false → Outcome x t targets (.error e) x
  /-- A file is left behind that is no segment. -/
  | leftBehind {f : Frame} {e : ExportError} {content : Content} {root : Node} :
      x.closed = false → x.evaluate t targets = .ok f →
      x.root.write x.nextPath content = .ok root → Outcome x t targets (.error e) { x with root }
  | added {f : Frame} {content : Content} {root : Node} :
      x.closed = false → x.evaluate t targets = .ok f →
      x.root.write x.nextPath content = .ok root →
      Outcome x t targets (.ok f.height)
        { x with root, written := x.written ++ [⟨x.nextPath, f.height, f.columns.length⟩] }

theorem Attempt.outcome {x x' : SegmentExport} {t : Table} {targets : List String}
    {answer : Except ExportError Nat} (h : x.Attempt t targets answer x') :
    x.Outcome t targets answer x' := by
  cases h with
  | refused ho hf => exact .failed ho
  | brokenOff ho hf hw => exact .leftBehind ho hf hw
  | carriedOut =>
    rw [write]
    split
    · rename_i hc
      exact .closed hc
    · rename_i hc
      have ho : x.closed = false := by simpa using hc
      split
      · exact .failed ho
      · rename_i f hf
        split
        · exact .failed ho
        · rename_i root hw
          split
          · exact .added ho hf hw
          · exact .leftBehind ho hf hw

/-- A call of an export, with its answer. -/
inductive Event (σ : Type) where
  | write (t : Table) (targets : List String) (answer : Except ExportError Nat)
  | collect (batch : AppliedBatch) (answer : Except (ConvertError σ ExportError) Nat)
  | finish
  | close (answer : Except (ConvertError σ ExportError) Unit)

namespace Event

variable {σ : Type}

/-- The batch that is to be written, with the targets. -/
def batch? : Event σ → Option (Table × List String)
  | write t targets _ => some (t, targets)
  | collect batch _ => some (batch.table, batch.targetColumns)
  | finish | close _ => none

/-- The number of rows that a write answers when it succeeds. -/
def rows? : Event σ → Option Nat
  | write _ _ answer => answer.toOption
  | collect _ answer => answer.toOption
  | finish | close _ => none

/-- Whether a call is answered by saying that the export has ended. -/
def SaysClosed : Event σ → Prop
  | write _ _ answer => answer = .error .closed
  | collect _ answer => answer = .error (.exporting .closed)
  | finish | close _ => False

end Event

variable {σ : Type}

/-- One call, from the state before to the state behind. -/
inductive Step : SegmentExport → Event σ → SegmentExport → Prop
  | write {x x' t targets answer} : x.Attempt t targets answer x' →
      Step x (.write t targets answer) x'
  | collect {x x' batch answer} : x.Attempt batch.table batch.targetColumns answer x' →
      Step x (.collect batch (answer.mapError convertError)) x'
  | finish {x} : Step x .finish x.finish
  | close {x} : Step x (.close (exporter.close x).1) (exporter (σ := σ).close x).2

/-- Calls one after the other; in between, other programs may change the files. -/
inductive Run (x₀ : SegmentExport) : List (Event σ) → SegmentExport → Prop
  | start : Run x₀ [] x₀
  | call {events x e x'} : Run x₀ events x → Step x e x' → Run x₀ (events ++ [e]) x'
  | meanwhile {events x} (root : Node) : Run x₀ events x → Run x₀ events { x with root }

/-! ### The invariant -/

/-- The accounts of an export into a folder that has answered some writes with numbers of rows. -/
structure Accounts (folder : String) (options : ExportOptions) (rows : List Nat)
    (x : SegmentExport) : Prop where
  folder_eq : x.folder = folder
  options_eq : x.options = options
  rows_eq : x.written.map Segment.rows = rows
  files_eq : x.files = (List.range rows.length).map (segmentPath folder options.format)

namespace Accounts

variable {folder : String} {options : ExportOptions} {rows : List Nat} {x x' : SegmentExport}
  {t : Table} {targets : List String} {answer : Except ExportError Nat}

theorem ofStart {root : Node} (h : start root folder options = .ok x) :
    Accounts folder options [] x ∧ x.closed = false := by
  unfold start at h
  split at h
  · cases h
    exact ⟨⟨rfl, rfl, rfl, rfl⟩, rfl⟩
  · split at h
    · cases h
      exact ⟨⟨rfl, rfl, rfl, rfl⟩, rfl⟩
    · cases h

theorem length_written (h : Accounts folder options rows x) : x.written.length = rows.length := by
  rw [← h.rows_eq, List.length_map]

theorem nextPath_eq (h : Accounts folder options rows x) :
    x.nextPath = segmentPath folder options.format rows.length := by
  rw [nextPath, h.folder_eq, h.options_eq, h.length_written, segmentPath]

theorem nodup_files (h : Accounts folder options rows x) : x.files.Nodup := by
  rw [h.files_eq]
  exact List.nodup_range.map (segmentPath_injective folder options.format)

theorem withRoot (h : Accounts folder options rows x) (root : Node) :
    Accounts folder options rows { x with root } :=
  ⟨h.folder_eq, h.options_eq, h.rows_eq, h.files_eq⟩

/-- A write keeps the accounts, with the rows that it answers. -/
theorem outcome (h : Accounts folder options rows x) (ho : x.Outcome t targets answer x') :
    Accounts folder options (rows ++ answer.toOption.toList) x' := by
  cases ho with
  | closed | failed => simpa [Except.toOption] using h
  | leftBehind => simpa [Except.toOption] using h.withRoot _
  | @added f content root hc he hw =>
    refine ⟨h.folder_eq, h.options_eq, by simp [h.rows_eq, Except.toOption], ?_⟩
    have hfiles := h.files_eq
    rw [files] at hfiles
    simp [files, hfiles, h.nextPath_eq, Except.toOption, List.range_succ]

end Accounts

/-! ### What one call does -/

/-- What one call adds and what it leaves as it is. -/
structure Orderly (x : SegmentExport) (e : Event σ) (x' : SegmentExport) : Prop where
  /-- A write that succeeds adds the next segment and its rows. -/
  added : ∀ n, e.rows? = some n →
    x'.files = x.files ++ [x.nextPath] ∧ x'.rows = x.rows + n ∧ x.closed = false ∧ x'.closed = false
  /-- A write that fails leaves the segments, the rows and whether the export is closed, and the
  next segment is still the same. -/
  failed : e.batch?.isSome = true → e.rows? = none →
    x'.written = x.written ∧ x'.closed = x.closed ∧ x'.nextPath = x.nextPath
  /-- A batch that cannot be computed changes no file. -/
  uncomputed : ∀ t targets error, e.batch? = some (t, targets) →
    x.evaluate t targets = .error error → x'.root = x.root
  /-- The other calls only close the export. -/
  ended : e.batch? = none → x' = x.finish
  /-- Behind the end nothing changes, and writes say so. -/
  closed : x.closed = true → x' = x ∧ (e.batch?.isSome = true → e.SaysClosed)
  /-- All names stand for what they stood for, those of the next segment apart. -/
  elsewhere : ∀ names, x.root.locate x.nextPath ≠ .ok names →
    x'.root.standingAt? names = x.root.standingAt? names
  /-- The files of the segments are the same as before. -/
  listed : ∀ path ∈ x.files, x'.root.standingOf? path = x.root.standingOf? path

/-- A call closes an export or leaves it as it is. -/
theorem Orderly.closed_eq {x x' : SegmentExport} {e : Event σ} (h : x.Orderly e x') :
    x'.closed = (x.closed || e.batch?.isNone) := by
  cases hb : e.batch? with
  | none =>
    rw [h.ended hb]
    simp [SegmentExport.finish]
  | some b =>
    cases hr : e.rows? with
    | none => simp [(h.failed (by rw [hb]; rfl) hr).2.1]
    | some n =>
      obtain ⟨-, -, hx, hx'⟩ := h.added n hr
      simp [hx, hx']

/-- What a write does to the files, when its segment has a path of its own. -/
private theorem Outcome.root_cases {x x' : SegmentExport} {t : Table} {targets : List String}
    {answer : Except ExportError Nat} (h : x.Outcome t targets answer x') :
    x'.root = x.root ∨ ∃ f content, x.evaluate t targets = .ok f ∧
      x.root.write x.nextPath content = .ok x'.root := by
  cases h with
  | closed | failed => exact .inl rfl
  | leftBehind _ he hw | added _ he hw => exact .inr ⟨_, _, he, hw⟩

/-- A write is orderly, whatever the call and the form of the answer. -/
private theorem Accounts.orderly_of_outcome {folder : String} {options : ExportOptions}
    {rows : List Nat} {x x' : SegmentExport} {t : Table} {targets : List String}
    {answer : Except ExportError Nat} {e : Event σ} (h : Accounts folder options rows x)
    (ho : x.Outcome t targets answer x') (hb : e.batch? = some (t, targets))
    (hr : e.rows? = answer.toOption) (hs : answer = .error .closed → e.SaysClosed) :
    x.Orderly e x' where
  added n hn := by
    rw [hr] at hn
    cases ho with
    | closed | failed | leftBehind => cases hn
    | added hc he hw =>
      cases hn
      exact ⟨by simp [files], by simp [SegmentExport.rows], hc, hc⟩
  failed _ hn := by
    rw [hr] at hn
    cases ho with
    | closed | failed | leftBehind => exact ⟨rfl, rfl, rfl⟩
    | added => cases hn
  uncomputed t' targets' error hb' he := by
    obtain ⟨rfl, rfl⟩ : t = t' ∧ targets = targets' := by simpa [hb] using hb'
    rcases ho.root_cases with hroot | ⟨f, content, hf, -⟩
    · exact hroot
    · cases hf.symm.trans he
  ended hn := by cases hb.symm.trans hn
  closed hc := by
    cases ho with
    | closed => exact ⟨rfl, fun _ => hs rfl⟩
    | failed hc' | leftBehind hc' | added hc' => cases hc.symm.trans hc'
  elsewhere names hne := by
    rcases ho.root_cases with hroot | ⟨f, content, -, hw⟩
    · rw [hroot]
    · exact Node.standingAt?_write_of_ne (isName_segmentName _ _) hw hne
  listed path hp := by
    rcases ho.root_cases with hroot | ⟨f, content, -, hw⟩
    · rw [hroot]
    · rw [h.files_eq] at hp
      obtain ⟨i, hi, rfl⟩ := List.mem_map.1 hp
      rw [h.nextPath_eq] at hw
      -- the numbers of the segments that are there are smaller than that of the next one
      refine Node.standingOf?_write_of_ne (isName_segmentName _ _) (isName_segmentName _ _)
        (fun hn => ?_) hw
      exact absurd (segmentName_injective _ hn) (Nat.ne_of_lt (List.mem_range.1 hi))

/-- Closing is orderly. -/
private theorem orderly_finish (x : SegmentExport) {e : Event σ} (hb : e.batch? = none)
    (hr : e.rows? = none) : x.Orderly e x.finish where
  added n hn := by cases hr.symm.trans hn
  failed hs := by rw [hb] at hs; cases hs
  uncomputed t targets error hs := by cases hb.symm.trans hs
  ended _ := rfl
  closed hc := ⟨by rw [finish, ← hc], fun hs => by rw [hb] at hs; cases hs⟩
  elsewhere _ _ := rfl
  listed _ _ := rfl

/-- Every call keeps the accounts, and it is orderly. -/
theorem Accounts.step {folder : String} {options : ExportOptions} {rows : List Nat}
    {x x' : SegmentExport} {e : Event σ} (h : Accounts folder options rows x) (hs : Step x e x') :
    Accounts folder options (rows ++ e.rows?.toList) x' ∧ x.Orderly e x' := by
  cases hs with
  | write ha => exact ⟨h.outcome ha.outcome, h.orderly_of_outcome ha.outcome rfl rfl id⟩
  | @collect _ batch answer ha =>
    have hr : (Event.collect (σ := σ) batch (answer.mapError convertError)).rows? =
        answer.toOption := by cases answer <;> rfl
    refine ⟨by rw [hr]; exact h.outcome ha.outcome, h.orderly_of_outcome ha.outcome rfl hr ?_⟩
    rintro rfl
    rfl
  | finish | close =>
    exact ⟨by simpa [Event.rows?] using ⟨h.folder_eq, h.options_eq, h.rows_eq, h.files_eq⟩,
      orderly_finish x rfl rfl⟩

/-- **An export keeps its accounts.**  After every sequence of calls, whatever fails on the way and
whatever other programs do to the files in between, the segments are those with the first numbers,
one for each write that succeeded and each under a name of its own, the number of rows is the sum of
the answers, and the export is closed once it has been told so; and the next call is orderly. -/
theorem run_accounts {root : Node} {folder : String} {options : ExportOptions}
    {x₀ x : SegmentExport} {events : List (Event σ)}
    (h₀ : start root folder options = .ok x₀) (hrun : Run x₀ events x) :
    x.files = (List.range (events.filterMap Event.rows?).length).map
        (segmentPath folder options.format) ∧
      x.files.Nodup ∧
      x.nextPath = segmentPath folder options.format (events.filterMap Event.rows?).length ∧
      x.rows = (events.filterMap Event.rows?).sum ∧
      x.closed = events.any (fun e => e.batch?.isNone) ∧
      ∀ (e : Event σ) (x' : SegmentExport), Step x e x' → x.Orderly e x' := by
  have hacc : Accounts folder options (events.filterMap Event.rows?) x ∧
      x.closed = events.any (fun e => e.batch?.isNone) := by
    induction hrun with
    | start => exact Accounts.ofStart h₀
    | @call events x e x' _ hs ih =>
      obtain ⟨ha, ho⟩ := ih.1.step hs
      refine ⟨?_, ?_⟩
      · rw [List.filterMap_append]
        cases hr : e.rows? <;> simpa [hr] using ha
      · rw [ho.closed_eq, ih.2, List.any_append]
        simp
    | meanwhile root _ ih => exact ⟨ih.1.withRoot root, ih.2⟩
  obtain ⟨ha, hc⟩ := hacc
  refine ⟨ha.files_eq, ha.nodup_files, ha.nextPath_eq, ?_, hc, fun e x' hs => (ha.step hs).2⟩
  rw [rows, ha.rows_eq]

/-- An export that writes a segment, cannot compute a batch, is refused a file by the disk, writes
the next segment under the number that the failures left free, and ends. -/
theorem run_accounts_regions :
    let t : Table := Frame.toTable ⟨2, [⟨"Region", .text, [.text "eu", .text "us"]⟩]⟩
    let events : List (Event Unit) :=
      [.write t ["Region"] (.ok 2), .write t ["Tags"] (.error (.frame (.missingColumn "Tags"))),
        .write t ["Region"] (.error (.fileNotMade "out/segment_00001.parquet" .notFound)),
        .write t ["Region"] (.ok 2), .finish, .write t ["Region"] (.error .closed)]
    ∃ x₀ x, start (.folder []) "out" {} = .ok x₀ ∧ Run x₀ events x ∧ x.files.Nodup ∧
      x.files = ["out/segment_00000.parquet", "out/segment_00001.parquet"] ∧ x.rows = 4 ∧
      x.closed = true := by
  intro t events
  let x₀ : SegmentExport := ⟨.folder [("out", .folder [])], "out", {}, [], false⟩
  let x₁ := (x₀.write t ["Region"]).2
  let x₂ := (x₁.write t ["Tags"]).2
  let x₃ := (x₂.write t ["Region"]).2
  let x₄ := (x₃.finish.write t ["Region"]).2
  have written {x : SegmentExport} {targets answer} (h : (x.write t targets).1 = answer) :
      Step (σ := Unit) x (.write t targets answer) (x.write t targets).2 :=
    .write (h ▸ .carriedOut)
  have refused : Step (σ := Unit) x₂
      (.write t ["Region"] (.error (.fileNotMade "out/segment_00001.parquet" .notFound))) x₂ := by
    obtain ⟨f, hf⟩ : ∃ f, x₂.evaluate t ["Region"] = .ok f :=
      exists_of_isSome (by decide +kernel)
    have hpath : x₂.nextPath = "out/segment_00001.parquet" := by decide +kernel
    exact .write (hpath ▸ .refused (by decide +kernel) hf)
  have hrun : Run x₀ events x₄ :=
    .call (.call (.call (.call (.call (.call .start
      (written (by decide +kernel))) (written (by decide +kernel))) refused)
      (written (by decide +kernel))) .finish) (written (by decide +kernel))
  have hstart : start (.folder []) "out" {} = .ok x₀ := rfl
  obtain ⟨hfiles, hnodup, -, hrows, hclosed, -⟩ := run_accounts hstart hrun
  exact ⟨x₀, x₄, hstart, hrun, hnodup, hfiles.trans (by decide +kernel), hrows, hclosed⟩

end SegmentExport

end FocusBilling
