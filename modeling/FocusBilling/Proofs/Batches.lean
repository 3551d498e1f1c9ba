import FocusBilling.Input.Data
import FocusBilling.Proofs.Frames

/-!
# The batches of data

A reader of batches answers one call after the other, and goes on answering behind its end.

* `BatchReader.Answers` : the answers of a reader to all calls, the first first, and none behind;
* `CsvChunks.Holds` : the rows that chunks on their way still hold, and how they end;
* `CsvChunks.Holds.nextFrame` : one batch taken off them;
* `yields_batches` : **the batches of data.**  Chunks of any size and tables both come to batches
  of the size in force, which hold all rows in order.
-/

namespace FocusBilling

variable {ε : Type}

/-! ### The size of batches -/

namespace LoadOptions

theorem size_pos (o : LoadOptions) : 0 < o.size := by
  simp only [size, clamp]
  omega

theorem size_le (o : LoadOptions) : o.size ≤ maxSize := by
  simp only [size, clamp, maxSize]
  omega

end LoadOptions

/-! ### The answers of a reader -/

namespace BatchReader

/-- A reader after so many calls. -/
def after (r : BatchReader ε) : Nat → BatchReader ε
  | 0 => r
  | k + 1 => r.next.2.after k

/-- The answer of a reader to the call behind so many others. -/
def answer (r : BatchReader ε) (k : Nat) : Option (Except ε Table) := (r.after k).next.1

/-- A reader answers its calls with some items, and all calls behind them with nothing. -/
def Answers (r : BatchReader ε) (items : List (Except ε Table)) : Prop :=
  ∀ k, r.answer k = items[k]?

variable {r : BatchReader ε} {items : List (Except ε Table)}

namespace Answers

theorem cons {item : Except ε Table} {s : BatchReader ε} (hr : r.next = (some item, s))
    (hs : s.Answers items) : r.Answers (item :: items) := by
  rintro (_ | k)
  · simp [answer, after, hr]
  · simpa [answer, after, hr] using hs k

theorem of_next_eq {s : BatchReader ε} (h : r.next = s.next) (hs : s.Answers items) :
    r.Answers items := by
  rintro (_ | k)
  · simpa [answer, after, h] using hs 0
  · simpa [answer, after, h] using hs (k + 1)

theorem done {size : Nat} {opened : Except ε (BatchState ε)} :
    (⟨size, opened, some .done⟩ : BatchReader ε).Answers [] := by
  intro k
  induction k with
  | zero => rfl
  | succ k ih => exact ih

theorem nil {size : Nat} {opened : Except ε (BatchState ε)}
    (hr : r.next = (none, ⟨size, opened, some .done⟩)) : r.Answers [] := by
  rintro (_ | k)
  · simp [answer, after, hr]
  · simpa [answer, after, hr] using done k

theorem single {size : Nat} {opened : Except ε (BatchState ε)} {item : Except ε Table}
    (hr : r.next = (some item, ⟨size, opened, some .done⟩)) : r.Answers [item] :=
  cons hr done

/-- The items of a reader, if one asks for them often enough. -/
theorem take_eq (h : r.Answers items) (n : Nat) : take n r = items.take n := by
  induction n generalizing r items with
  | zero => rfl
  | succ n ih =>
    have hfirst : r.next.1 = items[0]? := h 0
    have hrest : r.next.2.Answers items.tail := fun k => by
      simpa [answer, after] using h (k + 1)
    rw [take]
    cases hn : r.next with
    | mk first s =>
      rw [hn] at hfirst hrest
      cases items with
      | nil => cases hfirst; rfl
      | cons item items =>
        cases hfirst
        rw [List.take_succ_cons]
        exact congrArg (item :: ·) (ih hrest)

end Answers

end BatchReader

/-! ### Chunks on their way -/

namespace CsvChunks

/-- The frames that a source delivers before it fails. -/
def delivered : List (Except ε (List Frame)) → List Frame
  | .ok chunks :: rest => chunks ++ delivered rest
  | _ => []

/-- The failure of a source, if it fails. -/
def fault? : List (Except ε (List Frame)) → Option ε
  | [] => none
  | .ok _ :: rest => fault? rest
  | .error e :: _ => some e

variable {σ : List (String × DType)} {c d : CsvChunks ε} {rest : Frame} {fault : Option ε}
  {size : Nat}

theorem nextFrame_of_some {found : Option Frame × CsvChunks ε} (ha : c.answer? size = some found) :
    c.nextFrame size = .ok found := by
  rw [nextFrame]
  split <;> simp_all

theorem nextFrame_of_error {e : ε} (ha : c.answer? size = none) (hr : c.readOn = .error e) :
    c.nextFrame size = .error e := by
  rw [nextFrame]
  split
  · simp_all
  · split <;> simp_all

theorem nextFrame_of_ok (ha : c.answer? size = none) (hr : c.readOn = .ok d) :
    c.nextFrame size = d.nextFrame size := by
  rw [nextFrame]
  split
  · simp_all
  · split <;> simp_all

/-- Rows that wait for more are fewer than a batch. -/
theorem height_waiting (hs : 0 < size) (ha : c.answer? size = none) :
    (c.pending.getD (.empty σ)).height < size := by
  rw [answer?] at ha
  cases hp : c.pending with
  | none => exact hs
  | some rows =>
    simp only [hp] at ha
    split at ha
    next => cases ha
    next hlt => exact Nat.lt_of_not_le hlt

theorem fits_foldl_join {chunks : List Frame} {waiting : Option Frame}
    (hw : ∀ f ∈ waiting, f.Fits σ) (hc : ∀ f ∈ chunks, f.Fits σ) :
    ∀ f ∈ chunks.foldl (fun w chunk => some (Batches.join w chunk)) waiting, f.Fits σ := by
  induction chunks generalizing waiting with
  | nil => exact hw
  | cons chunk chunks ih =>
    have hchunk := hc chunk List.mem_cons_self
    refine ih ?_ fun f hf => hc f (List.mem_cons_of_mem _ hf)
    rintro f ⟨⟩
    cases waiting with
    | none => exact hchunk
    | some rows => exact (hw rows rfl).append hchunk

theorem getD_foldl_join {chunks : List Frame} {waiting : Option Frame}
    (hw : ∀ f ∈ waiting, f.Fits σ) (hc : ∀ f ∈ chunks, f.Fits σ) :
    (chunks.foldl (fun w chunk => some (Batches.join w chunk)) waiting).getD (.empty σ) =
      chunks.foldl Frame.append (waiting.getD (.empty σ)) := by
  induction chunks generalizing waiting with
  | nil => rfl
  | cons chunk chunks ih =>
    have hchunk := hc chunk List.mem_cons_self
    -- the first chunk waits as it is, without an empty frame in front of it
    have hjoin : (waiting.getD (.empty σ)).append chunk = Batches.join waiting chunk := by
      cases waiting with
      | none => exact Frame.empty_append hchunk
      | some rows => rfl
    have hfits : ∀ f ∈ some (Batches.join waiting chunk), f.Fits σ := by
      have hone : ∀ f ∈ [chunk], f.Fits σ := by simpa using hchunk
      exact fits_foldl_join hw hone
    rw [List.foldl_cons, List.foldl_cons, hjoin]
    exact ih hfits fun f hf => hc f (List.mem_cons_of_mem _ hf)

/-- What chunks on their way still hold: the rows of a frame, and a failure behind them or none. -/
structure Holds (σ : List (String × DType)) (c : CsvChunks ε) (rest : Frame)
    (fault : Option ε) : Prop where
  fits_pending : ∀ f ∈ c.pending, f.Fits σ
  fits_delivered : ∀ f ∈ delivered c.deliveries, f.Fits σ
  rest_eq : rest = (c.pending.getD (.empty σ)).append (.stack σ (delivered c.deliveries))
  fault_eq : fault = fault? c.deliveries
  deliveries_eq : c.exhausted = true → c.deliveries = []

namespace Holds

theorem fits_waiting (h : Holds σ c rest fault) : (c.pending.getD (.empty σ)).Fits σ := by
  cases hp : c.pending with
  | none => exact .empty σ
  | some rows => exact h.fits_pending rows hp

theorem fits (h : Holds σ c rest fault) : rest.Fits σ :=
  h.rest_eq ▸ h.fits_waiting.append (.stack h.fits_delivered)

/-- At the end of the source, the rows that wait are all that is left. -/
theorem of_exhausted (h : Holds σ c rest fault) (he : c.exhausted = true) :
    rest = c.pending.getD (.empty σ) ∧ fault = none := by
  have hd := h.deliveries_eq he
  refine ⟨?_, by rw [h.fault_eq, hd, fault?]⟩
  rw [h.rest_eq, hd]
  exact Frame.append_empty h.fits_waiting

/-- A full batch taken off the rows that wait. -/
theorem full {rows : Frame} (h : Holds σ c rest fault) (hp : c.pending = some rows)
    (hle : size ≤ rows.height) :
    rows.slice 0 size = rest.slice 0 size ∧ size ≤ rest.height ∧
      Holds σ
        { c with
          pending := (if 0 < (rows.suffix size).height then some (rows.suffix size) else none) }
        (rest.suffix size) fault := by
  have hrows := h.fits_pending rows hp
  have hlater : (Frame.stack σ (delivered c.deliveries)).Fits σ := .stack h.fits_delivered
  have hrest : rest = rows.append (.stack σ (delivered c.deliveries)) := by
    rw [h.rest_eq, hp, Option.getD_some]
  refine ⟨?_, ?_, ?_, h.fits_delivered, ?_, h.fault_eq, h.deliveries_eq⟩
  · rw [hrest, Frame.slice_append hrows hlater hle]
  · rw [hrest, Frame.height_append]
    omega
  · rintro f hf
    split at hf
    · cases hf
      exact hrows.suffix size
    · cases hf
  · rw [hrest, Frame.suffix_append hrows hlater hle]
    split
    · rfl
    next ht => rw [Option.getD_none, (hrows.suffix size).eq_empty (by omega)]

/-- Without asking the source: the next batch, or at the end nothing. -/
theorem answer?_some {found : Option Frame} (h : Holds σ c rest fault)
    (ha : c.answer? size = some (found, d)) :
    (found = some (rest.slice 0 size) ∧ Holds σ d (rest.suffix size) fault ∧
        (size ≤ rest.height ∨ 0 < rest.height ∧ fault = none)) ∨
      (found = none ∧ rest.height = 0 ∧ fault = none) := by
  rw [answer?] at ha
  cases hp : c.pending with
  | some rows =>
    simp only [hp] at ha
    split at ha
    next hle =>
      cases ha
      obtain ⟨hslice, hheight, hholds⟩ := h.full hp hle
      exact .inl ⟨congrArg some hslice, hholds, .inl hheight⟩
    next hlt =>
      split at ha
      next he =>
        -- the source is at its end, so the rows that wait are the last batch
        cases ha
        obtain ⟨hrest, hfault⟩ := h.of_exhausted he
        rw [hp, Option.getD_some] at hrest
        subst hrest
        split
        next hpos =>
          refine .inl ⟨?_, ⟨?_, h.fits_delivered, ?_, h.fault_eq, h.deliveries_eq⟩,
            .inr ⟨hpos, hfault⟩⟩
          · rw [Frame.slice_all h.fits (by omega)]
          · rintro f ⟨⟩
          · have hempty := (h.fits.suffix size).eq_empty (by rw [Frame.height_suffix]; omega)
            rw [hempty, h.deliveries_eq he]
            exact (Frame.append_empty (.empty σ)).symm
        next hzero => exact .inr ⟨rfl, by omega, hfault⟩
      next => cases ha
  | none =>
    simp only [hp] at ha
    split at ha
    next he =>
      cases ha
      obtain ⟨hrest, hfault⟩ := h.of_exhausted he
      exact .inr ⟨rfl, by rw [hrest, hp]; rfl, hfault⟩
    next => cases ha

theorem readOn_ok (h : Holds σ c rest fault) (hr : c.readOn = .ok d) :
    Holds σ d rest fault := by
  obtain ⟨deliveries, pending, exhausted⟩ := c
  have hwaiting : (pending.getD (.empty σ)).Fits σ := h.fits_waiting
  obtain ⟨hp, hdel, hrest, hfault, hex⟩ := h
  cases deliveries with
  | nil =>
    cases hr
    exact ⟨hp, hdel, hrest, hfault, fun _ => rfl⟩
  | cons delivery later =>
    cases delivery with
    | error e => cases hr
    | ok chunks =>
      -- the chunks move from the front of what is delivered to the end of what waits
      cases hr
      simp only [delivered, List.mem_append] at hdel
      have hchunks : ∀ f ∈ chunks, f.Fits σ := fun f hf => hdel f (.inl hf)
      have hlater : ∀ f ∈ delivered later, f.Fits σ := fun f hf => hdel f (.inr hf)
      refine ⟨fits_foldl_join hp hchunks, hlater, ?_, hfault, fun he => nomatch hex he⟩
      rw [hrest, getD_foldl_join hp hchunks, Frame.foldl_append hwaiting hchunks,
        Frame.append_assoc hwaiting (.stack hchunks) (.stack hlater), delivered,
        Frame.stack_append hchunks hlater]

theorem readOn_error {e : ε} (hs : 0 < size) (h : Holds σ c rest fault)
    (ha : c.answer? size = none) (hr : c.readOn = .error e) :
    rest.height < size ∧ fault = some e := by
  have hwaiting := height_waiting (σ := σ) hs ha
  obtain ⟨deliveries, pending, exhausted⟩ := c
  cases deliveries with
  | nil => cases hr
  | cons delivery later =>
    cases delivery with
    | ok chunks => cases hr
    | error e =>
      cases hr
      refine ⟨?_, h.fault_eq⟩
      rw [h.rest_eq]
      exact hwaiting

/-- **One batch taken off chunks on their way**: a full one if there are rows enough, all that is
left at the end, and what keeps the rest from coming only if there is no full one. -/
theorem nextFrame (hs : 0 < size) (h : Holds σ c rest fault) :
    (∃ d, c.nextFrame size = .ok (some (rest.slice 0 size), d) ∧
        Holds σ d (rest.suffix size) fault ∧
        (size ≤ rest.height ∨ 0 < rest.height ∧ fault = none)) ∨
      (∃ d, c.nextFrame size = .ok (none, d) ∧ rest.height = 0 ∧ fault = none) ∨
      (∃ e, c.nextFrame size = .error e ∧ rest.height < size ∧ fault = some e) := by
  induction c using CsvChunks.nextFrame.induct size with
  | case1 c found ha =>
    rw [nextFrame_of_some ha]
    obtain ⟨batch, d⟩ := found
    rcases h.answer?_some ha with ⟨rfl, hd, hheight⟩ | ⟨rfl, hzero, hfault⟩
    · exact .inl ⟨d, rfl, hd, hheight⟩
    · exact .inr (.inl ⟨d, rfl, hzero, hfault⟩)
  | case2 c ha e hr =>
    rw [nextFrame_of_error ha hr]
    exact .inr (.inr ⟨e, rfl, h.readOn_error hs ha hr⟩)
  | case3 c ha d hr ih =>
    rw [nextFrame_of_ok ha hr]
    exact ih (h.readOn_ok hr)

end Holds

end CsvChunks

/-! ### Whole data -/

namespace BatchReader

open CsvChunks (Holds delivered fault?)

variable {σ : List (String × DType)} {rest : Frame} {fault : Option ε} {size : Nat}

/-- How many batches come of so many rows: behind a failure only the full ones. -/
def count (size rows : Nat) (fails : Bool) : Nat :=
  if fails then rows / size else (rows + size - 1) / size

/-- The items that rows come to, and a failure behind them or none. -/
def itemsOf (size : Nat) (rest : Frame) (fault : Option ε) : List (Except ε Table) :=
  ((rest.cuts size (count size rest.height fault.isSome)).map fun f => .ok f.toTable) ++
    fault.toList.map .error

theorem lt_count_iff (hs : 0 < size) {rows k : Nat} :
    k < count size rows false ↔ k * size < rows := by
  have hle : k + 1 ≤ (rows + size - 1) / size ↔ (k + 1) * size ≤ rows + size - 1 :=
    Nat.le_div_iff_mul_le hs
  rw [Nat.succ_mul] at hle
  simp only [count, Bool.false_eq_true, if_false]
  omega

theorem count_suffix (hs : 0 < size) {rows : Nat} {fails : Bool}
    (hr : size ≤ rows ∨ 0 < rows ∧ fails = false) :
    count size rows fails = count size (rows - size) fails + 1 := by
  by_cases hle : size ≤ rows
  · obtain ⟨k, rfl⟩ := Nat.exists_eq_add_of_le hle
    rw [Nat.add_sub_cancel_left]
    cases fails with
    | false =>
      simp only [count, Bool.false_eq_true, if_false]
      rw [show size + k + size - 1 = k + size - 1 + size by omega, Nat.add_div_right _ hs]
    | true =>
      simp only [count, if_true]
      rw [Nat.add_comm, Nat.add_div_right _ hs]
  -- the last batch is not full, and none is left behind it
  · obtain ⟨hpos, rfl⟩ := hr.resolve_left hle
    simp only [count, Bool.false_eq_true, if_false]
    rw [show rows - size = 0 by omega, show rows + size - 1 = rows - 1 + size by omega,
      Nat.add_div_right _ hs, Nat.div_eq_of_lt (show rows - 1 < size by omega),
      Nat.div_eq_of_lt (show 0 + size - 1 < size by omega)]

theorem count_zero (hs : 0 < size) (fails : Bool) : count size 0 fails = 0 := by
  cases fails with
  | false => exact Nat.div_eq_of_lt (by omega)
  | true => exact Nat.zero_div size

theorem itemsOf_cons (hs : 0 < size) (hf : rest.Fits σ)
    (hr : size ≤ rest.height ∨ 0 < rest.height ∧ fault = none) :
    itemsOf size rest fault =
      .ok (rest.slice 0 size).toTable :: itemsOf size (rest.suffix size) fault := by
  have hfails : size ≤ rest.height ∨ 0 < rest.height ∧ fault.isSome = false := by simpa using hr
  rw [itemsOf, itemsOf, Frame.height_suffix, count_suffix hs hfails, Frame.cuts_succ hf]
  rfl

theorem itemsOf_none (hs : 0 < size) (hz : rest.height = 0) :
    itemsOf size rest (none : Option ε) = [] := by
  rw [itemsOf, hz, count_zero hs]
  rfl

theorem itemsOf_some {e : ε} (hlt : rest.height < size) :
    itemsOf size rest (some e) = [.error e] := by
  have hcount : count size rest.height true = 0 := Nat.div_eq_of_lt hlt
  rw [itemsOf, Option.isSome_some, hcount]
  rfl

theorem answers_chunks (hs : 0 < size) (opened : Except ε (BatchState ε)) {c : CsvChunks ε}
    (h : Holds σ c rest fault) :
    (⟨size, opened, some (.csv c)⟩ : BatchReader ε).Answers (itemsOf size rest fault) := by
  -- each batch takes some of the rows that are left
  induction hn : rest.height using Nat.strongRecOn generalizing c rest with
  | ind n ih =>
    subst hn
    rcases h.nextFrame hs with ⟨d, hc, hd, hheight⟩ | ⟨d, hc, hzero, rfl⟩ | ⟨e, hc, hlt, rfl⟩
    · rw [itemsOf_cons hs h.fits hheight]
      have hnext : next ⟨size, opened, some (.csv c)⟩ =
          (some (.ok (rest.slice 0 size).toTable), ⟨size, opened, some (.csv d)⟩) := by
        simp only [next, nextFrom, advance, hc]
        rfl
      refine .cons hnext (ih _ ?_ hd rfl)
      rw [Frame.height_suffix]
      omega
    · rw [itemsOf_none hs hzero]
      have hnext : next ⟨size, opened, some (.csv c)⟩ = (none, ⟨size, opened, some .done⟩) := by
        simp only [next, nextFrom, advance, hc]
        rfl
      exact .nil hnext
    · rw [itemsOf_some hlt]
      have hnext : next ⟨size, opened, some (.csv c)⟩ =
          (some (.error e), ⟨size, opened, some .done⟩) := by
        simp only [next, nextFrom, advance, hc]
        rfl
      exact .single hnext

/-! ### Tables -/

/-- A table of so many rows, out of which batches are cut from the one of a number on. -/
def tableFrom (size : Nat) (opened : Except ε (BatchState ε)) (cut : Int64 → UInt32 → Table)
    (rows k : Nat) : BatchReader ε :=
  ⟨size, opened, some (.parquet cut (.ofNat rows) (.ofNat (k * size)))⟩

variable (opened : Except ε (BatchState ε)) (cut : Int64 → UInt32 → Table) {rows k : Nat}

/-- No place in a table runs over, in front of a batch or behind the last. -/
theorem toNat_place (hm : size ≤ LoadOptions.maxSize) (hr : rows < 2 ^ 63 - 2 ^ 32) {place : Nat}
    (hp : place < rows + size) : (UInt64.ofNat place).toNat = place := by
  refine UInt64.toNat_ofNat_of_lt ?_
  simp only [LoadOptions.maxSize] at hm
  simp only [UInt64.size]
  omega

theorem place_le (hs : 0 < size) (hk : k ≤ count size rows false) :
    k * size < rows + size := by
  cases k with
  | zero => omega
  | succ k =>
    have hlt : k * size < rows := (lt_count_iff hs).1 hk
    rw [Nat.succ_mul]
    omega

theorem next_tableFrom (hm : size ≤ LoadOptions.maxSize) (hr : rows < 2 ^ 63 - 2 ^ 32)
    (hs : 0 < size) (hk : k * size < rows) :
    (tableFrom size opened cut rows k).next =
      (some (.ok (cut (.ofNat (k * size)) (.ofNat size))),
        tableFrom size opened cut rows (k + 1)) := by
  have hlt : ¬UInt64.ofNat rows ≤ UInt64.ofNat (k * size) := by
    rw [UInt64.le_iff_toNat_le, toNat_place hm hr (by omega), toNat_place hm hr (by omega)]
    omega
  simp only [tableFrom, next, nextFrom, advance, hlt, if_false, ← UInt64.ofNat_add, Nat.succ_mul,
    UInt64.toInt64_ofNat']

theorem next_tableFrom_end (hm : size ≤ LoadOptions.maxSize) (hr : rows < 2 ^ 63 - 2 ^ 32)
    (hs : 0 < size) (hk : k = count size rows false) :
    (tableFrom size opened cut rows k).next = (none, ⟨size, opened, some .done⟩) := by
  have hend : ¬k * size < rows := fun h => Nat.ne_of_lt ((lt_count_iff hs).2 h) hk
  have hle : UInt64.ofNat rows ≤ UInt64.ofNat (k * size) := by
    rw [UInt64.le_iff_toNat_le, toNat_place hm hr (place_le hs (Nat.le_of_eq hk)),
      toNat_place hm hr (by omega)]
    omega
  simp only [tableFrom, next, nextFrom, advance, hle, if_true]

theorem answers_table (hs : 0 < size) (hm : size ≤ LoadOptions.maxSize)
    (hr : rows < 2 ^ 63 - 2 ^ 32) {left : Nat} (hk : k + left = count size rows false) :
    (tableFrom size opened cut rows k).Answers
      ((List.range' k left).map fun i => .ok (cut (.ofNat (i * size)) (.ofNat size))) := by
  induction left generalizing k with
  | zero => exact .nil (next_tableFrom_end opened cut hm hr hs hk)
  | succ left ih =>
    have hlt : k * size < rows := (lt_count_iff hs).1 (by omega)
    exact .cons (next_tableFrom opened cut hm hr hs hlt) (ih (by omega))

theorem after_tableFrom (hs : 0 < size) (hm : size ≤ LoadOptions.maxSize)
    (hr : rows < 2 ^ 63 - 2 ^ 32) {calls : Nat}
    (hk : k + calls ≤ count size rows false) :
    (tableFrom size opened cut rows k).after calls =
      tableFrom size opened cut rows (k + calls) := by
  induction calls generalizing k with
  | zero => rfl
  | succ calls ih =>
    have hlt : k * size < rows := (lt_count_iff hs).1 (by omega)
    rw [after, next_tableFrom opened cut hm hr hs hlt, ih (by omega), Nat.add_right_comm k 1 calls,
      Nat.add_assoc]

/-! ### All batches at once -/

/-- A reader answers its calls with some items and all calls behind them with nothing, and the
items are all its batches. -/
def Yields (r : BatchReader ε) (items : List (Except ε Table)) : Prop :=
  r.Answers items ∧ r.all = items

theorem count_le (hs : 0 < size) (rows : Nat) : count size rows false ≤ rows := by
  cases hc : count size rows false with
  | zero => exact Nat.zero_le _
  | succ k =>
    have hlt : k * size < rows := (lt_count_iff hs).1 (by omega)
    have hle : k ≤ k * size := Nat.le_mul_of_pos_right k hs
    omega

theorem length_itemsOf_le (hs : 0 < size) (rest : Frame) (fault : Option ε) :
    (itemsOf size rest fault).length ≤ rest.height + 1 := by
  simp only [itemsOf, Frame.cuts, List.length_append, List.length_map, List.length_range]
  cases fault with
  | none =>
    have hle := count_le hs rest.height
    simp only [Option.isSome_none, Option.toList_none, List.length_nil]
    omega
  | some e =>
    have hle : rest.height / size ≤ rest.height := Nat.div_le_self ..
    simp only [count, Option.isSome_some, if_true, Option.toList_some, List.length_singleton]
    omega

theorem height_delivered_le (σ : List (String × DType))
    (deliveries : List (Except ε (List Frame))) :
    (Frame.stack σ (delivered deliveries)).height ≤
      CsvChunks.rows (⟨deliveries, none, false⟩ : CsvChunks ε) := by
  rw [Frame.height_stack, CsvChunks.rows]
  induction deliveries with
  | nil => simp [delivered]
  | cons delivery later ih =>
    cases delivery with
    | error e => simp [delivered]
    | ok chunks =>
      simp only [Option.toList_none, List.nil_append] at ih ⊢
      simp only [delivered, Except.toOption, List.filterMap_cons, List.flatten_cons,
        List.map_append, List.sum_append]
      exact Nat.add_le_add_left ih _

theorem answers_start {s : BatchState ε} {items : List (Except ε Table)}
    (h : (⟨size, .ok s, some s⟩ : BatchReader ε).Answers items) :
    (start size (.ok s)).Answers items := by
  have hnext : (start size (.ok s)).next = (⟨size, .ok s, some s⟩ : BatchReader ε).next := rfl
  exact .of_next_eq hnext h

theorem yields_chunks (hs : 0 < size) (deliveries : List (Except ε (List Frame)))
    (hfits : ∀ f ∈ delivered deliveries, f.Fits σ) :
    (ofChunks size deliveries).Yields
      (itemsOf size (.stack σ (delivered deliveries)) (fault? deliveries)) := by
  have hempty := Frame.empty_append (Frame.Fits.stack hfits)
  have hholds : Holds σ ⟨deliveries, none, false⟩ (.stack σ (delivered deliveries))
      (fault? deliveries) :=
    ⟨by simp, hfits, hempty.symm, rfl, by simp⟩
  have hanswers := answers_start (answers_chunks hs _ hholds)
  refine ⟨hanswers, (hanswers.take_eq _).trans (List.take_of_length_le ?_)⟩
  have hheight := height_delivered_le σ deliveries
  exact Nat.le_trans (length_itemsOf_le hs _ _) (Nat.succ_le_succ hheight)

theorem yields_table (hs : 0 < size) (hm : size ≤ LoadOptions.maxSize)
    (hr : rows < 2 ^ 63 - 2 ^ 32) :
    (ofTable size cut (.ofNat rows) : BatchReader ε).Yields
      ((List.range ((rows + size - 1) / size)).map fun i =>
        .ok (cut (.ofNat (i * size)) (.ofNat size))) := by
  have hanswers := answers_table (.ok (.parquet cut (.ofNat rows) 0) : Except ε _) cut hs hm hr
    (Nat.zero_add (count size rows false))
  rw [← List.range_eq_range', tableFrom, Nat.zero_mul] at hanswers
  have hopen := answers_start hanswers
  refine ⟨hopen, (hopen.take_eq _).trans (List.take_of_length_le ?_)⟩
  simp only [List.length_map, List.length_range, BatchState.rows, toNat_place hm hr
    (show rows < rows + size by omega)]
  exact Nat.le_succ_of_le (count_le hs rows)

theorem chunks_splitInto (hs : 0 < size) {deliveries : List (Except ε (List Frame))}
    (hfits : ∀ f ∈ delivered deliveries, f.Fits σ) (hf : fault? deliveries = none) :
    ∃ batches, (Frame.stack σ (delivered deliveries)).SplitInto σ size batches ∧
      (ofChunks size deliveries).Yields (batches.map fun b => .ok b.toTable) := by
  refine ⟨_, Frame.splitInto_cuts (Frame.Fits.stack hfits) hs, ?_⟩
  have h := yields_chunks hs deliveries hfits
  rw [hf] at h
  simpa [itemsOf, count] using h

theorem chunks_full (hs : 0 < size) {deliveries : List (Except ε (List Frame))}
    (hfits : ∀ f ∈ delivered deliveries, f.Fits σ) {e : ε} (hf : fault? deliveries = some e) :
    ∃ batches, batches.length = (Frame.stack σ (delivered deliveries)).height / size ∧
      (∀ b ∈ batches, b.Fits σ ∧ b.height = size) ∧
      Frame.stack σ batches =
        (Frame.stack σ (delivered deliveries)).slice 0 (batches.length * size) ∧
      (ofChunks size deliveries).Yields
        ((batches.map fun b => .ok b.toTable) ++ [.error e]) := by
  have hwhole := Frame.Fits.stack hfits
  have h := yields_chunks hs deliveries hfits
  rw [hf] at h
  generalize Frame.stack σ (delivered deliveries) = whole at hwhole h ⊢
  refine ⟨whole.cuts size (whole.height / size), by simp [Frame.cuts], fun b hb => ⟨?_, ?_⟩, ?_, h⟩
  · exact hwhole.cuts _ _ b hb
  · exact Frame.height_of_mem_cuts (Nat.div_mul_le_self ..) b hb
  · rw [Frame.stack_cuts hwhole]
    simp [Frame.cuts]

theorem toNat_size (hm : size ≤ LoadOptions.maxSize) : (UInt32.ofNat size).toNat = size := by
  refine UInt32.toNat_ofNat_of_lt' ?_
  simp only [LoadOptions.maxSize] at hm
  simp only [UInt32.size]
  omega

theorem toInt_place (hr : rows < 2 ^ 63 - 2 ^ 32) {place : Nat} (hp : place < rows) :
    (Int64.ofNat place).toInt = place :=
  Int64.toInt_ofNat_of_lt (by omega)

theorem le_count_mul (hs : 0 < size) : rows ≤ (rows + size - 1) / size * size := by
  exact Nat.le_of_not_lt fun h => Nat.lt_irrefl _ ((lt_count_iff hs).2 h)

theorem state_after (hs : 0 < size) (hm : size ≤ LoadOptions.maxSize)
    (hr : rows < 2 ^ 63 - 2 ^ 32) (hpos : 0 < k) (hk : k ≤ (rows + size - 1) / size) :
    ∃ offset : UInt64,
      ((ofTable size cut (.ofNat rows) : BatchReader ε).after k).state =
        some (.parquet cut (.ofNat rows) offset) ∧ offset.toNat = k * size := by
  obtain ⟨calls, rfl⟩ : ∃ calls, k = calls + 1 := ⟨k - 1, by omega⟩
  have hopen : (ofTable size cut (.ofNat rows) : BatchReader ε).after (calls + 1) =
      (tableFrom size (.ok (.parquet cut (.ofNat rows) 0)) cut rows 0).after (calls + 1) := by
    simp only [tableFrom, Nat.zero_mul]
    rfl
  rw [hopen, after_tableFrom _ cut hs hm hr (by rw [Nat.zero_add]; exact hk)]
  refine ⟨_, rfl, ?_⟩
  rw [Nat.zero_add]
  exact toNat_place hm hr (place_le hs hk)

/-- A frame of which tables are cut comes to its parts. -/
theorem yields_frame (hs : 0 < size) (hm : size ≤ LoadOptions.maxSize) {whole : Frame}
    (hr : whole.height < 2 ^ 63 - 2 ^ 32) :
    (ofTable size (fun place count => (whole.slice (DataSource.placeOf whole.height place)
      count.toNat).toTable) (.ofNat whole.height) : BatchReader ε).Yields
      ((whole.cuts size ((whole.height + size - 1) / size)).map fun b => .ok b.toTable) := by
  have h : Yields (_ : BatchReader ε) _ := yields_table (fun place count =>
    (whole.slice (DataSource.placeOf whole.height place) count.toNat).toTable) hs hm hr
  have hitems : ∀ k ∈ List.range ((whole.height + size - 1) / size),
      (.ok (whole.slice (DataSource.placeOf whole.height (.ofNat (k * size)))
        (UInt32.ofNat size).toNat).toTable : Except ε Table) =
      .ok (whole.slice (k * size) size).toTable := by
    intro k hk
    have hlt := (lt_count_iff hs).1 (List.mem_range.1 hk)
    -- no place is so far behind that it would count from the end
    have hplace : DataSource.placeOf whole.height (.ofNat (k * size)) = k * size := by
      rw [DataSource.placeOf, toInt_place hr hlt, if_neg (by omega), Int.toNat_natCast]
    rw [hplace, toNat_size hm]
  rw [List.map_congr_left hitems] at h
  simpa [Frame.cuts, Function.comp_def] using h

theorem table_splitInto (hs : 0 < size) (hm : size ≤ LoadOptions.maxSize) {whole : Frame}
    (hw : whole.Fits σ) (hr : whole.height < 2 ^ 63 - 2 ^ 32) :
    ∃ batches, whole.SplitInto σ size batches ∧
      (ofTable size (fun place count => (whole.slice (DataSource.placeOf whole.height place)
        count.toNat).toTable) (.ofNat whole.height) : BatchReader ε).Yields
        (batches.map fun b => .ok b.toTable) :=
  ⟨_, Frame.splitInto_cuts hw hs, yields_frame hs hm hr⟩

end BatchReader

/-- Chunks that are read from separated values have the columns of the header. -/
theorem Csv.fits_of_frame? {columns : List (String × DType)} {chunk : List Char} {f : Frame}
    (h : Csv.frame? columns chunk = some f) : f.Fits columns := by
  simp only [Csv.frame?, Option.bind_eq_bind, Option.bind_eq_some_iff] at h
  obtain ⟨records, hrecords, rows, hrows, hf⟩ := h
  cases hf
  constructor
  · simp [Frame.schema, Function.comp_def]
  · intro c hc
    simp only [List.mem_map] at hc
    obtain ⟨_, _, rfl⟩ := hc
    simp

/-- Chunks of separated values in a file have the columns of its header. -/
theorem DataSource.fits_delivered {root : Files.Node} {s : DataSource}
    {deliveries : List (Except InputError (List Frame))} (h : s.chunks? root = some deliveries) :
    ∃ σ, ∀ f ∈ CsvChunks.delivered deliveries, f.Fits σ := by
  simp only [DataSource.chunks?, Option.bind_eq_bind, Option.bind_eq_some_iff] at h
  obtain ⟨text, _, σ, _, hd⟩ := h
  cases hd
  refine ⟨σ, ?_⟩
  rw [Csv.read, List.map_map]
  induction Csv.chunks ((Csv.body? σ text).getD []) with
  | nil => simp [CsvChunks.delivered]
  | cons chunk chunks ih =>
    cases hf : Csv.frame? σ chunk with
    | none => simp [hf, CsvChunks.delivered]
    | some f =>
      have hfits := Csv.fits_of_frame? hf
      simpa [hf, CsvChunks.delivered, hfits] using ih

/-- **The batches of data.**  Whatever size is asked for, the size in force is in range.  Chunks of
one schema, as a file of separated values has them, of any heights, come to batches of that size
which hold all rows in order; behind a failure of the source only the full ones come, and the
failure once.  Of a table as many batches are cut, each from its place on, and no place runs over.
Data that cannot be opened come to one failure.  Behind the last item there is none, however often
one asks. -/
theorem yields_batches (o : LoadOptions) :
    (1 ≤ o.size ∧ o.size ≤ LoadOptions.maxSize ∧
      (1 ≤ o.batchSize → o.batchSize ≤ LoadOptions.maxSize → o.size = o.batchSize)) ∧
    (∀ (root : Files.Node) (s : DataSource) (deliveries : List (Except InputError (List Frame))),
      s.chunks? root = some deliveries →
      ∃ σ, ∀ f ∈ CsvChunks.delivered deliveries, f.Fits σ) ∧
    (∀ (σ : List (String × DType)) (deliveries : List (Except ε (List Frame))),
      (∀ f ∈ CsvChunks.delivered deliveries, f.Fits σ) →
      let whole := Frame.stack σ (CsvChunks.delivered deliveries)
      (CsvChunks.fault? deliveries = none →
        ∃ batches, whole.SplitInto σ o.size batches ∧
          (BatchReader.ofChunks o.size deliveries).Yields (batches.map fun b => .ok b.toTable)) ∧
      (∀ e, CsvChunks.fault? deliveries = some e →
        ∃ batches, batches.length = whole.height / o.size ∧
          (∀ b ∈ batches, b.Fits σ ∧ b.height = o.size) ∧
          Frame.stack σ batches = whole.slice 0 (batches.length * o.size) ∧
          (BatchReader.ofChunks o.size deliveries).Yields
            ((batches.map fun b => .ok b.toTable) ++ [.error e]))) ∧
    (∀ (cut : Int64 → UInt32 → Table) (rows : Nat), rows < 2 ^ 63 - 2 ^ 32 →
      let r : BatchReader ε := .ofTable o.size cut (.ofNat rows)
      let count := (rows + o.size - 1) / o.size
      r.Yields ((List.range count).map fun k =>
        .ok (cut (.ofNat (k * o.size)) (.ofNat o.size))) ∧
      (UInt32.ofNat o.size).toNat = o.size ∧
      (∀ k < count, (Int64.ofNat (k * o.size)).toInt = k * o.size ∧ k * o.size < rows) ∧
      rows ≤ count * o.size ∧
      ∀ k, 0 < k → k ≤ count → ∃ offset : UInt64,
        (r.after k).state = some (.parquet cut (.ofNat rows) offset) ∧
        offset.toNat = k * o.size) ∧
    (∀ (σ : List (String × DType)) (whole : Frame), whole.Fits σ →
      whole.height < 2 ^ 63 - 2 ^ 32 →
      ∃ batches, whole.SplitInto σ o.size batches ∧
        (BatchReader.ofTable o.size
          (fun place count => (whole.slice (DataSource.placeOf whole.height place)
            count.toNat).toTable) (.ofNat whole.height) : BatchReader ε).Yields
          (batches.map fun b => .ok b.toTable)) ∧
    ∀ e : ε, (BatchReader.start o.size (.error e)).Yields [.error e] := by
  have hs := o.size_pos
  have hm := o.size_le
  refine ⟨⟨hs, hm, fun h1 h2 => ?_⟩, fun root s deliveries h => DataSource.fits_delivered h,
    fun σ deliveries hfits => ⟨fun hf => ?_, fun e hf => ?_⟩,
    fun cut rows hr => ⟨BatchReader.yields_table cut hs hm hr, ?_, fun k hk => ?_, ?_,
      fun k hpos hk => ?_⟩,
    fun σ whole hw hr => BatchReader.table_splitInto hs hm hw hr, fun e => ?_⟩
  · simp only [LoadOptions.size, LoadOptions.clamp]
    omega
  · exact BatchReader.chunks_splitInto hs hfits hf
  · exact BatchReader.chunks_full hs hfits hf
  · exact BatchReader.toNat_size hm
  · exact ⟨BatchReader.toInt_place hr ((BatchReader.lt_count_iff hs).1 hk),
      (BatchReader.lt_count_iff hs).1 hk⟩
  · exact BatchReader.le_count_mul hs
  · exact BatchReader.state_after cut hs hm hr hpos hk
  · exact ⟨.of_next_eq rfl (.single rfl), rfl⟩

/-- Five rows in three chunks, one of them empty, come to three batches of two rows at most; if the
source fails behind three rows, to one batch and the failure. -/
theorem yields_batches_five_rows :
    let o : LoadOptions := { batchSize := 2 }
    let σ : List (String × DType) := [("Cost", .i64)]
    let rows (cells : List Cell) : Frame := ⟨cells.length, [⟨"Cost", .i64, cells⟩]⟩
    let chunks : List (Except InputError (List Frame)) :=
      [.ok [rows [.int 1, .int 2, .int 3], rows []], .ok [], .ok [rows [.int 4, .int 5]]]
    let failing : List (Except InputError (List Frame)) :=
      [.ok [rows [.int 1, .int 2, .int 3]], .error .tableUnreadable]
    (∀ f ∈ CsvChunks.delivered chunks, f.Fits σ) ∧
      (Frame.stack σ (CsvChunks.delivered chunks)).height = 5 ∧
      (∃ batches, (Frame.stack σ (CsvChunks.delivered chunks)).SplitInto σ o.size batches ∧
        (BatchReader.ofChunks o.size chunks).Yields (batches.map fun b => .ok b.toTable)) ∧
      (∃ batches : List Frame, batches.length = 1 ∧
        (BatchReader.ofChunks o.size failing).Yields
          ((batches.map fun b => .ok b.toTable) ++ [.error .tableUnreadable])) ∧
      5 < 2 ^ 63 - 2 ^ 32 ∧
      (∃ batches, (rows [.int 1, .int 2, .int 3, .int 4, .int 5]).SplitInto σ o.size batches) := by
  intro o σ rows chunks failing
  have hrows : ∀ cells, (rows cells).Fits σ := fun cells => ⟨rfl, by simp [rows]⟩
  have hchunks : ∀ f ∈ CsvChunks.delivered chunks, f.Fits σ := by
    simp [chunks, CsvChunks.delivered, hrows]
  have hfailing : ∀ f ∈ CsvChunks.delivered failing, f.Fits σ := by
    simp [failing, CsvChunks.delivered, hrows]
  obtain ⟨_, _, hcsv, _, htable, _⟩ := yields_batches (ε := InputError) o
  refine ⟨hchunks, rfl, (hcsv σ chunks hchunks).1 rfl, ?_, by decide, ?_⟩
  · obtain ⟨batches, hl, _, _, hy⟩ := (hcsv σ failing hfailing).2 _ rfl
    exact ⟨batches, hl.trans (by decide), hy⟩
  · have hfive := hrows [.int 1, .int 2, .int 3, .int 4, .int 5]
    obtain ⟨batches, hb, _⟩ := htable σ _ hfive (by decide)
    exact ⟨batches, hb⟩

end FocusBilling
