import FocusBilling.Frame.Stack

/-!
# Rows in batches

* `CsvChunks` : chunks of any size, and the rows of them that wait for their batch;
* `CsvChunks.nextFrame` : the next batch of one size, or what is left at the end;
* `BatchReader` : the batches of data, out of chunks or cut out of a table;
* `BatchReader.next` : one batch after the other; behind the last, and behind a failure, there is
  none, however often one asks.
-/

namespace FocusBilling

namespace Batches

/-- The next item, and those behind it; behind the last there is none, however often one asks. -/
def next {α : Type} : List α → Option α × List α
  | [] => (none, [])
  | b :: bs => (some b, bs)

/-- A chunk below the rows that are waiting. -/
def join : Option Frame → Frame → Frame
  | none, chunk => chunk
  | some waiting, chunk => waiting.append chunk

end Batches

variable {ε : Type}

/-- Chunks of any size, on their way into batches of one size. -/
structure CsvChunks (ε : Type) where
  /-- What the source will still deliver: some chunks at a time, or a failure. -/
  deliveries : List (Except ε (List Frame))
  /-- The rows that wait for their batch. -/
  pending : Option Frame
  /-- Whether the source has said that nothing is left. -/
  exhausted : Bool

namespace CsvChunks

/-- What can be answered without asking the source: a full batch, or at the end whatever waits. -/
def answer? (size : Nat) (c : CsvChunks ε) : Option (Option Frame × CsvChunks ε) :=
  match c.pending with
  | some rows =>
    if size ≤ rows.height then
      let tail := rows.slice size (rows.height - size)
      let pending := if 0 < tail.height then some tail else none
      some (some (rows.slice 0 size), { c with pending })
    else if c.exhausted then
      some (if 0 < rows.height then some rows else none, { c with pending := none })
    else none
  | none => if c.exhausted then some (none, c) else none

/-- The source asked once; what it delivers waits behind what was waiting before. -/
def readOn (c : CsvChunks ε) : Except ε (CsvChunks ε) :=
  match Batches.next c.deliveries with
  | (none, _) => .ok { c with exhausted := true }
  | (some (.error e), _) => .error e
  | (some (.ok chunks), deliveries) =>
    let pending := chunks.foldl (fun waiting chunk => some (Batches.join waiting chunk)) c.pending
    .ok { c with deliveries, pending }

/-- How often the source can still be asked. -/
def asks (c : CsvChunks ε) : Nat := c.deliveries.length + if c.exhausted then 0 else 1

theorem not_exhausted {size : Nat} {c : CsvChunks ε} (h : c.answer? size = none) :
    c.exhausted = false := by
  rw [answer?] at h
  cases hp : c.pending <;> simp only [hp] at h <;> grind

theorem asks_readOn {size : Nat} {c d : CsvChunks ε} (h : c.answer? size = none)
    (hr : c.readOn = .ok d) : d.asks < c.asks := by
  have he := not_exhausted h
  rw [readOn] at hr
  cases hd : c.deliveries with
  | nil =>
    simp only [hd, Batches.next] at hr
    cases hr
    simp [asks, he, hd]
  | cons delivery rest =>
    cases delivery with
    | error e => simp [hd, Batches.next] at hr
    | ok chunks =>
      simp only [hd, Batches.next] at hr
      cases hr
      simp [asks, he, hd]

/-- The next batch of one size, for which the source is asked as often as it takes. -/
def nextFrame (size : Nat) (c : CsvChunks ε) : Except ε (Option Frame × CsvChunks ε) :=
  match _ha : c.answer? size with
  | some found => .ok found
  | none =>
    match _hr : c.readOn with
    | .error e => .error e
    | .ok d => nextFrame size d
termination_by c.asks
decreasing_by exact asks_readOn ‹_› ‹_›

/-- The rows that wait and those that the source will still deliver, failures apart. -/
def rows (c : CsvChunks ε) : Nat :=
  (c.pending.toList ++ (c.deliveries.filterMap Except.toOption).flatten).map Frame.height |>.sum

end CsvChunks

/-- Where the batches of data come from. -/
inductive BatchState (ε : Type) where
  | csv (chunks : CsvChunks ε)
  /-- A table of so many rows, out of which batches are cut from a position on. -/
  | parquet (cut : Int64 → UInt32 → Table) (total offset : UInt64)
  /-- There are no more. -/
  | done

/-- The batches of data; the data are opened when the first is asked for. -/
structure BatchReader (ε : Type) where
  /-- The number of rows of a batch. -/
  size : Nat
  /-- What comes of opening the data. -/
  opened : Except ε (BatchState ε)
  /-- Where the batches come from, once the data are open. -/
  state : Option (BatchState ε)

/-- The number of rows that are left, at most. -/
def BatchState.rows : BatchState ε → Nat
  | csv chunks => chunks.rows
  | parquet _ total _ => total.toNat
  | done => 0

namespace BatchReader

/-- Data before the first batch. -/
def start (size : Nat) (opened : Except ε (BatchState ε)) : BatchReader ε := ⟨size, opened, none⟩

/-- Data in chunks, before the first batch. -/
def ofChunks (size : Nat) (deliveries : List (Except ε (List Frame))) : BatchReader ε :=
  start size (.ok (.csv ⟨deliveries, none, false⟩))

/-- A table of so many rows, before the first batch. -/
def ofTable (size : Nat) (cut : Int64 → UInt32 → Table) (total : UInt64) : BatchReader ε :=
  start size (.ok (.parquet cut total 0))

/-- The next batch of open data, and where those behind it come from. -/
def advance (size : Nat) : BatchState ε → Except ε (Option Table × BatchState ε)
  | .csv chunks => do
    let (found, chunks) ← chunks.nextFrame size
    pure (found.map Frame.toTable, .csv chunks)
  | .parquet cut total offset =>
    if total ≤ offset then .ok (none, .parquet cut total offset)
    else
      let batch := cut offset.toInt64 (UInt32.ofNat size)
      .ok (some batch, .parquet cut total (offset + UInt64.ofNat size))
  | .done => .ok (none, .done)

/-- The next batch of open data; the end and a failure are final. -/
def nextFrom (r : BatchReader ε) (s : BatchState ε) : Option (Except ε Table) × BatchReader ε :=
  match advance r.size s with
  | .ok (some batch, s) => (some (.ok batch), { r with state := some s })
  | .ok (none, _) => (none, { r with state := some .done })
  | .error e => (some (.error e), { r with state := some .done })

/-- The next batch, or why there is none; a failure to open the data stands in place of a batch. -/
def next (r : BatchReader ε) : Option (Except ε Table) × BatchReader ε :=
  match r.state with
  | some s => r.nextFrom s
  | none =>
    match r.opened with
    | .ok s => r.nextFrom s
    | .error e => (some (.error e), { r with state := some .done })

/-- The batches up to the end, at most so many. -/
def take : Nat → BatchReader ε → List (Except ε Table)
  | 0, _ => []
  | n + 1, r =>
    match r.next with
    | (some batch, r) => batch :: take n r
    | (none, _) => []

/-- All batches of data that are not open yet: no batch is empty, and a failure ends them. -/
def all (r : BatchReader ε) : List (Except ε Table) :=
  match r.opened with
  | .ok s => r.take (s.rows + 1)
  | .error _ => r.take 1

end BatchReader

end FocusBilling
