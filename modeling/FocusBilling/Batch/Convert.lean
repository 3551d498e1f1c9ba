import FocusBilling.Batch.Apply

/-!
# Converting batches

* `Exporter` : where converted batches go;
* `CompiledPlan.convert` : every batch with the plan applied, handed to an exporter until one
  fails; the exporter is closed once at the end, whatever happened;
* `ConvertError` : what may fail on the way.
-/

namespace FocusBilling

/-- What may fail while batches are converted: the source of batches, the plan, or the exporter,
the latter also at the evaluation of a batch. -/
inductive ConvertError (σ ε : Type) where
  | apply (error : ApplyError)
  | source (error : σ)
  | exporting (error : ε)

/-- Where converted batches go. -/
structure Exporter (S σ ε : Type) where
  /-- Take a batch; the answer is its number of rows. -/
  collect : AppliedBatch → S → Except (ConvertError σ ε) Nat × S
  /-- Take no more batches. -/
  close : S → Except (ConvertError σ ε) Unit × S

/-- What a conversion came to. -/
structure ConversionSummary where
  /-- The provider. -/
  provider : String
  /-- The number of batches. -/
  batches : Nat
  /-- The number of rows. -/
  rows : Nat
  deriving DecidableEq

/-- How far a conversion has come. -/
structure Progress (S : Type) where
  /-- The number of batches taken from the source, failed ones included. -/
  taken : Nat
  /-- The number of batches exported. -/
  batches : Nat
  /-- The number of their rows. -/
  rows : Nat
  /-- The state of the exporter. -/
  state : S

/-- A finished conversion. -/
structure Conversion (S σ ε : Type) where
  /-- What it came to, or the first failure. -/
  result : Except (ConvertError σ ε) ConversionSummary
  /-- How far it came. -/
  progress : Progress S
  /-- Why the exporter could not be closed. -/
  closed : Except (ConvertError σ ε) Unit

namespace CompiledPlan

variable {S σ ε : Type}

/-- Batches applied and exported in order, up to the first that fails. -/
def exportBatches (p : CompiledPlan) (x : Exporter S σ ε) :
    List (Except σ Table) → Progress S → Except (ConvertError σ ε) Unit × Progress S
  | [], g => (.ok (), g)
  | batch :: batches, g =>
    let g := { g with taken := g.taken + 1 }
    match batch with
    | .error e => (.error (.source e), g)
    | .ok t =>
      match p.apply t with
      | .error e => (.error (.apply e), g)
      | .ok applied =>
        match x.collect applied g.state with
        | (.error e, s) => (.error e, { g with state := s })
        | (.ok n, s) =>
          exportBatches p x batches
            { g with batches := g.batches + 1, rows := g.rows + n, state := s }

/-- Every batch applied and exported, up to the first that fails; then the exporter is closed.  A
failure to close counts only where nothing failed before. -/
def convert (p : CompiledPlan) (x : Exporter S σ ε) (batches : List (Except σ Table)) (start : S) :
    Conversion S σ ε :=
  let (outcome, g) := exportBatches p x batches ⟨0, 0, 0, start⟩
  let (closed, s) := x.close g.state
  ⟨do
    outcome
    closed
    pure ⟨p.provider, g.batches, g.rows⟩, { g with state := s }, closed⟩

end CompiledPlan

end FocusBilling
