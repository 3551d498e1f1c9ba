import FocusBilling.Number.Elementary
import FocusBilling.Sql.Arithmetic

/-!
# Totals

What all cells of a column come to.

* `Sql.Total` : the totals, from sums to correlations;
* `Sql.Total.eval` : the outcome of a total, one cell for all rows;
* `Sql.Running` : totals of the cells up to each row.

Missing cells are left out, except by the first and the last cell.
-/

namespace FocusBilling.Sql

/-- What all cells of a column come to. -/
inductive Total where
  | sum
  | mean
  | least
  | greatest
  | first
  | last
  /-- The number of cells that are not missing. -/
  | count
  /-- The number of different cells that are not missing. -/
  | countDistinct
  /-- A part of the cells is below it: between two cells in proportion, or one of the cells. -/
  | quantile (part : Binary) (between : Bool)
  | variance
  | deviation
  /-- Of two columns. -/
  | covariance (lost : Nat)
  | correlation
  deriving DecidableEq

namespace Total

/-! ### Doubles -/

/-- A sum of doubles in order. -/
def sumOf (xs : List Binary) : Binary := xs.foldl (Binary.add .double) (BinaryFormat.double.ofInt 0)

/-- The mean of doubles. -/
def meanOf (xs : List Binary) : Binary :=
  Binary.div .double (sumOf xs) (BinaryFormat.double.ofInt xs.length)

/-- The sum of the products of two lists of deviations. -/
def products (xs ys : List Binary) : Binary := sumOf (List.zipWith (Binary.mul .double) xs ys)

/-- How far doubles are from their mean. -/
def deviations (xs : List Binary) : List Binary :=
  let mean := meanOf xs
  xs.map fun x => Binary.sub .double x mean

/-- A sum of squares over the number of values but some. -/
def spread? (lost : Nat) (xs ys : List Binary) : Option Binary :=
  if xs.length ≤ lost then none
  else
    some (Binary.div .double (products (deviations xs) (deviations ys))
      (BinaryFormat.double.ofInt (xs.length - lost)))

/-- How closely two lists of doubles go together. -/
def correlated (xs ys : List Binary) : Binary :=
  let dx := deviations xs
  let dy := deviations ys
  let square := Binary.mul .double (products dx dx) (products dy dy)
  if Binary.compare? square (BinaryFormat.double.ofInt 0) = some .gt then
    Binary.div .double (products dx dy) (Binary.sqrt .double square)
  else .nan

/-- A cell as a double. -/
def double? (t : DType) (c : Cell) : Option Binary :=
  match c.cast t .float64 with
  | .float x => some x
  | _ => none

/-- The double below which a part of sorted doubles lies. -/
def quantileOf (part : Binary) (between : Bool) (xs : List Binary) : Option Binary :=
  let n := BinaryFormat.double.ofInt xs.length
  if between then
    let place := Binary.mul .double (Binary.sub .double n (BinaryFormat.double.ofInt 1)) part
    let low := (place.truncate?.getD 0).toNat
    let high := ((place.toWhole .double .up).truncate?.getD 0).toNat
    match xs[low]?, xs[high]? with
    | some a, some b =>
      if low = high || Binary.compare? a b = some .eq then some a
      else
        let share := Binary.sub .double place (BinaryFormat.double.ofInt low)
        some (Binary.add .double (Binary.mul .double share (Binary.sub .double b a)) a)
    | _, _ => none
  else
    let place := (Binary.mul .double n part).toWhole .double .up
    xs[(place.truncate?.getD 0).toNat - 1]?

/-! ### Types -/

/-- The type of a sum. -/
def sumType : DType → DType
  | .int t => .int (if t.bits < 32 then .i64 else t)
  | .bool => .int .u32
  | t => t

/-- The type of a mean, or of what lies between cells. -/
def middleType : DType → DType
  | .int _ | .bool => .float64
  | .date => .datetime .micro none
  | t => t

/-- The type of a measure of spread. -/
def spreadType (t : DType) : DType := if t.same .float32 then .float32 else .float64

/-- Microseconds in a day. -/
def dayMicros : Int := Calendar.daySeconds * 1000000

/-- A double as a cell of a type: an instant, or a number. -/
def middleCell (source target : DType) (x : Binary) : Cell :=
  match source, target with
  | .date, _ =>
    Cell.orNull Cell.int (Binary.mul .double x (BinaryFormat.double.ofInt dayMicros)).truncate?
  | .datetime .., _ => Cell.orNull Cell.int x.truncate?
  | _, target => (Cell.float x).cast .float64 target

/-! ### Cells -/

/-- The sum of cells of a type. -/
def sumCells (t : DType) (cells : List Cell) : Cell :=
  let start : Cell := match sumType t with
    | .float32 => .float (BinaryFormat.single.ofInt 0)
    | .float64 => .float (BinaryFormat.double.ofInt 0)
    | .int _ => .int 0
    | _ => .null
  cells.foldl (fun s c => Arithmetic.onCells (sumType t) .add false s (match c with
    | .bool b => .int b.toNat
    | c => c)) start

/-- Whether a cell is not a number. -/
def isNan : Cell → Bool
  | .float x => x.isNan
  | _ => false

/-- The greatest or the least of cells, the last of those; what is not a number is passed over
while there are numbers. -/
def extremeCell (greatest : Bool) (cells : List Cell) : Cell :=
  let numbers := cells.filter fun c => !isNan c
  match (if numbers.isEmpty then cells else numbers) with
  | [] => .null
  | c :: cs => cs.foldl (fun best c =>
      if Cell.order c best == (if greatest then .lt else .gt) then best else c) c

/-- Each cell once, by the first. -/
def distinct (cells : List Cell) : List Cell :=
  cells.foldl (fun seen c => if seen.any (fun d => Cell.order c d == .eq) then seen else c :: seen)
    []

/-- What the cells of a column of a type come to. -/
def ofCells (f : Total) (t : DType) (cells : List Cell) : Cell :=
  let present := cells.filter fun c => !c.isNull
  let doubles := present.filterMap (double? t)
  match f with
  | .sum => sumCells t present
  | .mean =>
    if doubles.isEmpty || t.same .text then .null
    else middleCell t (middleType t) (meanOf doubles)
  | .least => extremeCell false present
  | .greatest => extremeCell true present
  | .first => cells.headD .null
  | .last => cells.getLastD .null
  | .count => .int present.length
  | .countDistinct => .int (distinct present).length
  | .quantile part between =>
    let sorted := doubles.mergeSort fun a b => (a.compareTotal b).isLE
    Cell.orNull (middleCell t (middleType t)) (quantileOf part between sorted)
  | .variance =>
    Cell.orNull (fun x => (Cell.float x).cast .float64 (spreadType t)) (spread? 1 doubles doubles)
  | .deviation =>
    Cell.orNull (fun x => (Cell.float (Binary.sqrt .double x)).cast .float64 (spreadType t))
      (spread? 1 doubles doubles)
  | .covariance _ | .correlation => .null

/-- The pairs of doubles of two columns of one type that both have one. -/
def doublePairs (t : DType) (rows : List (List Cell)) : List (Binary × Binary) :=
  rows.filterMap fun
    | [a, b] => do pure (← double? t a, ← double? t b)
    | _ => none

/-- What two columns come to, as a cell of a type. -/
def ofPairs (f : Total) (target : DType) (pairs : List (Binary × Binary)) : Cell :=
  let (xs, ys) := pairs.unzip
  let found := match f with
    | .covariance lost => spread? lost xs ys
    | .correlation => some (correlated xs ys)
    | _ => none
  Cell.orNull (fun x => (Cell.float x).cast .float64 target) found

/-! ### Outcomes -/

/-- Whether a total is one of a single column; a function of two columns counts as a call. -/
def isAggregate : Total → Bool
  | .covariance _ | .correlation => false
  | _ => true

/-- The type of a total of a column. -/
def result (f : Total) (t : DType) : Except FrameError DType :=
  match f with
  | .sum => if t.same .text then .error .untyped else .ok (sumType t)
  | .mean | .quantile .. => .ok (middleType t)
  | .least | .greatest | .first | .last => .ok t
  | .count | .countDistinct => .ok (.int .u32)
  | .variance | .deviation | .covariance _ | .correlation => .ok (spreadType t)

/-- Whether a total is defined for the cells of a type. -/
def isDefined (f : Total) (t : DType) : Bool :=
  match f, t with
  | .first, _ | .last, _ | .count, _ | .countDistinct, _ | _, .null => true
  | .least, .struct _ | .greatest, .struct _ => false
  | .least, _ | .greatest, _ | .mean, _ => true
  | .quantile .., t => t.isNumeric || t.same .bool || t.isTemporal
  | .sum, t | .variance, t | .deviation, t => t.isNumeric || t.same .bool
  | .covariance _, _ | .correlation, _ => true

/-- The outcome of a total.  A value for all rows counts once for each of so many rows, where a
number of rows is given. -/
def eval (f : Total) (rows : Option (Except FrameError Nat)) (args : List Outcome) :
    Except FrameError Outcome :=
  match args with
  | [a] => do
    let a := a.settled
    let t ← f.result a.dtype
    if !f.isDefined a.dtype then pure { Outcome.failing t .wrongType with isScalar := true }
    else
      pure ⟨.known t, true, do
        let cells ← a.cells
        let counted ← match rows, f, a.isScalar with
          | some n, .count, true => pure (List.replicate (← n) (cells.headD .null))
          | _, _, _ => pure cells
        pure [f.ofCells a.dtype counted]⟩
  | [a, b] => do
    let (x, y, source) ← Outcome.paired a b
    let t ← f.result source
    pure ⟨.known t, true, do
      let rows ← Outcome.sideBySide [x, y]
      pure [f.ofPairs t (doublePairs source rows)]⟩
  | _ => .error .wrongType

end Total

/-- What the cells up to each row come to. -/
inductive Running where
  | sum
  | least
  | greatest
  deriving DecidableEq

namespace Running

/-- The type of a running total. -/
def result (f : Running) (t : DType) : Except FrameError DType :=
  match f with
  | .sum => if t.same .text then .error .untyped else .ok (Total.sumType t)
  | .least | .greatest => .ok t

/-- The running total with one more cell. -/
def step (f : Running) (t : DType) (sofar c : Cell) : Cell :=
  match f with
  | .sum => if sofar.isNull then Total.sumCells t [c] else Total.sumCells t [sofar, c]
  | .least => Total.extremeCell false ([sofar, c].filter fun d => !d.isNull)
  | .greatest => Total.extremeCell true ([sofar, c].filter fun d => !d.isNull)

/-- The totals up to each of some cells; a missing cell has none. -/
def ofCells (f : Running) (t : DType) : Cell → List Cell → List Cell
  | _, [] => []
  | sofar, c :: cs =>
    if c.isNull then .null :: ofCells f t sofar cs
    else
      let next := f.step t sofar c
      next :: ofCells f t next cs

end Running

end FocusBilling.Sql
