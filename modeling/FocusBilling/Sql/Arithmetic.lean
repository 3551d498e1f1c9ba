import FocusBilling.Number.Whole
import FocusBilling.Sql.Outcome

/-!
# Operators

* `Sql.Arithmetic` : arithmetic, between numbers that are written out and between columns;
* `Sql.Connective` : connectives of truth values, bit by bit of whole numbers;
* `Sql.compared`, `Sql.chosen`, `Sql.firstPresent`, `Sql.extreme`, `Sql.among` : comparisons and
  choices.

Two values are brought to a common type before they meet.  Whole numbers wrap around in their type,
are divided toward minus infinity, and have no quotient by zero.
-/

namespace FocusBilling.Sql

/-! ### Arithmetic -/

/-- Arithmetic between two numbers. -/
inductive Arithmetic where
  | add | sub | mul
  /-- A quotient; of whole numbers the whole number below it. -/
  | divide
  /-- The whole number below a quotient. -/
  | floorDivide
  /-- What the latter leaves. -/
  | modulo
  deriving DecidableEq

namespace Arithmetic

/-- Arithmetic between whole numbers; there is no quotient by zero. -/
def onWhole? (op : Arithmetic) (a b : Int) : Option Int :=
  match op with
  | .add => some (a + b)
  | .sub => some (a - b)
  | .mul => some (a * b)
  | .divide | .floorDivide => if b = 0 then none else some (Int.fdiv a b)
  | .modulo => if b = 0 then none else some (Int.fmod a b)

/-- Arithmetic between floating-point numbers.  Where many numbers are divided by one, they are
multiplied by its reciprocal. -/
def onBinary (fmt : BinaryFormat) (op : Arithmetic) (byReciprocal : Bool) (a b : Binary) : Binary :=
  let quotient :=
    if byReciprocal then Binary.mul fmt a (Binary.div fmt (fmt.ofInt 1) b) else Binary.div fmt a b
  match op with
  | .add => Binary.add fmt a b
  | .sub => Binary.sub fmt a b
  | .mul => Binary.mul fmt a b
  | .divide => quotient
  | .floorDivide => quotient.toWhole fmt .down
  | .modulo => Binary.sub fmt a (Binary.mul fmt b (quotient.toWhole fmt .down))

/-- Arithmetic between two cells of one type. -/
def onCells (t : DType) (op : Arithmetic) (byReciprocal : Bool) : Cell → Cell → Cell
  | .int a, .int b =>
    match t with
    | .int it => Cell.orNull Cell.int ((op.onWhole? a b).map it.wrap)
    | _ => .null
  | .float a, .float b => .float (op.onBinary (t.format?.getD .double) byReciprocal a b)
  | .text a, .text b => .text (a ++ b)
  | .bool a, .bool b => .int (a.toNat + b.toNat)
  | _, _ => .null

/-- The type of arithmetic between values of one type, if there is one. -/
def result? (op : Arithmetic) (t : DType) : Option DType :=
  match t, op with
  | .int _, _ | .float32, _ | .float64, _ | .null, _ => some t
  | .text, .add => some .text
  | .bool, .add => some (.int .u32)
  | _, _ => none

/-- Arithmetic between two numbers that are written out; a quotient by zero is zero. -/
def folded (op : Arithmetic) : Typing → Typing → Outcome
  | .whole a, .whole b => .whole ((op.onWhole? a b).getD 0)
  | a, b =>
    let number : Typing → Binary
      | .whole n => BinaryFormat.double.ofInt n
      | .fraction x => x
      | .known _ => .nan
    .fraction (op.onBinary .double false (number a) (number b))

/-- Whether a text meets something else. -/
def mixesText (a b : DType) : Bool :=
  (a.same .text && !Operation.fits .text b) || (b.same .text && !Operation.fits .text a)

/-- Arithmetic between two outcomes. -/
def eval (op : Arithmetic) (a b : Outcome) : Except FrameError Outcome := do
  if a.typing.isWritten && b.typing.isWritten then pure (op.folded a.typing b.typing)
  else if a.dtype.isTemporal || b.dtype.isTemporal then .error .untyped
  else if mixesText a.dtype b.dtype then .error .wrongType
  else
    let (x, y, t) ← Outcome.paired a b
    match op.result? t with
    | none => .error .wrongType
    | some result =>
      let many := t.format?.isSome && match x.cells with
        | .ok cells => !x.isScalar && cells.length != 1
        | .error _ => false
      pure (Outcome.rowwise result (fun
        | [c, d] => op.onCells t (many && y.isScalar) c d
        | _ => .null) [x, y])

end Arithmetic

/-! ### Connectives -/

/-- A connective. -/
inductive Connective where
  | and | or | xor
  deriving DecidableEq

namespace Connective

/-- A connective between truth values, one of which may be unknown. -/
def onTruth (c : Connective) (a b : Cell) : Cell :=
  match c, a, b with
  | .and, .bool false, _ | .and, _, .bool false => .bool false
  | .and, .bool true, .bool true => .bool true
  | .or, .bool true, _ | .or, _, .bool true => .bool true
  | .or, .bool false, .bool false => .bool false
  | .xor, .bool x, .bool y => .bool (x != y)
  | _, _, _ => .null

/-- A connective between the bits of whole numbers. -/
def onBits (c : Connective) (t : IntType) (a b : Int) : Int :=
  let bits (n : Int) : Nat := (n % 2 ^ t.bits).toNat
  t.wrap (match c with
    | .and => Nat.land (bits a) (bits b)
    | .or => Nat.lor (bits a) (bits b)
    | .xor => Nat.xor (bits a) (bits b))

/-- A connective between two outcomes. -/
def eval (c : Connective) (a b : Outcome) : Except FrameError Outcome := do
  let (x, y, t) ← Outcome.paired a b
  match t with
  | .bool => pure (Outcome.rowwise .bool (fun
    | [p, q] => c.onTruth p q
    | _ => .null) [x, y])
  | .int it => pure (Outcome.rowwise t (fun
    | [.int p, .int q] => .int (c.onBits it p q)
    | _ => .null) [x, y])
  | t => pure (.failing t .wrongType)

end Connective

/-- The opposite truth value, or the other bits of a whole number. -/
def opposite (a : Outcome) : Except FrameError Outcome :=
  match a.dtype with
  | .bool => .ok (a.mapCells .bool fun
    | .bool b => .bool !b
    | _ => .null)
  | .int t => .ok (a.settled.mapCells (.int t) fun
    | .int n => .int (t.wrap (-n - 1))
    | _ => .null)
  | _ => .error .untyped

/-! ### Comparisons -/

/-- Whether texts are compared with numbers, days or times. -/
def mixesKinds (a b : DType) : Bool :=
  (a.same .text && (b.isNumeric || b.isTemporal)) || (b.same .text && (a.isNumeric || a.isTemporal))

/-- A test of two outcomes in their common type. -/
def tested (test : Cell → Cell → Cell) (a b : Outcome) : Except FrameError Outcome := do
  if mixesKinds a.dtype b.dtype then .error .wrongType
  else
    let (x, y, _) ← Outcome.paired a b
    pure (Outcome.rowwise .bool (fun
      | [c, d] => test c d
      | _ => .null) [x, y])

/-- A comparison of two outcomes. -/
def compared (c : Comparison) : Outcome → Outcome → Except FrameError Outcome :=
  tested (Cell.compare c)

/-- Whether two outcomes are the same, missing values included. -/
def sameness (a b : Outcome) : Except FrameError Outcome :=
  tested (fun c d => .bool (Cell.order c d == .eq)) a b

/-- Whether values are missing. -/
def missing (a : Outcome) : Outcome := a.mapCells .bool fun c => .bool c.isNull

/-- Outcomes as they are looked for among others. -/
def matchable (a items : Outcome) : Except FrameError (Outcome × Outcome) :=
  let s := a.dtype
  let t := items.dtype
  if s.same t || s.same .null || t.same .null then .ok (a.settled, items)
  else if s.isNumeric && t.isNumeric then
    match commonType s t with
    | some u => .ok (a.toType u, items.toType u)
    | none => .error .wrongType
  else .error .wrongType

/-- Whether values are among all cells of another outcome. -/
def among (a items : Outcome) : Except FrameError Outcome := do
  let (x, y) ← matchable a items
  pure ⟨.known .bool, x.isScalar, do
    let found ← y.cells
    pure ((← x.cells).map fun c =>
      if c.isNull then .null else .bool (found.any fun d => Cell.order c d == .eq))⟩

/-! ### Choices -/

/-- One of two outcomes, as a condition says. -/
def chosen (yes no condition : Outcome) : Except FrameError Outcome :=
  match Outcome.paired yes no with
  | .error _ => .error .untyped
  | .ok (x, y, t) =>
    if condition.dtype.same .bool then
      .ok (Outcome.rowwise t (fun
        | [c, d, p] => if p.isTrue then c else d
        | _ => .null) [x, y, condition])
    else .ok (.failing t .wrongType)

/-- The first value that is not missing. -/
def firstPresent (os : List Outcome) : Except FrameError Outcome :=
  match Outcome.unified os with
  | .error _ => .error .untyped
  | .ok (os, t) =>
    .ok (Outcome.rowwise t (fun cs => (cs.find? fun c => !c.isNull).getD .null) os)

/-- The cells of a column and a scalar beside it. -/
def besideCells (isScalar : Bool) (rows : Nat) (cells : List Cell) : List Cell :=
  if isScalar then List.replicate rows (cells.headD .null) else cells

/-- The greater or the lesser of two numbers by the order of numbers alone; the second, where that
tells nothing. -/
def plainExtreme (greatest : Bool) (a b : Cell) : Cell :=
  match a, b with
  | .float x, .float y =>
    if Binary.compare? x y = some (if greatest then .gt else .lt) then a else b
  | _, _ => if Cell.order a b == (if greatest then .gt else .lt) then a else b

/-- The greater or the lesser of two values, one of which may be missing. -/
def presentExtreme (greatest : Bool) (a b : Cell) : Cell :=
  if b.isNull then a
  else if a.isNull then b
  else if Cell.order a b == (if greatest then .gt else .lt) then a
  else b

/-- The greater or the lesser of two outcomes of one type in each row.  Columns of floating-point
numbers, none of which is missing, are compared by the order of numbers alone. -/
def pairExtreme (greatest : Bool) (t : DType) (a b : Outcome) : Outcome :=
  ⟨.known t, a.isScalar && b.isScalar, do
    let x ← a.cells
    let y ← b.cells
    let rows := if a.isScalar then y.length else x.length
    let isPlain := t.format?.isSome && x.length = y.length && !(x ++ y).any Cell.isNull
    let pick := if isPlain then plainExtreme greatest else presentExtreme greatest
    pure (List.zipWith pick (besideCells a.isScalar rows x) (besideCells b.isScalar rows y))⟩

/-- The greatest or the least value of each row. -/
def extreme (greatest : Bool) (os : List Outcome) : Except FrameError Outcome :=
  match Outcome.unified os with
  | .ok (o :: os, t) => .ok (os.foldl (pairExtreme greatest t) o)
  | _ => .error .untyped

/-! ### Casts -/

/-- An outcome in another type; a strict cast fails where a value has no counterpart. -/
def castOutcome (target : DType) (strict : Bool) (a : Outcome) : Outcome :=
  let a := a.settled
  Outcome.rowwise? target (fun
    | [c] => c.castTo a.dtype target strict
    | _ => .ok .null) [a]

/-- A field of a struct. -/
def fieldOf (name : String) (a : Outcome) : Except FrameError Outcome :=
  match a.dtype with
  | .struct fs =>
    match fs.lookup name with
    | some t => .ok (a.mapCells t fun
      | .struct cs => Operation.fieldOf name fs cs
      | _ => .null)
    | none => .error .untyped
  | _ => .error .untyped

end FocusBilling.Sql
