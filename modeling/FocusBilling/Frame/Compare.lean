import FocusBilling.Frame.Cast
import FocusBilling.Frame.Table

/-!
# Order of cells, and strict casts

* `Comparison` : the comparisons between two values;
* `Cell.order` : the order of two values of one type;
* `Cell.compare` : a comparison that knows nothing of missing values;
* `Cell.castTo` : a cell in another type, which may have to succeed.
-/

namespace FocusBilling

/-- How two values are compared. -/
inductive Comparison where
  | eq | ne | lt | le | gt | ge
  deriving DecidableEq

namespace Comparison

/-- Whether an order agrees with a comparison. -/
def holds : Comparison → Ordering → Bool
  | .eq, o => o == .eq
  | .ne, o => o != .eq
  | .lt, o => o == .lt
  | .le, o => o != .gt
  | .gt, o => o == .gt
  | .ge, o => o != .lt

end Comparison

namespace Cell

mutual

/-- The order of two values of one type; a missing one is below all others. -/
def order : Cell → Cell → Ordering
  | .bool a, .bool b => Ord.compare a.toNat b.toNat
  | .int a, .int b => Ord.compare a b
  | .float a, .float b => a.compareTotal b
  | .text a, .text b => Ord.compare a b
  | .struct as, .struct bs => orderAll as bs
  | .null, .null => .eq
  | .null, _ => .lt
  | _, .null => .gt
  | _, _ => .eq

/-- The order of two rows of values: that of the first two that differ. -/
def orderAll : List Cell → List Cell → Ordering
  | a :: as, b :: bs => (order a b).then (orderAll as bs)
  | _, _ => .eq

end

/-- Whether a cell is true. -/
def isTrue : Cell → Bool
  | .bool b => b
  | _ => false

/-- A comparison; nothing is known of a missing value. -/
def compare (c : Comparison) (a b : Cell) : Cell :=
  if a.isNull || b.isNull then .null else .bool (c.holds (order a b))

/-- A cell in another type; a strict cast fails where a value has no counterpart. -/
def castTo (source target : DType) (strict : Bool) (c : Cell) : Except FrameError Cell :=
  if c.isNull then .ok .null
  else if !source.castsTo target then .error .wrongType
  else
    let d := c.cast source target
    if strict && d.isNull then .error .unreadable else .ok d

end Cell

end FocusBilling
