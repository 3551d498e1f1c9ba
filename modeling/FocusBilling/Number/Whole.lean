import FocusBilling.Number.Binary

/-!
# Rounding to whole numbers

* `Rounding` : which of the two whole neighbours of a fraction is taken;
* `Binary.toWhole` : a number rounded to a whole one;
* `Binary.toPlaces` : a number rounded to decimal places.
-/

namespace FocusBilling

/-- Which of the two whole neighbours of a fraction is taken. -/
inductive Rounding where
  | down
  | up
  /-- The nearer one, a half going to the even neighbour. -/
  | nearest
  deriving DecidableEq

namespace Rounding

/-- The whole number for `± num / den`, without its sign. -/
def magnitude (r : Rounding) (negative : Bool) (num den : Nat) : Nat :=
  match r with
  | .down => if negative then (num + den - 1) / den else num / den
  | .up => if negative then num / den else (num + den - 1) / den
  | .nearest => BinaryFormat.nearest num den

end Rounding

namespace Binary

/-- A number rounded to a whole one; the sign of zero is kept. -/
def toWhole (fmt : BinaryFormat) (r : Rounding) : Binary → Binary
  | .finite s m e =>
    if e ≥ 0 then .finite s m e else fmt.round s (r.magnitude s m (2 ^ (-e).toNat)) 1
  | x => x

/-- A number rounded to decimal places, by way of the product with a power of ten. -/
def toPlaces (fmt : BinaryFormat) (places : Nat) (x : Binary) : Binary :=
  if places = 0 then x.toWhole fmt .nearest
  else
    let scale := fmt.ofInt (10 ^ places)
    let y := div fmt ((mul fmt x scale).toWhole fmt .nearest) scale
    if y.isFinite then y else x

end Binary

end FocusBilling
