import FocusBilling.Number.Binary

/-!
# Functions by polynomials in double precision

The cube root, and the logarithm of one and a number, each by a polynomial on a short range.  Every
operation is rounded, so the order of operations is part of what is computed: the results may be a
unit or two of the last place away from the nearest number.

* `Binary.cbrt` : the cube root, by one step of Halley's method from a polynomial;
* `Binary.lnOnePlus` : the logarithm, by the odd powers of `f / (2 + f)`.
-/

namespace FocusBilling.Binary

/-! ### Doubles -/

/-- The nearest double to `mant * 10 ^ exp`. -/
def constant (mant : Int) (exp : Int) : Binary :=
  BinaryFormat.double.roundDecimal (mant < 0) mant.natAbs exp

/-- A sum of doubles. -/
def plus (a b : Binary) : Binary := add .double a b

/-- A difference of doubles. -/
def minus (a b : Binary) : Binary := sub .double a b

/-- A product of doubles. -/
def times (a b : Binary) : Binary := mul .double a b

/-- A quotient of doubles. -/
def quotient (a b : Binary) : Binary := div .double a b

/-- A whole number as a double. -/
def whole (n : Int) : Binary := BinaryFormat.double.ofInt n

/-- The sum of coefficients times the powers of a number, the lowest first, from the inside
out. -/
def nested (x : Binary) : List Binary → Binary
  | [] => whole 0
  | [a] => a
  | a :: as => plus a (times (nested x as) x)

/-! ### Cube root -/

/-- The coefficients of a polynomial near the cube root between a half and one. -/
def cubeRootCoefficients : List Binary :=
  [constant 354895765043919860 (-18), constant 150819193781584896 (-17),
    constant (-211499494167371287) (-17), constant 244693122563534430 (-17),
    constant (-183469277483613086) (-17), constant 784932344976639262 (-18),
    constant (-145263899385486367) (-18)]

/-- The cube root of a power of two between -2 and 2. -/
def cubeRootOfPower (k : Int) : Binary :=
  let two := constant 12599210498948731648 (-19)
  let four := constant 15874010519681994748 (-19)
  match k with
  | -2 => quotient (whole 1) four
  | -1 => quotient (whole 1) two
  | 1 => two
  | 2 => four
  | _ => whole 1

/-- The cube root of `m * 2 ^ e`, which is not zero. -/
def cubeRootOf (m : Nat) (e : Int) : Binary :=
  let places := Nat.log2 m + 1
  let exp := e + places
  let x : Binary := .finite false m (-places)
  let u := nested x cubeRootCoefficients
  let cube := times (times u u) u
  let near := quotient (times u (plus cube (times (whole 2) x))) (plus (times (whole 2) cube) x)
  match times near (cubeRootOfPower (Int.tmod exp 3)) with
  | .finite _ n f => BinaryFormat.double.roundDyadic false n (f + Int.tdiv exp 3)
  | y => y

/-- The cube root. -/
def cbrt : Binary → Binary
  | .finite s m e =>
    if m = 0 then .finite s m e
    else if s then (cubeRootOf m e).neg else cubeRootOf m e
  | x => x

/-! ### Logarithm -/

/-- The logarithm of two, in two parts the first of which has few digits. -/
def lnTwo : Binary × Binary :=
  (constant 693147180369123816490 (-21), constant 190821492927058770002 (-30))

/-- The coefficients of even powers in the logarithm of `(1 + s) / (1 - s)`. -/
def lnCoefficients : List Binary :=
  [constant 6666666666666735130 (-19), constant 3999999999940941908 (-19),
    constant 2857142874366239149 (-19), constant 2222219843214978396 (-19),
    constant 1818357216161805012 (-19), constant 1531383769920937332 (-19),
    constant 1479819860511658591 (-19)]

/-- A coefficient. -/
def lnCoefficient (i : Nat) : Binary := lnCoefficients.getD i (whole 0)

/-- The logarithm of `(1 + f) * 2 ^ k`, where `c` makes good what rounding has taken from it and
`isTiny` says that `f` is. -/
def lnNear (f : Binary) (k : Int) (c : Binary) (isTiny : Bool) : Binary :=
  let half := times (times (constant 5 (-1)) f) f
  let (high, low) := lnTwo
  let kHigh := times (whole k) high
  let rest := plus (times (whole k) low) c
  if isTiny then
    if f.isZero then (if k = 0 then whole 0 else plus kHigh (plus c (times (whole k) low)))
    else
      let r := times half (minus (whole 1) (times (constant 66666666666666666 (-17)) f))
      if k = 0 then minus f r else minus kHigh (minus (minus r rest) f)
  else
    let s := quotient f (plus (whole 2) f)
    let z := times s s
    let z2 := times z z
    let z4 := times z2 z2
    let z6 := times z4 z2
    let a := lnCoefficient
    let r1 := times z (a 0)
    let r2 := plus (a 1) (times z (a 2))
    let r3 := plus (a 3) (times z (a 4))
    let r4 := plus (a 5) (times z (a 6))
    let r := plus (plus (plus r1 (times z2 r2)) (times z4 r3)) (times z6 r4)
    let t := times s (plus half r)
    if k = 0 then minus f (minus half t)
    else minus kHigh (minus (minus half (plus t rest)) f)

/-- The exponent of a double that is not zero, and its digits behind the leading bit. -/
def exponentAndFraction : Binary → Int × Nat
  | .finite _ m e =>
    let b := Nat.log2 m
    (e + b, m * 2 ^ (52 - b) - 2 ^ 52)
  | _ => (0, 0)

/-- The logarithm of one and a number, taken from the sum `u` of both. -/
def lnOfSum (x u : Binary) : Binary :=
  let (k, fraction) := exponentAndFraction u
  let c := if k ≥ 53 then whole 0
    else quotient (if k > 0 then minus (whole 1) (minus u x) else minus x (minus u (whole 1))) u
  let high := fraction / 2 ^ 32
  if high < 434334 then
    lnNear (minus (.finite false (2 ^ 52 + fraction) (-52)) (whole 1)) k c (high = 0)
  else
    lnNear (minus (.finite false (2 ^ 52 + fraction) (-53)) (whole 1)) (k + 1) c
      ((2 ^ 20 - high) / 4 = 0)

/-- The logarithm of one and a number. -/
def lnOnePlus (x : Binary) : Binary :=
  match x with
  | .nan | .infinite true => .nan
  | .infinite false => x
  | .finite negative m e =>
    let size := e + Nat.log2 m
    if m = 0 || size < -54 then x
    else if size < -29 then minus x (times (times x x) (constant 5 (-1)))
    else if negative && size ≥ 0 then
      (if compare? x (whole (-1)) = some .eq then .infinite true else .nan)
    else
      let short := if negative then constant 292892 (-6) else constant 414213 (-6)
      if size < -2 || compare? x.abs short = some .lt then lnNear x 0 (whole 0) false
      else lnOfSum x (plus (whole 1) x)

end FocusBilling.Binary
