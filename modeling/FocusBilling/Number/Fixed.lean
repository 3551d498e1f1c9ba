import FocusBilling.Number.Instances

/-!
# Fixed-point numbers

A real number as a whole number of units of `2 ^ -p`, for as many places `p` as are asked for.

* `Fixed.squareRoot` : the whole square root, rounded down;
* `Fixed.pi`, `Fixed.ln2` : constants;
* `Fixed.exp`, `Fixed.ln`, `Fixed.sinCos`, `Fixed.arctan` : functions on the ranges to which others
  are reduced.

Every step errs by a few units at most, so a caller that asks for many more places than it keeps
rounds correctly, save where a result lies closer to the middle of two numbers than that.
-/

namespace FocusBilling.Fixed

/-- The number one. -/
def one (p : Nat) : Int := 2 ^ p

/-- A product. -/
def mul (p : Nat) (a b : Int) : Int := Int.fdiv (a * b) (2 ^ p)

/-- A quotient. -/
def div (p : Nat) (a b : Int) : Int := Int.fdiv (a * 2 ^ p) b

/-- The value of `a * 2 ^ e` in units of one, rounded down. -/
def scale (a : Int) (e : Int) : Int :=
  if e ≥ 0 then a * 2 ^ e.toNat else Int.fdiv a (2 ^ (-e).toNat)

/-! ### Roots -/

/-- A whole root by Newton's steps from above, at most so many. -/
def descend (step : Nat → Nat) : Nat → Nat → Nat
  | 0, x => x
  | n + 1, x =>
    let y := step x
    if y < x then descend step n y else x

/-- The whole square root of a whole number. -/
def squareRoot (n : Nat) : Nat :=
  if n = 0 then 0
  else descend (fun x => (x + n / x) / 2) (2 * Nat.log2 n + 4) (2 ^ (Nat.log2 n / 2 + 1))

/-- The square root of a number. -/
def sqrt (p : Nat) (a : Int) : Int := squareRoot (a.toNat * 2 ^ p)

/-! ### Series -/

/-- The sum of terms each of which follows from the one before it, until one vanishes. -/
def series (next : Nat → Int → Int) : Nat → Nat → Int → Int
  | 0, _, term => term
  | n + 1, k, term => if term = 0 then 0 else term + series next n (k + 1) (next k term)

/-- The sum of a power and those that follow it by a factor, the `k`-th over `2 * k + 1`. -/
def overOdd (p : Nat) (factor : Int) : Nat → Nat → Int → Int
  | 0, _, _ => 0
  | n + 1, k, power =>
    if power = 0 || power = -1 then 0
    else Int.fdiv power (2 * k + 1) + overOdd p factor n (k + 1) (mul p power factor)

/-- The sum of the odd powers of a number, each over its exponent, perhaps with alternating
signs. -/
def oddPowers (p : Nat) (alternate : Bool) (a : Int) : Int :=
  overOdd p (if alternate then -(mul p a a) else mul p a a) (2 * p + 8) 0 a

/-- Half a turn of the circle of radius one. -/
def pi (p : Nat) : Int :=
  let q := p + 16
  let arc (n : Nat) : Int := oddPowers q true (one q / n)
  scale (16 * arc 5 - 4 * arc 239) (-16)

/-- The natural logarithm of two. -/
def ln2 (p : Nat) : Int :=
  let q := p + 16
  scale (2 * oddPowers q false (one q / 3)) (-16)

/-- The exponential of a number between -1 and 1. -/
def exp (p : Nat) (a : Int) : Int :=
  series (fun k t => Int.tdiv (mul p t a) (k + 1)) (p + 8) 0 (one p)

/-- The natural logarithm of a number between a half and two. -/
def ln (p : Nat) (a : Int) : Int := 2 * oddPowers p false (div p (a - one p) (a + one p))

/-- The sine and the cosine of a number between -1 and 1. -/
def sinCos (p : Nat) (a : Int) : Int × Int :=
  let square := mul p a a
  let sum (first : Nat) (start : Int) : Int :=
    series (fun k t => -Int.tdiv (mul p t square) ((2 * k + first) * (2 * k + first + 1) : Nat))
      (p + 8) 0 start
  (sum 2 a, sum 1 (one p))

/-- The arc of a tangent between 0 and 1, which is halved three times first. -/
def arctan (p : Nat) (a : Int) : Int :=
  let half (t : Int) : Int := div p t (one p + sqrt p (one p + mul p t t))
  8 * oddPowers p true (half (half (half a)))

end FocusBilling.Fixed
