import FocusBilling.Number.Binary

/-!
# Shortest decimals

The decimal with the fewest digits that rounds back to a given floating-point number, and of
those the nearest; a tie goes to the even digit.

* `Interval` : the real numbers that round to a number, as fractions over one denominator;
* `Shortest.digits` : digits and exponent of the shortest decimal of a finite number.
-/

namespace FocusBilling

/-- The reals around `value / den` that round to it: from `low / den` to `high / den`. -/
structure Interval where
  /-- Numerator of the lower end. -/
  low : Nat
  /-- Numerator of the number itself. -/
  value : Nat
  /-- Numerator of the upper end. -/
  high : Nat
  /-- The common denominator. -/
  den : Nat
  /-- Whether the two ends belong to it. -/
  closed : Bool

namespace Interval

/-- The interval of a positive number `mant * 2 ^ exp` of a format.  Below a power of two the
numbers lie twice as dense. -/
def ofBinary (fmt : BinaryFormat) (mant : Nat) (exp : Int) : Interval :=
  let below := if mant = 2 ^ (fmt.precision - 1) ∧ exp > fmt.minExp then 1 else 2
  let e := exp - 2
  let (up, den) := if e ≥ 0 then (2 ^ e.toNat, 1) else (1, 2 ^ (-e).toNat)
  ⟨(4 * mant - below) * up, 4 * mant * up, (4 * mant + 2) * up, den, mant % 2 == 0⟩

/-- Whether the fraction `n / den` lies in the interval. -/
def contains (i : Interval) (n : Nat) : Bool :=
  if i.closed then i.low ≤ n && n ≤ i.high else i.low < n && n < i.high

/-- All numerators and the denominator scaled so that the grid `10 ^ k` has step `1`. -/
def onGrid (i : Interval) (k : Int) : Interval :=
  if k ≥ 0 then { i with den := i.den * 10 ^ k.toNat }
  else
    let p := 10 ^ (-k).toNat
    { i with low := i.low * p, value := i.value * p, high := i.high * p }

/-- The whole number nearest to the value that lies in the interval, if there is one. -/
def wholeIn (i : Interval) : Option Nat :=
  let q := i.value / i.den
  let r := i.value % i.den
  let down := q != 0 && i.contains (q * i.den)
  let up := i.contains ((q + 1) * i.den)
  if down && up then
    some (if 2 * r < i.den then q else if 2 * r > i.den then q + 1
      else if q % 2 = 0 then q else q + 1)
  else if down then some q
  else if up then some (q + 1)
  else none

end Interval

namespace Shortest

/-- The first grid, from coarse to fine, that has a point in the interval. -/
def search (i : Interval) : Nat → Int → Nat × Int
  | 0, k => (i.value / i.den, k)
  | n + 1, k =>
    match (i.onGrid k).wholeIn with
    | some d => (d, k)
    | none => search i n (k - 1)

/-- An upper bound for the decimal exponent of `mant * 2 ^ exp`. -/
def exponentBound (mant : Nat) (exp : Int) : Int :=
  ((Nat.log2 mant : Int) + exp + 1) * 30103 / 100000 + 1

/-- Digits `d` and exponent `k` of the shortest decimal `d * 10 ^ k` of a positive number. -/
def digits (fmt : BinaryFormat) (mant : Nat) (exp : Int) : Nat × Int :=
  search (Interval.ofBinary fmt mant exp) 24 (exponentBound mant exp)

end Shortest

end FocusBilling
