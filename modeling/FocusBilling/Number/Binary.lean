import FocusBilling.Number.Instances

/-!
# Binary floating-point numbers

A floating-point number as an exact dyadic value, with the rounding of the two interchange
formats in use.  All arithmetic is exact integer arithmetic followed by one rounding to nearest,
ties to even.

* `Binary` : not-a-number, the infinities and the finite values `± mant * 2 ^ exp`;
* `BinaryFormat` : how many significant bits a width keeps, and between which exponents;
* `BinaryFormat.round` : the nearest number of a format to a fraction;
* `Binary.compare?` : the order of numbers, where not-a-number is comparable with nothing.
-/

namespace FocusBilling

/-- A floating-point number.  A zero keeps its sign. -/
inductive Binary where
  | nan
  | infinite (negative : Bool)
  | finite (negative : Bool) (mant : Nat) (exp : Int)
  deriving DecidableEq, Inhabited

/-- The width of a floating-point number. -/
structure BinaryFormat where
  /-- Significant bits. -/
  precision : Nat
  /-- Exponent of the last bit of the smallest numbers. -/
  minExp : Int
  /-- Exponent of the last bit of the largest numbers. -/
  maxExp : Int
  deriving DecidableEq

namespace BinaryFormat

/-- Double precision. -/
def double : BinaryFormat := ⟨53, -1074, 971⟩

/-- Single precision. -/
def single : BinaryFormat := ⟨24, -149, 104⟩

/-- A fraction times `2 ^ -e`, as a fraction. -/
def scaled (num den : Nat) (e : Int) : Nat × Nat :=
  if e ≥ 0 then (num, den * 2 ^ e.toNat) else (num * 2 ^ (-e).toNat, den)

/-- The nearest whole number to a fraction, a half going to the even neighbour. -/
def nearest (num den : Nat) : Nat :=
  let q := num / den
  let r := num % den
  if 2 * r < den then q else if 2 * r > den then q + 1 else if q % 2 = 0 then q else q + 1

/-- The exponent of the leading bit of a positive fraction. -/
def leading (num den : Nat) : Int :=
  let k : Int := (Nat.log2 num : Int) - (Nat.log2 den : Int)
  let (n, d) := scaled num den k
  if n < d then k - 1 else k

variable (fmt : BinaryFormat)

/-- The nearest number of the format to the fraction `num / den`. -/
def round (negative : Bool) (num den : Nat) : Binary :=
  if num = 0 then .finite negative 0 fmt.minExp
  else
    let e := max fmt.minExp (leading num den - (fmt.precision - 1))
    let (n, d) := scaled num den e
    let m := nearest n d
    let (m, e) := if m = 2 ^ fmt.precision then (2 ^ (fmt.precision - 1), e + 1) else (m, e)
    if e > fmt.maxExp then .infinite negative else .finite negative m e

/-- The nearest number of the format to `± mant * 2 ^ exp`. -/
def roundDyadic (negative : Bool) (mant : Nat) (exp : Int) : Binary :=
  if exp ≥ 0 then fmt.round negative (mant * 2 ^ exp.toNat) 1
  else fmt.round negative mant (2 ^ (-exp).toNat)

/-- The nearest number of the format to `± mant * 10 ^ exp`. -/
def roundDecimal (negative : Bool) (mant : Nat) (exp : Int) : Binary :=
  if mant = 0 then .finite negative 0 fmt.minExp
  else if exp > 400 then .infinite negative
  else if exp < -1400 - (Nat.log2 mant : Int) then .finite negative 0 fmt.minExp
  else if exp ≥ 0 then fmt.round negative (mant * 10 ^ exp.toNat) 1
  else fmt.round negative mant (10 ^ (-exp).toNat)

/-- The nearest number of the format to a whole number. -/
def ofInt (n : Int) : Binary := fmt.round (n < 0) n.natAbs 1

end BinaryFormat

namespace Binary

/-- Signed mantissa. -/
def signed (negative : Bool) (mant : Nat) : Int := if negative then -(mant : Int) else mant

/-- `a * 2 ^ (e - low)` for an exponent `e ≥ low`. -/
def shiftTo (low : Int) (a : Int) (e : Int) : Int := a * 2 ^ (e - low).toNat

/-- Whether the sign is minus. -/
def isNegative : Binary → Bool
  | .nan => false
  | .infinite s => s
  | .finite s _ _ => s

/-- Neither infinite nor not-a-number. -/
def isFinite : Binary → Bool
  | .finite .. => true
  | _ => false

/-- Whether the number is not-a-number. -/
def isNan (x : Binary) : Bool := x == .nan

/-- Whether the number is a zero of either sign. -/
def isZero : Binary → Bool
  | .finite _ m _ => m == 0
  | _ => false

/-- The order of two numbers; not-a-number is comparable with nothing. -/
def compare? : Binary → Binary → Option Ordering
  | .nan, _ | _, .nan => none
  | .infinite s, .infinite t => some (compare (if s then 0 else 1 : Nat) (if t then 0 else 1))
  | .infinite s, _ => some (if s then .lt else .gt)
  | _, .infinite t => some (if t then .gt else .lt)
  | .finite s m e, .finite t n f =>
    let low := min e f
    some (compare (shiftTo low (signed s m) e) (shiftTo low (signed t n) f))

/-- A total order: not-a-number equals itself and is above everything else. -/
def compareTotal (a b : Binary) : Ordering :=
  match compare? a b with
  | some o => o
  | none => compare (if a.isNan then 1 else 0 : Nat) (if b.isNan then 1 else 0)

/-- The same number in another format. -/
def toFormat (fmt : BinaryFormat) : Binary → Binary
  | .finite s m e => fmt.roundDyadic s m e
  | x => x

/-- Toward zero to a whole number. -/
def truncate? : Binary → Option Int
  | .finite s m e =>
    some (signed s (if e ≥ 0 then m * 2 ^ e.toNat else m / 2 ^ (-e).toNat))
  | _ => none

/-- The opposite sign. -/
def neg : Binary → Binary
  | .nan => .nan
  | .infinite s => .infinite !s
  | .finite s m e => .finite (!s) m e

/-- Without its sign. -/
def abs : Binary → Binary
  | .nan => .nan
  | .infinite _ => .infinite false
  | .finite _ m e => .finite false m e

section Arithmetic

variable (fmt : BinaryFormat)

/-- The sum in a format. -/
def add : Binary → Binary → Binary
  | .nan, _ | _, .nan => .nan
  | .infinite s, .infinite t => if s = t then .infinite s else .nan
  | .infinite s, _ => .infinite s
  | _, .infinite t => .infinite t
  | .finite s m e, .finite t n f =>
    let low := min e f
    let sum := shiftTo low (signed s m) e + shiftTo low (signed t n) f
    if sum = 0 then .finite (s && t) 0 fmt.minExp
    else fmt.roundDyadic (sum < 0) sum.natAbs low

/-- The difference in a format. -/
def sub (a b : Binary) : Binary := add fmt a b.neg

/-- The product in a format. -/
def mul : Binary → Binary → Binary
  | .nan, _ | _, .nan => .nan
  | .infinite s, .infinite t => .infinite (s != t)
  | .infinite s, .finite t n _ => if n = 0 then .nan else .infinite (s != t)
  | .finite s m _, .infinite t => if m = 0 then .nan else .infinite (s != t)
  | .finite s m e, .finite t n f => fmt.roundDyadic (s != t) (m * n) (e + f)

/-- The quotient in a format. -/
def div : Binary → Binary → Binary
  | .nan, _ | _, .nan => .nan
  | .infinite _, .infinite _ => .nan
  | .infinite s, .finite t _ _ => .infinite (s != t)
  | .finite s _ _, .infinite t => .finite (s != t) 0 fmt.minExp
  | .finite s m e, .finite t n f =>
    if n = 0 then (if m = 0 then .nan else .infinite (s != t))
    else
      let d := e - f
      if d ≥ 0 then fmt.round (s != t) (m * 2 ^ d.toNat) n
      else fmt.round (s != t) m (n * 2 ^ (-d).toNat)

end Arithmetic

end Binary

end FocusBilling
