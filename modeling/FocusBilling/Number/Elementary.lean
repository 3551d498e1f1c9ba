import FocusBilling.Number.Binary
import FocusBilling.Number.Fixed

/-!
# Elementary functions of floating-point numbers

The square root, exponentials, logarithms and the functions of the circle, each computed in fixed
point with far more places than a format keeps and then rounded once.

* `Binary.sqrt` : the square root;
* `Binary.exp`, `Binary.ln`, `Binary.power` : exponentials and logarithms;
* `Binary.sin`, `Binary.cos`, `Binary.tan` and their inverses.
-/

namespace FocusBilling

namespace Binary

variable (fmt : BinaryFormat)

/-- Places of a fixed-point number beyond those of its leading bit. -/
def guardBits : Nat := 256

/-- The exponent of the leading bit of a number that is not zero. -/
def leadingBit (mant : Nat) (exp : Int) : Int := (Nat.log2 mant : Int) + exp

/-- A fixed-point number in a format. -/
def ofFixed (p : Nat) (a : Int) : Binary := fmt.round (a < 0) a.natAbs (2 ^ p)

/-- The number one. -/
def one : Binary := fmt.ofInt 1

/-- Zero. -/
def zero (negative : Bool) : Binary := .finite negative 0 fmt.minExp

/-- Half a turn. -/
def pi : Binary := ofFixed fmt guardBits (Fixed.pi guardBits)

/-! ### Roots -/

/-- The square root. -/
def sqrt : Binary → Binary
  | .nan | .infinite true => .nan
  | .infinite false => .infinite false
  | .finite s m e =>
    if m = 0 then .finite s m e
    else if s then .nan
    else
      let shift := 2 * fmt.precision + 8 + (e % 2).toNat
      let n := m * 2 ^ shift
      let r := Fixed.squareRoot n
      let sticky := if r * r = n then 2 * r else 2 * r + 1
      fmt.roundDyadic false sticky ((e - shift) / 2 - 1)

/-! ### Exponentials and logarithms -/

/-- The exponential of a fixed-point number. -/
def expFixed (negative : Bool) (p : Nat) (a : Int) : Binary :=
  if a > 2000 * Fixed.one p then .infinite negative
  else if a < -2000 * Fixed.one p then zero fmt negative
  else
    let ln2 := Fixed.ln2 (p + 16)
    let k := Int.fdiv (a * 2 ^ 16) ln2
    let rest := a - Fixed.scale (k * ln2) (-16)
    fmt.roundDyadic negative (Fixed.exp p rest).toNat (k - p)

/-- The exponential. -/
def exp : Binary → Binary
  | .nan => .nan
  | .infinite s => if s then zero fmt false else .infinite false
  | .finite s m e =>
    if m = 0 then one fmt
    else if leadingBit m e > 12 then (if s then zero fmt false else .infinite false)
    else expFixed fmt false guardBits (Fixed.scale (signed s m) (e + guardBits))

/-- The natural logarithm of `mant * 2 ^ exp`, which is not zero. -/
def lnFixed (p : Nat) (mant : Nat) (exp : Int) : Int :=
  let b := Nat.log2 mant
  let a := Fixed.scale mant ((p : Int) - b)
  let k := (b : Int) + exp
  if 5 * a > 7 * Fixed.one p then
    Fixed.ln p (Fixed.scale mant ((p : Int) - b - 1)) + (k + 1) * Fixed.ln2 p
  else Fixed.ln p a + k * Fixed.ln2 p

/-- The natural logarithm. -/
def ln : Binary → Binary
  | .nan | .infinite true => .nan
  | .infinite false => .infinite false
  | .finite s m e =>
    if m = 0 then .infinite true
    else if s then .nan
    else ofFixed fmt guardBits (lnFixed guardBits m e)

/-- A product with the powers of a number that the bits of an exponent ask for, the lowest
first. -/
def timesPower (product x : Binary) (n : Nat) : Binary :=
  if n = 0 then product
  else timesPower (if n % 2 = 1 then mul fmt product x else product) (mul fmt x x) (n / 2)

/-- A number to a whole power, by squares. -/
def wholePower (x : Binary) (n : Nat) : Binary := timesPower fmt (one fmt) x n

/-- Whether a finite number is whole, and whether it is odd. -/
def wholeOdd (m : Nat) (e : Int) : Bool × Bool :=
  if m = 0 then (true, false)
  else if e ≥ 0 then (true, e = 0 && m % 2 = 1)
  else
    let unit := 2 ^ (-e).toNat
    (m % unit = 0, m % unit = 0 && m / unit % 2 = 1)

/-- A number that is not negative to the power of an infinity, by how it compares with one. -/
def toInfinity (grows : Bool) : Ordering → Binary
  | .eq => one fmt
  | .gt => if grows then .infinite false else zero fmt false
  | .lt => if grows then zero fmt false else .infinite false

/-- A power. -/
def power (x y : Binary) : Binary :=
  if y.isZero || x == one fmt then one fmt
  else
    match x, y with
    | .nan, _ | _, .nan => .nan
    | x, .infinite s => toInfinity fmt (!s) (compareTotal x.abs (one fmt))
    | .infinite sx, .finite sy m e =>
      let negative := sx && (wholeOdd m e).2
      if sy then zero fmt negative else .infinite negative
    | .finite sx mx ex, .finite sy m e =>
      let (whole, odd) := wholeOdd m e
      let negative := sx && odd
      if mx = 0 then (if sy then .infinite negative else zero fmt negative)
      else if sx && !whole then .nan
      else
        let p := 2 * guardBits
        expFixed fmt negative p (Fixed.scale (lnFixed p mx ex * signed sy m) e)

/-! ### Functions of the circle -/

/-- Places for a number with a leading bit: more for small numbers, and for large ones whose turns
are taken off. -/
def placesFor (mant : Nat) (exp : Int) : Nat := guardBits + (leadingBit mant exp).natAbs

/-- The sine and the cosine of a finite number. -/
def circle (p : Nat) (s : Bool) (m : Nat) (e : Int) : Int × Int :=
  let x := Fixed.scale (signed s m) (e + p)
  let quarter := Fixed.pi (p + 1)
  let turns := Int.fdiv (8 * x + quarter) (2 * quarter)
  let rest := x - Fixed.scale (turns * quarter) (-2)
  let (sin, cos) := Fixed.sinCos p rest
  match (turns % 4).toNat with
  | 0 => (sin, cos)
  | 1 => (cos, -sin)
  | 2 => (-sin, -cos)
  | _ => (-cos, sin)

/-- The sine. -/
def sin : Binary → Binary
  | .finite s m e =>
    if m = 0 then .finite s m e
    else
      let p := placesFor m e
      ofFixed fmt p (circle p s m e).1
  | _ => .nan

/-- The cosine. -/
def cos : Binary → Binary
  | .finite s m e =>
    if m = 0 then one fmt
    else
      let p := placesFor m e
      ofFixed fmt p (circle p s m e).2
  | _ => .nan

/-- The tangent. -/
def tan : Binary → Binary
  | .finite s m e =>
    if m = 0 then .finite s m e
    else
      let (sin, cos) := circle (placesFor m e) s m e
      fmt.round ((sin < 0) != (cos < 0)) sin.natAbs cos.natAbs
  | _ => .nan

/-- The arc of the tangent `a / b` between 0 and a quarter turn. -/
def arcOf (p : Nat) (a b : Int) : Int :=
  if a ≤ b then Fixed.arctan p (Fixed.div p a b)
  else Fixed.scale (Fixed.pi p) (-1) - Fixed.arctan p (Fixed.div p b a)

/-- A fixed-point number with a sign. -/
def withSign (negative : Bool) (a : Int) : Int := if negative then -a else a

/-- A quarter turn with a sign. -/
def quarterTurn (negative : Bool) : Binary :=
  ofFixed fmt guardBits (withSign negative (Fixed.scale (Fixed.pi guardBits) (-1)))

/-- The arc of a tangent. -/
def arctan : Binary → Binary
  | .nan => .nan
  | .infinite s => quarterTurn fmt s
  | .finite s m e =>
    if m = 0 then .finite s m e
    else
      let p := placesFor m e
      ofFixed fmt p (withSign s (arcOf p (Fixed.scale m (e + p)) (Fixed.one p)))

/-- The arc of a sine. -/
def arcsin : Binary → Binary
  | .finite s m e =>
    if m = 0 then .finite s m e
    else
      let p := placesFor m e
      let x := Fixed.scale m (e + p)
      if x > Fixed.one p then .nan
      else ofFixed fmt p (withSign s (arcOf p x (Fixed.sqrt p (Fixed.one p - Fixed.mul p x x))))
  | _ => .nan

/-- The arc of a cosine. -/
def arccos : Binary → Binary
  | .finite s m e =>
    let p := 2 * guardBits
    let x := Fixed.scale m (e + p)
    let one := Fixed.one p
    if x > one then .nan
    else
      let arc := 2 * arcOf p (Fixed.sqrt p (Fixed.div p (one - x) (one + x))) one
      ofFixed fmt p (if s then Fixed.pi p - arc else arc)
  | _ => .nan

/-- Eighths of half a turn with a sign. -/
def eighths (negative : Bool) (n : Int) : Binary :=
  ofFixed fmt guardBits (withSign negative (Int.fdiv (n * Fixed.pi guardBits) 8))

/-- The arc from the first axis to the point `(x, y)`. -/
def arctan2 (y x : Binary) : Binary :=
  match y, x with
  | .nan, _ | _, .nan => .nan
  | .infinite s, .infinite t => eighths fmt s (if t then 6 else 2)
  | .infinite s, _ => quarterTurn fmt s
  | .finite s _ _, .infinite t => if t then eighths fmt s 8 else zero fmt s
  | .finite s m e, .finite t n f =>
    if m = 0 then (if t then eighths fmt s 8 else zero fmt s)
    else if n = 0 then quarterTurn fmt s
    else
      let p := guardBits + (leadingBit m e - leadingBit n f).natAbs
      let low := min e f
      let arc := arcOf p (shiftTo low m e) (shiftTo low n f)
      ofFixed fmt p (withSign s (if t then Fixed.pi p - arc else arc))

/-! ### Degrees -/

/-- An arc in degrees. -/
def toDegrees (x : Binary) : Binary :=
  mul fmt x (fmt.round false (180 * 2 ^ guardBits) (Fixed.pi guardBits).toNat)

/-- An arc from degrees. -/
def ofDegrees (x : Binary) : Binary := mul fmt x (div fmt (pi fmt) (fmt.ofInt 180))

end Binary

end FocusBilling
