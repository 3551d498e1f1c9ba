import FocusBilling.Number.Elementary
import FocusBilling.Number.Polynomial
import FocusBilling.Sql.Arithmetic

/-!
# Functions of numbers

* `Sql.NumberFunction` : the functions, from the absolute value to powers;
* `Sql.NumberFunction.eval` : the outcome of a function.

Roundings leave whole numbers as they are; all other functions of real numbers go by way of
floating-point numbers, in single precision only for columns that are held in it.
-/

namespace FocusBilling.Sql

/-- A function of numbers. -/
inductive NumberFunction where
  | absolute
  | sign
  | floor
  | ceil
  /-- To decimal places, a half going to the even neighbour. -/
  | rounded (places : Nat)
  /-- Zero in place of what is below it. -/
  | notNegative
  | squareRoot | cubeRoot
  | exp
  /-- The logarithm to a base; the natural one without. -/
  | log (base : Option Binary)
  | lnOnePlus
  | sin | cos | tan | cot
  | arcsin | arccos | arctan
  /-- The arc from the first axis to a point; the second coordinate comes first. -/
  | arctan2
  | toDegrees | ofDegrees
  | power
  deriving DecidableEq

namespace NumberFunction

/-! ### Types that are kept -/

/-- A number rounded to decimal places; single precision goes by way of double. -/
def roundTo (fmt : BinaryFormat) (places : Nat) (x : Binary) : Binary :=
  if fmt = .single && places > 0 then (x.toPlaces .double places).toFormat .single
  else x.toPlaces fmt places

/-- The sign of a number, as a number; a zero is its own sign. -/
def signOf (fmt : BinaryFormat) (x : Binary) : Binary :=
  if x.isNan || x.isZero then x else fmt.ofInt (if x.isNegative then -1 else 1)

/-- A function that keeps the type of a number, on one cell. -/
def keeping (f : NumberFunction) (t : DType) : Cell → Cell
  | .int n =>
    match f, t with
    | .absolute, .int it => .int (it.wrap n.natAbs)
    | .sign, _ => .int n.sign
    | .notNegative, _ => .int (max n 0)
    | _, _ => .int n
  | .float x =>
    let fmt := t.format?.getD .double
    match f with
    | .absolute => .float x.abs
    | .sign => .float (signOf fmt x)
    | .floor => .float (x.toWhole fmt .down)
    | .ceil => .float (x.toWhole fmt .up)
    | .rounded places => .float (roundTo fmt places x)
    | _ => .float x
  | _ => .null

/-! ### Real numbers -/

/-- A function of a real number. -/
def onBinary (f : NumberFunction) (fmt : BinaryFormat) (x : Binary) : Binary :=
  match f with
  | .squareRoot => Binary.sqrt fmt x
  | .cubeRoot => (Binary.cbrt x).toFormat fmt
  | .exp => Binary.exp fmt x
  | .log none => Binary.ln fmt x
  | .log (some base) => Binary.div fmt (Binary.ln fmt x) (Binary.ln fmt (base.toFormat fmt))
  | .lnOnePlus => (Binary.lnOnePlus x).toFormat fmt
  | .sin => Binary.sin fmt x
  | .cos => Binary.cos fmt x
  | .tan => Binary.tan fmt x
  | .cot => Binary.div fmt (fmt.ofInt 1) (Binary.tan fmt x)
  | .arcsin => Binary.arcsin fmt x
  | .arccos => Binary.arccos fmt x
  | .arctan => Binary.arctan fmt x
  | .toDegrees => Binary.toDegrees fmt x
  | .ofDegrees => Binary.ofDegrees fmt x
  | _ => x

/-- Whether values that are no numbers are read as numbers first. -/
def readsOthers : NumberFunction → Bool
  | .squareRoot | .cubeRoot | .exp | .log _ | .lnOnePlus => true
  | _ => false

/-- The type of floating-point numbers that a type is brought to. -/
def floatType (t : DType) : DType := if t.same .float32 then .float32 else .float64

/-- A function of real numbers on an outcome. -/
def real (f : NumberFunction) (a : Outcome) : Outcome :=
  let t := floatType a.dtype
  if a.dtype.isNumeric || a.dtype.same .null || f.readsOthers then
    (a.settled.toType t).mapCells t fun
      | .float x => .float (f.onBinary (t.format?.getD .double) x)
      | _ => .null
  else .failing t .wrongType

/-- The arc from the first axis to a point. -/
def arcTo (y x : Outcome) : Outcome :=
  let t := floatType y.dtype
  if (y.dtype.isNumeric || y.dtype.same .null) && (x.dtype.isNumeric || x.dtype.same .null) then
    Outcome.rowwise t (fun
      | [.float a, .float b] => .float (Binary.arctan2 (t.format?.getD .double) a b)
      | _ => .null) [y.toType t, x.toType t]
  else .failing t .wrongType

/-! ### Powers -/

/-- The type of a power. -/
def powerType (base exponent : DType) : DType :=
  match base, exponent with
  | .int _, .float32 => .float32
  | .int _, .float64 => .float64
  | base, _ => base

/-- A number to one exponent for a whole column: squares for small whole exponents, and a root for
a half. -/
def toOneExponent (fmt : BinaryFormat) (x y : Binary) : Binary :=
  if Binary.compare? y (fmt.ofInt 1) = some .eq then x
  else if Binary.compare? y (Binary.div fmt (fmt.ofInt 1) (fmt.ofInt 2)) = some .eq then
    Binary.sqrt fmt x
  else
    match y.truncate? with
    | some n =>
      if 1 < n && n < 10 && Binary.compare? y (fmt.ofInt n) = some .eq then
        Binary.wholePower fmt x n.toNat
      else Binary.power fmt x y
    | none => Binary.power fmt x y

/-- A product with a power of a whole number, by squares, wrapped around in a type. -/
def timesWhole (t : IntType) (product a : Int) (n : Nat) : Int :=
  if n = 0 then product
  else timesWhole t (if n % 2 = 1 then t.wrap (product * a) else product) (t.wrap (a * a)) (n / 2)

/-- A power in one row. -/
def powerCell (t : DType) (oneExponent : Bool) : Cell → Cell → Except FrameError Cell
  | .int a, .int n =>
    match t with
    | .int it =>
      if IntType.u32.fits n then .ok (.int (timesWhole it 1 a n.toNat)) else .error .unreadable
    | _ => .ok .null
  | .float x, .float y =>
    let fmt := t.format?.getD .double
    .ok (.float (if oneExponent then toOneExponent fmt x y else Binary.power fmt x y))
  | _, .int n => if IntType.u32.fits n then .ok .null else .error .unreadable
  | _, _ => .ok .null

/-- The power of two outcomes. -/
def raised (base exponent : Outcome) : Outcome :=
  let t := powerType base.dtype exponent.dtype
  let isNumber (d : DType) : Bool := d.isNumeric || d.same .null
  if isNumber base.dtype && isNumber exponent.dtype then
    let exponent := if t.format?.isSome then exponent.toType t else exponent.settled
    Outcome.rowwise? t (fun
      | [a, b] => powerCell t exponent.isScalar a b
      | _ => .ok .null) [base.toType t, exponent]
  else .failing t .wrongType

/-! ### Functions -/

/-- The outcome of a function. -/
def eval (f : NumberFunction) (args : List Outcome) : Except FrameError Outcome :=
  match f, args with
  | .absolute, [a] | .sign, [a] | .floor, [a] | .ceil, [a] | .rounded _, [a] | .notNegative, [a] =>
    if a.dtype.isNumeric then .ok (a.settled.mapCells a.dtype (f.keeping a.dtype))
    else if a.dtype.same .null then .ok a
    else .ok (.failing a.dtype .wrongType)
  | .arctan2, [y, x] => .ok (arcTo y x)
  | .power, [a, b] => .ok (raised a b)
  | f, [a] => .ok (f.real a)
  | _, _ => .error .wrongType

end NumberFunction

end FocusBilling.Sql
