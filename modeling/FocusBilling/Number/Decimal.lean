import FocusBilling.Number.Binary
import FocusBilling.Text.Ascii

/-!
# Reading decimals

Whole numbers and decimals from text.

* `Decimal.natural?`, `Decimal.integer?` : digits, with an optional sign;
* `Decimal.scan` : the longest decimal at the start of a text;
* `Decimal.binary?` : a whole text as a floating-point number, with the spellings of infinity
  and not-a-number.
-/

namespace FocusBilling

/-- A written decimal `± mant * 10 ^ exp`. -/
structure Decimal where
  /-- Whether a minus sign stands in front. -/
  negative : Bool
  /-- The digits without the point. -/
  mant : Nat
  /-- Power of ten of the last digit. -/
  exp : Int
  deriving DecidableEq

namespace Decimal

open Text

/-- A non-empty run of digits as a number. -/
def natural? (cs : List Char) : Option Nat :=
  if cs.isEmpty || !cs.all isDigit then none else some (digitsValue 10 cs)

/-- An optional sign. -/
def sign : List Char → Bool × List Char
  | '-' :: cs => (true, cs)
  | '+' :: cs => (false, cs)
  | cs => (false, cs)

/-- Digits with an optional sign, as a number. -/
def integer? (cs : List Char) : Option Int :=
  let (neg, ds) := sign cs
  (natural? ds).map fun n => if neg then -(n : Int) else n

/-- The exponent part `e±digits`, if it is complete. -/
def exponent (cs : List Char) : Int × List Char :=
  match cs with
  | e :: rest =>
    if e = 'e' || e = 'E' then
      let (neg, ds) := sign rest
      let run := ds.takeWhile isDigit
      if run.isEmpty then (0, cs)
      else
        let n : Int := digitsValue 10 run
        (if neg then -n else n, ds.dropWhile isDigit)
    else (0, cs)
  | [] => (0, [])

/-- The longest unsigned decimal at the start of a text: digits around an optional point, at
least one, and an optional exponent. -/
def scanUnsigned (cs : List Char) : Option ((Nat × Int) × List Char) :=
  let whole := cs.takeWhile isDigit
  let afterWhole := cs.dropWhile isDigit
  let (frac, rest) := match afterWhole with
    | '.' :: r => (r.takeWhile isDigit, r.dropWhile isDigit)
    | r => ([], r)
  if whole.isEmpty && frac.isEmpty then none
  else
    let (e, rest) := exponent rest
    some ((digitsValue 10 (whole ++ frac), e - frac.length), rest)

/-- The longest decimal at the start of a text. -/
def scan (cs : List Char) : Option (Decimal × List Char) :=
  let (neg, body) := sign cs
  (scanUnsigned body).map fun ((m, e), rest) => (⟨neg, m, e⟩, rest)

/-- The nearest number of a format. -/
def toBinary (fmt : BinaryFormat) (d : Decimal) : Binary := fmt.roundDecimal d.negative d.mant d.exp

/-- A whole text as a floating-point number.  Infinity and not-a-number may be written in any
case. -/
def binary? (fmt : BinaryFormat) (cs : List Char) : Option Binary :=
  let (neg, body) := sign cs
  let word := body.map Char.toLower
  if word = "inf".toList || word = "infinity".toList then some (.infinite neg)
  else if word = "nan".toList then some .nan
  else match scan cs with
    | some (d, []) => some (d.toBinary fmt)
    | _ => none

end Decimal

end FocusBilling
