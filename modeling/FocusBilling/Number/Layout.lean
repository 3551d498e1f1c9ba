import FocusBilling.Number.Shortest

/-!
# Written floating-point numbers

How the shortest decimal of a number is laid out.  A layout is a record.

* `Layout.plain` : positional at any size, whole numbers without a point: rule literals;
* `Layout.exact` : positional from `1e-4` below `1e16`: numbers shown with their type;
* `Layout.table` : numbers turned into text in a table; the wider format is positional from `1e-5`
  below `1e16`, the narrower from `1e-6` below `1e13`;
* `Layout.document` : like the wider of these, with a plus sign in front of exponents: numbers of
  documents.
-/

namespace FocusBilling

/-- How a decimal is laid out. -/
structure Layout where
  /-- Least exponent of the leading digit that is written positionally; none: any. -/
  positionalFrom : Option Int
  /-- First exponent of the leading digit that is not written positionally; none: any. -/
  positionalBelow : Option Int
  /-- Whether a whole number written positionally ends in a point and a zero. -/
  pointed : Bool
  /-- Whether an exponent that is not below zero has a plus sign. -/
  plus : Bool := false

namespace Layout

/-- Positional at any size, whole numbers without a point. -/
def plain : Layout := ⟨none, none, false, false⟩

/-- Positional from `1e-4` below `1e16`, whole numbers with a point. -/
def exact : Layout := ⟨some (-4), some 16, true, false⟩

/-- Positional from `1e-5` below `1e16`, whole numbers with a point; numbers of 32 bits are
positional from `1e-6` below `1e13`. -/
def table (fmt : BinaryFormat) : Layout :=
  if fmt = .single then ⟨some (-6), some 13, true, false⟩ else ⟨some (-5), some 16, true, false⟩

/-- Positional from `1e-5` below `1e16`, whole numbers with a point, exponents with a sign. -/
def document : Layout := ⟨some (-5), some 16, true, true⟩

variable (l : Layout)

/-- Whether a number whose leading digit has this exponent is written positionally. -/
def isPositional (lead : Int) : Bool :=
  (l.positionalFrom.all fun a => decide (a ≤ lead)) &&
    (l.positionalBelow.all fun b => decide (lead < b))

/-- Digits with the point after the first `point` of them; `point` may lie outside. -/
def positional (ds : List Char) (point : Int) : List Char :=
  let n : Int := ds.length
  if point ≥ n then
    ds ++ List.replicate (point - n).toNat '0' ++ (if l.pointed then ['.', '0'] else [])
  else if point > 0 then ds.take point.toNat ++ '.' :: ds.drop point.toNat
  else '0' :: '.' :: (List.replicate (-point).toNat '0' ++ ds)

/-- Digits with a point after the first and an exponent. -/
def scientific (ds : List Char) (lead : Int) : List Char :=
  (match ds with
    | [] => []
    | [d] => [d]
    | d :: rest => d :: '.' :: rest) ++
    'e' :: ((if l.plus && 0 ≤ lead then ['+'] else []) ++ (toString lead).toList)

/-- The digits `d * 10 ^ k` laid out. -/
def decimal (d : Nat) (k : Int) : List Char :=
  let ds := (toString d).toList
  let lead := k + ds.length - 1
  if l.isPositional lead then l.positional ds (lead + 1) else l.scientific ds lead

/-- A number of a format laid out. -/
def write (fmt : BinaryFormat) : Binary → String
  | .nan => "NaN"
  | .infinite s => if s then "-inf" else "inf"
  | .finite s m e =>
    let body :=
      if m = 0 then (if l.pointed then ['0', '.', '0'] else ['0'])
      else
        let (d, k) := Shortest.digits fmt m e
        l.decimal d k
    String.ofList (if s then '-' :: body else body)

end Layout

end FocusBilling
