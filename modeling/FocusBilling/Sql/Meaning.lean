import FocusBilling.Sql.Cutting
import FocusBilling.Sql.DatePart

/-!
# Functions by name

* `Sql.unaryMeaning?`, `Sql.binaryMeaning?`, `Sql.ternaryMeaning?` : what functions mean that have
  so many arguments;
* `Sql.variadicMeaning?` : the same for any number of arguments;
* `Sql.meaning` : what a function means that is called on some arguments.

Names are in small letters.  A function that is not known here is not carried out.
-/

namespace FocusBilling.Sql

/-! ### One argument -/

/-- A function of a number. -/
def numberCall (f : NumberFunction) (a : Formula) : Formula := .apply (.number f) [a]

/-- A function of a text. -/
def textCall (f : TextFunction) (a : Formula) : Formula := .apply (.text f) [a]

/-- A text without blanks at its ends. -/
def trimmedCall (atStart atEnd : Bool) (a : Formula) : Formula :=
  .apply (.text (.trim atStart atEnd)) [a, .missing]

/-- Functions of one number. -/
def numberMeaning? : String → Option (Formula → Formula)
  | "abs" => some (numberCall .absolute)
  | "acos" => some (numberCall .arccos)
  | "acosd" => some fun a => numberCall .toDegrees (numberCall .arccos a)
  | "asin" => some (numberCall .arcsin)
  | "asind" => some fun a => numberCall .toDegrees (numberCall .arcsin a)
  | "atan" => some (numberCall .arctan)
  | "atand" => some fun a => numberCall .toDegrees (numberCall .arctan a)
  | "cbrt" => some (numberCall .cubeRoot)
  | "ceil" | "ceiling" => some (numberCall .ceil)
  | "cos" => some (numberCall .cos)
  | "cosd" => some fun a => numberCall .cos (numberCall .ofDegrees a)
  | "cot" => some (numberCall .cot)
  | "cotd" => some fun a => numberCall .cot (numberCall .ofDegrees a)
  | "degrees" => some (numberCall .toDegrees)
  | "exp" => some (numberCall .exp)
  | "floor" => some (numberCall .floor)
  | "ln" => some (numberCall (.log none))
  | "log10" => some (numberCall (.log (some (BinaryFormat.double.ofInt 10))))
  | "log1p" => some (numberCall .lnOnePlus)
  | "log2" => some (numberCall (.log (some (BinaryFormat.double.ofInt 2))))
  | "radians" => some (numberCall .ofDegrees)
  | "round" => some (numberCall (.rounded 0))
  | "sign" => some (numberCall .sign)
  | "sin" => some (numberCall .sin)
  | "sind" => some fun a => numberCall .sin (numberCall .ofDegrees a)
  | "sqrt" => some (numberCall .squareRoot)
  | "tan" => some (numberCall .tan)
  | "tand" => some fun a => numberCall .tan (numberCall .ofDegrees a)
  | _ => none

/-- Functions of one text. -/
def textMeaning? : String → Option (Formula → Formula)
  | "upper" => some (textCall .upper)
  | "lower" => some (textCall .lower)
  | "reverse" => some (textCall .reverse)
  | "length" | "char_length" | "character_length" => some lengthOf
  | "octet_length" => some (textCall (.length .bytes))
  | "bit_length" => some (textCall (.length .bits))
  | "ltrim" => some (trimmedCall true false)
  | "rtrim" => some (trimmedCall false true)
  | "date" => some fun a => .apply (.time (.readDay none)) [a]
  | "timestamp" | "datetime" => some fun a => .apply (.time (.inferMoment .micro none)) [a]
  | "bit_not" | "bitnot" => some Formula.not
  | _ => none

/-- The total of a column that a function names. -/
def totalNamed? : String → Option Total
  | "avg" => some .mean
  | "first" => some .first
  | "last" => some .last
  | "max" => some .greatest
  | "median" => some (.quantile (Binary.div .double (BinaryFormat.double.ofInt 1)
      (BinaryFormat.double.ofInt 2)) true)
  | "min" => some .least
  | "stddev" | "stddev_samp" | "stdev" | "stdev_samp" => some .deviation
  | "sum" => some .sum
  | "var" | "var_samp" | "variance" => some .variance
  | _ => none

/-- Functions of one argument. -/
def unaryMeaning? (name : String) : Option (Formula → Formula) :=
  ((numberMeaning? name).or (textMeaning? name)).or
    ((totalNamed? name).map fun f a => .total f [a])

/-! ### Two arguments -/

/-- A function of two formulas that means something whatever they are. -/
abbrev always (f : Formula → Formula → Formula) : Option (Formula → Formula → Elaborated Formula) :=
  some fun a b => .ok (f a b)

/-- The double of a number that is written out. -/
def written? : Formula → Option Binary
  | .whole n => some (BinaryFormat.double.ofInt n)
  | .fraction x => some x
  | _ => none

/-- A number rounded to places that are written out. -/
def roundedCall (a places : Formula) : Elaborated Formula :=
  match places with
  | .whole n => if n < 0 then unsupported else .ok (numberCall (.rounded (min n.toNat 400)) a)
  | _ => unsupported

/-- A logarithm to a base that is written out, without a sign. -/
def logCall (a base : Formula) : Elaborated Formula :=
  match written? base with
  | some x => if x.isNegative then unsupported else .ok (numberCall (.log (some x)) a)
  | none => unsupported

/-- A quantile at a part between zero and one that is written out. -/
def quantileCall (between : Bool) (a part : Formula) : Elaborated Formula :=
  let inRange (x : Binary) : Bool :=
    (Binary.compare? x (BinaryFormat.double.ofInt 0)).any (· != .lt) &&
      (Binary.compare? x (BinaryFormat.double.ofInt 1)).any (· != .gt)
  match written? part with
  | some x => if inRange x then .ok (.total (.quantile x between) [a]) else unsupported
  | none => unsupported

/-- A function of a column and a text that is written out. -/
def byPattern (f : String → TimeFunction) (a pattern : Formula) : Elaborated Formula :=
  match pattern.text? with
  | some p => .ok (.apply (.time (f p)) [a])
  | none => unsupported

/-- A part of a date or a datetime, its name in front. -/
def datePartCall (name a : Formula) : Elaborated Formula :=
  match name.text? with
  | some n => namedPart n a
  | none => unsupported

/-- A value that is missing where it equals another. -/
def unlessEqual (a b : Formula) : Formula := .choose (.compare .eq a b) .missing a

/-- Functions of two arguments. -/
def binaryMeaning? : String → Option (Formula → Formula → Elaborated Formula)
  | "atan2" => always fun a b => .apply (.number .arctan2) [a, b]
  | "atan2d" => always fun a b => numberCall .toDegrees (.apply (.number .arctan2) [a, b])
  | "bit_and" | "bitand" => always fun a b => .apply (.connect .and) [a, b]
  | "bit_or" | "bitor" => always fun a b => .apply (.connect .or) [a, b]
  | "bit_xor" | "bitxor" | "xor" => always fun a b => .apply (.connect .xor) [a, b]
  | "corr" => always fun a b => .total .correlation [a, b]
  | "covar" | "covar_samp" => always fun a b => .total (.covariance 1) [a, b]
  | "covar_pop" => always fun a b => .total (.covariance 0) [a, b]
  | "date" => some (byPattern fun p => .readDay (some p))
  | "date_part" => some datePartCall
  | "div" => always fun a b => .apply (.cast .i64 false) [.compute .floorDivide a b]
  | "ends_with" => always fun a b => .apply (.text .endsWith) [a, b]
  | "ifnull" => always fun a b => .apply .coalesce [a, b]
  | "left" => some leftOf
  | "log" => some logCall
  | "ltrim" => always fun a b => .apply (.text (.trim true false)) [a, b]
  | "mod" => always (.compute .modulo)
  | "nullif" => always unlessEqual
  | "pow" | "power" => always fun a b => .apply (.number .power) [a, b]
  | "quantile_cont" => some (quantileCall true)
  | "quantile_disc" => some (quantileCall false)
  | "regexp_like" => always fun a b => .apply (.text .finds) [a, b]
  | "right" => some rightOf
  | "round" => some roundedCall
  | "rtrim" => always fun a b => .apply (.text (.trim false true)) [a, b]
  | "starts_with" => always fun a b => .apply (.text .startsWith) [a, b]
  | "strftime" => some (byPattern .formatted)
  | "strpos" => always placeOf
  | "strptime" => some (byPattern .readMoment)
  | "substr" => some cutFrom
  | "timestamp" | "datetime" => some (byPattern .readMoment)
  | _ => none

/-! ### More arguments -/

/-- Whether a regular expression with flags is found, both written out. -/
def foundWithFlags (a pattern flags : Formula) : Elaborated Formula :=
  match pattern.text?, flags.text? with
  | some p, some f =>
    if f.isEmpty then unsupported
    else .ok (.apply (.text .finds) [a, .ofText ("(?" ++ f ++ ")" ++ p)])
  | _, _ => unsupported

/-- Functions of three arguments. -/
def ternaryMeaning? : String → Option (Formula → Formula → Formula → Elaborated Formula)
  | "if" => some fun a b c => .ok (.choose a b c)
  | "regexp_like" => some foundWithFlags
  | "replace" => some fun a b c => .ok (.apply (.text .replaceAll) [a, b, c])
  | "split_part" => some fun a b c => .ok (pieceOf a b c)
  | "substr" => some cutBetween
  | _ => none

/-- Functions of any number of arguments. -/
def variadicMeaning? : String → Option (List Formula → Elaborated Formula)
  | "coalesce" => some fun args => .ok (.apply .coalesce args)
  | "concat" => some fun args =>
    if args.isEmpty then unsupported else .ok (.apply (.text (.concat "")) args)
  | "concat_ws" => some fun
    | separator :: a :: args =>
      match separator.text? with
      | some s => .ok (.apply (.text (.concat s)) (a :: args))
      | none => unsupported
    | _ => unsupported
  | "greatest" => some fun args => .ok (.apply (.extreme true) args)
  | "least" => some fun args => .ok (.apply (.extreme false) args)
  | _ => none

/-- What a function means that is called on some arguments. -/
def meaning (name : String) (args : List Formula) : Elaborated Formula :=
  match variadicMeaning? name, args with
  | some f, args => f args
  | none, [] => if name = "pi" then .ok (.fraction (Binary.pi .double)) else unsupported
  | none, [a] => (unaryMeaning? name).elim unsupported fun f => .ok (f a)
  | none, [a, b] => (binaryMeaning? name).elim unsupported fun f => f a b
  | none, [a, b, c] => (ternaryMeaning? name).elim unsupported fun f => f a b c
  | none, _ => unsupported

/-- Whether a function may go over a window. -/
def takesWindow (name : String) (args : Nat) : Bool :=
  args = 1 && (variadicMeaning? name).isNone

end FocusBilling.Sql
