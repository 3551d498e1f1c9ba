import FocusBilling.Sql.Catalog

/-!
# Cutting texts

* `Sql.leftOf`, `Sql.rightOf` : so many characters at one end of a text, or all but so many;
* `Sql.cutFrom`, `Sql.cutBetween` : what stands behind a place, counted from one;
* `Sql.pieceOf` : a piece of a text that is split;
* `Sql.placeOf` : where a text is found in another, counted from one; zero where it is not.

Numbers that are written out are settled at once; other numbers are told apart row by row.
-/

namespace FocusBilling.Sql

/-- A part of a text. -/
def sliced (a offset count : Formula) : Formula := .apply (.text .slice) [a, offset, count]

/-- The number of characters of a text. -/
def lengthOf (a : Formula) : Formula := .apply (.text (.length .characters)) [a]

/-- Zero in place of what is below it. -/
def notBelowZero (n : Formula) : Formula := .apply (.number .notNegative) [n]

/-- The absolute value. -/
def absoluteOf (n : Formula) : Formula := .apply (.number .absolute) [n]

/-- A value that is written out, which is no number. -/
def isWrittenOther : Formula → Bool
  | .constant .. | .fraction _ => true
  | _ => false

/-- The first characters of a text; below zero, all but the last. -/
def leftOf (a n : Formula) : Elaborated Formula :=
  let shortened := notBelowZero (.compute .add (lengthOf a) n)
  match n with
  | .whole 0 => .ok (.ofText "")
  | .whole k => .ok (sliced a (.whole 0) (if k > 0 then n else shortened))
  | n =>
    if isWrittenOther n then unsupported
    else
      .ok (.choose (.compare .ge n (.whole 0)) (sliced a (.whole 0) (absoluteOf n))
        (sliced a (.whole 0) shortened))

/-- The last characters of a text; below zero, all but the first. -/
def rightOf (a n : Formula) : Elaborated Formula :=
  let before := Formula.compute .sub (.apply (.cast .i32 false) [lengthOf a]) n
  match n with
  | .whole 0 => .ok (.ofText "")
  | .whole k => .ok (sliced a (if k < 0 then .whole (-k) else before) .missing)
  | n =>
    if isWrittenOther n then unsupported
    else
      .ok (.choose (.compare .lt n (.whole 0)) (sliced a (absoluteOf n) .missing)
        (sliced a before .missing))

/-- A text from a place on.  A place that is not written out is itself the result, plus one. -/
def cutFrom (a start : Formula) : Elaborated Formula :=
  match start with
  | .constant .null t => .ok (.constant .null t)
  | .whole n => .ok (if n ≤ 0 then a else sliced a (.whole (n - 1)) .missing)
  | start => if isWrittenOther start then unsupported else .ok (.compute .add start (.whole 1))

/-- So many characters of a text from a place on; places before the first one count. -/
def cutBetween (a start count : Formula) : Elaborated Formula :=
  let isNegative : Formula → Bool
    | .whole n => decide (n < 0)
    | _ => false
  match start, count with
  | .constant .null t, _ | _, .constant .null t => .ok (.constant .null t)
  | .whole n, count =>
    if isNegative count then unsupported
    else if n > 0 then .ok (sliced a (.whole (n - 1)) count)
    else .ok (sliced a (.whole 0) (notBelowZero (.compute .add count (.whole (n - 1)))))
  | start, count =>
    let isFraction : Formula → Bool
      | .fraction _ => true
      | _ => false
    if isNegative count || isWrittenOther start || isFraction count then unsupported
    else
      let place := Formula.compute .sub start (.whole 1)
      .ok (.choose (.compare .lt place (.whole 0))
        (sliced a (.whole 0) (notBelowZero (.compute .add count place))) (sliced a place count))

/-- An index that counts from one, as one that counts from zero; there is no item zero. -/
def zeroBased (i : Formula) : Formula :=
  match i with
  | .constant .null t => .constant .null t
  | .whole n => if n = 0 then .missing else if n < 0 then i else .whole (n - 1)
  | i =>
    .choose (.compare .gt i (.whole 0)) (.compute .sub i (.whole 1))
      (.choose (.compare .eq i (.whole 0)) .missing i)

/-- A piece of a text that is split, counted from one, or from the end below zero. -/
def pieceOf (a separator i : Formula) : Formula :=
  .choose (.not (.apply .isNull [a])) (.apply (.text .piece) [a, separator, zeroBased i]) a

/-- Where a text is found in another, counted from one; zero where it is not. -/
def placeOf (a part : Formula) : Formula :=
  let place := Formula.compute .add (.apply (.text .place) [a, part])
    (.constant (.int 1) (.int .u32))
  .apply .coalesce [place, .constant (.int 0) (.int .u32)]

end FocusBilling.Sql
