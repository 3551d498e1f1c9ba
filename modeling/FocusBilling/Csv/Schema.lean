import FocusBilling.Csv.Record
import FocusBilling.Frame.Table
import FocusBilling.Number.Decimal
import FocusBilling.Text.Category

/-!
# Columns of separated values

* `Csv.Guess` : what the spelling of a value says about the type of its column;
* `Csv.schema?` : the names in the first line of a text, with the types that its first rows suggest.
-/

namespace FocusBilling.Csv

open Text

/-- What the spelling of a value says about the type of its column. -/
inductive Guess where
  | bool
  | float
  | int
  | text
  deriving DecidableEq

namespace Guess

/-- Digits behind an exponent letter and an optional sign. -/
def isExponent (cs : List Char) : Bool :=
  match cs with
  | e :: rest =>
    let digits := match rest with
      | '+' :: r | '-' :: r => r
      | r => r
    (e = 'e' || e = 'E') && !digits.isEmpty && digits.all isAnyDigit
  | [] => false

/-- A number with a point or an exponent, without a sign; or a word for one that is not finite. -/
def isFloatBody (cs : List Char) : Bool :=
  let whole := cs.takeWhile isAnyDigit
  match cs.dropWhile isAnyDigit with
  | '.' :: rest =>
    let fraction := rest.takeWhile isAnyDigit
    let rest := rest.dropWhile isAnyDigit
    if fraction.isEmpty then !whole.isEmpty && rest.isEmpty else rest.isEmpty || isExponent rest
  | rest => cs = ['i', 'n', 'f'] || cs = ['N', 'a', 'N'] || (!whole.isEmpty && isExponent rest)

/-- The guess for a value that is not empty. -/
def of (cs : List Char) : Guess :=
  let unsigned := match cs with
    | '+' :: r | '-' :: r => r
    | r => r
  let natural := match cs with
    | '-' :: r => r
    | r => r
  if ["true", "false"].contains (lower (String.ofList cs)) then .bool
  else if isFloatBody unsigned then .float
  else if !natural.isEmpty && natural.all isAnyDigit then .int
  else .text

/-- The type that all guesses for a column allow. -/
def dtype (guesses : List Guess) : DType :=
  let has := guesses.contains
  if has .text || guesses.isEmpty then .text
  else if has .bool then (if has .int || has .float then .text else .bool)
  else if has .float then .float64
  else .i64

end Guess

/-- Names where a repeated one carries a number. -/
def uniqueNames : List String → List String → List String
  | _, [] => []
  | seen, n :: ns =>
    let count := seen.count n
    (if count = 0 then n else n ++ "_duplicated_" ++ toString (count - 1)) ::
      uniqueNames (n :: seen) ns

/-- A line without its carriage return. -/
def lineBody (line : List Char) : List Char :=
  if 1 < line.length then withoutReturn line else line

/-- The names in a header. -/
def header (line : List Char) : List String :=
  uniqueNames [] ((fields (lineBody line)).map fun f => String.ofList f.inner)

/-- The guesses that the lines of rows make for the column at a position. -/
def guessesAt (rows : List (List Field)) (i : Nat) : List Guess :=
  rows.filterMap fun fs =>
    (fs[i]?).bind fun f => if f.raw.isEmpty then none else some (Guess.of f.inner)

/-- A text without a byte-order mark at its start. -/
def withoutMark (cs : List Char) : List Char :=
  if cs.head? == some '\ufeff' then cs.drop 1 else cs

/-- The columns of a text with their types, of which the first rows, so many or all, decide. -/
def schema? (rows : Option Nat) (text : List Char) : Option (List (String × DType)) :=
  match lines (skipLineEnds (withoutMark text)) with
  | [] => none
  | first :: rest =>
    let names := header first
    let sample := match rows with
      | some n => rest.take n
      | none => rest
    let sample := (sample.filter fun l => !l.isEmpty).map fun l => fields (lineBody l)
    let typeAt (i : Nat) : DType :=
      if rows == some 0 then .text else Guess.dtype (guessesAt sample i)
    some ((names.zipIdx.map fun (n, i) => (n, typeAt i)).foldl (fun known (n, t) =>
      match known.findIdx? fun k => k.1 == n with
      | some i => known.set i (n, t)
      | none => known ++ [(n, t)]) [])

end FocusBilling.Csv
