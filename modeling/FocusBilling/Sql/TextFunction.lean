import FocusBilling.Sql.Arithmetic
import FocusBilling.Text.Case
import FocusBilling.Text.Cluster

/-!
# Functions of texts

* `Sql.TextFunction` : the functions, from capitals to regular expressions;
* `Sql.TextFunction.eval` : the outcome of a function.

A missing argument makes the result missing, except where it is said otherwise.
-/

namespace FocusBilling.Sql

/-- The units in which a text is measured. -/
inductive TextUnit where
  | characters
  | bytes
  | bits
  deriving DecidableEq

/-- A function of texts. -/
inductive TextFunction where
  | upper | lower | reverse
  | length (unit : TextUnit)
  /-- Without some characters at its ends; blanks where the second argument is missing. -/
  | trim (atStart atEnd : Bool)
  | startsWith | endsWith
  /-- Whether a regular expression is found. -/
  | finds
  /-- Where a regular expression is first found, in bytes. -/
  | place
  /-- A part of a text: what to drop and how much to keep, all where that is missing. -/
  | slice
  /-- Every occurrence of one text replaced by another. -/
  | replaceAll
  /-- A piece of a text that is split; an empty text where there is none. -/
  | piece
  /-- Texts one after another; missing ones are left out. -/
  | concat (separator : String)
  deriving DecidableEq

namespace TextFunction

/-! ### Texts -/

/-- A text without some characters at its ends. -/
def trimmed (atStart atEnd : Bool) (drops : Char → Bool) (s : String) : String :=
  let cs := if atStart then s.toList.dropWhile drops else s.toList
  String.ofList (if atEnd then (cs.reverse.dropWhile drops).reverse else cs)

/-- The size of a text. -/
def sizeOf (unit : TextUnit) (s : String) : Nat :=
  match unit with
  | .characters => s.length
  | .bytes => s.utf8ByteSize
  | .bits => 8 * s.utf8ByteSize

/-- A part of a text.  An offset below zero counts from the end; one from before the start makes the
part shorter. -/
def part (cs : List Char) (offset : Int) (count : Option Nat) : List Char :=
  let before := offset.natAbs - cs.length
  let rest := if offset ≥ 0 then cs.drop offset.toNat else cs.drop (cs.length - offset.natAbs)
  let missing := if offset ≥ 0 then 0 else before
  match count with
  | some n => rest.take (n - missing)
  | none => rest

/-- Every occurrence of one text in another replaced by a third; so many characters at most are
passed.  An empty text occurs in front of each character and at the end. -/
def substituted (old new : List Char) : Nat → List Char → List Char
  | 0, cs => cs
  | _ + 1, [] => if old.isEmpty then new else []
  | n + 1, c :: cs =>
    if old.isEmpty then new ++ c :: substituted old new n cs
    else if old.isPrefixOf (c :: cs) then
      new ++ substituted old new n ((c :: cs).drop old.length)
    else c :: substituted old new n cs

/-- The pieces of a text between occurrences of a separator; so many characters at most are
passed. -/
def pieces (separator : List Char) : Nat → List Char → List Char → List (List Char)
  | 0, current, cs => [current.reverse ++ cs]
  | _ + 1, current, [] => [current.reverse]
  | n + 1, current, c :: cs =>
    if separator.isPrefixOf (c :: cs) then
      current.reverse :: pieces separator n [] ((c :: cs).drop separator.length)
    else pieces separator n (c :: current) cs

/-- The pieces of a text; without a separator they are its characters. -/
def split (separator s : String) : List String :=
  if separator.isEmpty then s.toList.map fun c => String.ofList [c]
  else (pieces separator.toList (s.length + 1) [] s.toList).map String.ofList

/-- An item of a list by its index, which counts from the end below zero. -/
def itemAt? {α : Type} (items : List α) (i : Int) : Option α :=
  if i ≥ 0 then items[i.toNat]?
  else if i.natAbs ≤ items.length then items[items.length - i.natAbs]?
  else none

/-- Where a regular expression is first found in a text, in bytes. -/
def placeIn? (r : Regex) (s : String) : Option Nat :=
  (r.firstMatch? s).map fun i => (String.ofList (s.toList.take i)).utf8ByteSize

/-! ### Cells -/

/-- A regular expression out of its text. -/
def regexOf (p : String) : Except FrameError Regex :=
  match Regex.read? p with
  | some r => .ok r
  | none => .error .unreadable

/-- A function on the cells of one row. -/
def onCells : TextFunction → List Cell → Except FrameError Cell
  | .upper, [.text s] => .ok (.text (Text.toUpper s))
  | .lower, [.text s] => .ok (.text (Text.toLower s))
  | .reverse, [.text s] => .ok (.text (Text.reversed s))
  | .length unit, [.text s] => .ok (.int (sizeOf unit s))
  | .trim a b, [.text s, .text chars] => .ok (.text (trimmed a b chars.toList.contains s))
  | .trim a b, [.text s, .null] => .ok (.text (trimmed a b Text.isBlank s))
  | .startsWith, [.text s, .text t] => .ok (.bool (t.toList.isPrefixOf s.toList))
  | .endsWith, [.text s, .text t] => .ok (.bool (t.toList.isSuffixOf s.toList))
  | .finds, [.text s, .text p] => do pure (.bool ((← regexOf p).findsIn s))
  | .place, [.text s, .text p] => do
    pure (Cell.orNull (fun n => .int (n : Nat)) (placeIn? (← regexOf p) s))
  | .slice, [.text s, .int offset, .int n] =>
    .ok (.text (String.ofList (part s.toList offset (some n.toNat))))
  | .slice, [.text s, .int offset, .null] =>
    .ok (.text (String.ofList (part s.toList offset none)))
  | .replaceAll, [.text s, .text old, .text new] =>
    .ok (.text (String.ofList (substituted old.toList new.toList (s.length + 1) s.toList)))
  | .piece, [.text s, .text separator, i] =>
    .ok (.text (match i with
      | .int n => (itemAt? (split separator s) n).getD ""
      | _ => ""))
  | .piece, [.text _, .null, _] => .ok (.text "")
  | .concat separator, cs =>
    .ok (.text (String.intercalate separator (cs.filterMap Scalar.textOf?)))
  | _, _ => .ok .null

/-! ### Outcomes -/

/-- The type of a function. -/
def result : TextFunction → DType
  | .length _ | .place => .int .u32
  | .startsWith | .endsWith | .finds => .bool
  | _ => .text

/-- Outcomes as texts, where text is the type that holds them all. -/
def asTexts (os : List Outcome) : Option (List Outcome) :=
  match Outcome.unified os with
  | .ok (os, t) => if Operation.fits .text t then some os else none
  | .error _ => none

/-- Outcomes as a function takes them: texts, and behind a text whole numbers where it cuts it.
What stands beside the text that is looked for becomes one. -/
def accepted : TextFunction → List Outcome → Option (List Outcome)
  | .slice, [s, offset, count] =>
    if s.isText then some [s, castOutcome .i64 true offset, castOutcome (.int .u64) true count]
    else none
  | .piece, [s, separator, i] =>
    if s.isText && separator.isText then some [s, separator, castOutcome .i64 true i] else none
  | .replaceAll, [s, old, new] =>
    if old.isScalar then asTexts [s, old, new] else none
  | .concat _, os => some (os.map fun o => o.settled.toType .text)
  | .startsWith, os | .endsWith, os | .finds, os | .place, os => asTexts os
  | _, os => if os.all (·.isText) then some os else none

/-- The outcome of a function. -/
def eval (f : TextFunction) (args : List Outcome) : Outcome :=
  match f.accepted args with
  | some os => Outcome.rowwise? f.result f.onCells os
  | none => .failing f.result .wrongType

end TextFunction

end FocusBilling.Sql
