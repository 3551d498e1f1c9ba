import FocusBilling.Text.Regex.Class

/-!
# Regular expressions

* `Regex` : expressions over characters and places between them;
* `Regex.ends` : where the matches of an expression end that start at given places;
* `Regex.findsIn`, `Regex.firstMatch?` : whether an expression matches somewhere in a text, and
  where.

A text of `n` characters has the places `0` to `n`; a set of places is an array of as many truth
values.
-/

namespace FocusBilling

/-- A condition on a place in a text. -/
inductive Landmark where
  | textStart
  | textEnd
  /-- The start of a line; a carriage return may end lines too. -/
  | lineStart (returns : Bool)
  /-- The end of a line. -/
  | lineEnd (returns : Bool)
  /-- A word starts or ends here, or neither where negated. -/
  | wordEdge (anyScript negated : Bool)
  | wordStart (anyScript : Bool)
  | wordEnd (anyScript : Bool)
  /-- No word goes on from before. -/
  | noWordBefore (anyScript : Bool)
  /-- No word goes on from here. -/
  | noWordAfter (anyScript : Bool)
  deriving DecidableEq

/-- A regular expression. -/
inductive Regex where
  /-- Matches nothing. -/
  | never
  /-- Matches the empty text. -/
  | empty
  /-- Matches one character of a class. -/
  | char (accepts : Char → Bool)
  /-- Matches the empty text at some places. -/
  | at (mark : Landmark)
  | seq (first second : Regex)
  | either (first second : Regex)
  | many (body : Regex)
  deriving Inhabited

namespace Landmark

/-- Whether a condition holds between two characters, either of which may be missing. -/
def holds (m : Landmark) (before after : Option Char) : Bool :=
  let word (anyScript : Bool) (c : Option Char) : Bool := c.any (Regex.isWord anyScript)
  match m with
  | textStart => before.isNone
  | textEnd => after.isNone
  | lineStart false => before.all (· = '\n')
  | lineStart true => before.all fun c => c = '\n' || (c = '\r' && after != some '\n')
  | lineEnd false => after.all (· = '\n')
  | lineEnd true => after.all fun c => c = '\r' || (c = '\n' && before != some '\r')
  | wordEdge u negated => (word u before != word u after) != negated
  | wordStart u => !word u before && word u after
  | wordEnd u => word u before && !word u after
  | noWordBefore u => !word u before
  | noWordAfter u => !word u after

end Landmark

namespace Regex

/-! ### Matching -/

/-- The character before a place. -/
def charBefore (cs : Array Char) (i : Nat) : Option Char := if i = 0 then none else cs[i - 1]?

/-- A set of places that grows by a step until it grows no more, at most so many times. -/
def closure (grow : Array Bool → Array Bool) : Nat → Array Bool → Array Bool
  | 0, s => s
  | n + 1, s =>
    let t := Array.zipWith (· || ·) s (grow s)
    if t == s then s else closure grow n t

/-- Where the matches of an expression end that start at given places. -/
def ends (cs : Array Char) : Regex → Array Bool → Array Bool
  | never, s => s.map fun _ => false
  | empty, s => s
  | char accepts, s =>
    Array.ofFn (fun i : Fin s.size =>
      i.val != 0 && s.getD (i.val - 1) false && (charBefore cs i.val).any accepts)
  | .at m, s => s.mapIdx fun i b => b && m.holds (charBefore cs i) cs[i]?
  | seq a b, s => ends cs b (ends cs a s)
  | either a b, s => Array.zipWith (· || ·) (ends cs a s) (ends cs b s)
  | many a, s => closure (ends cs a) (cs.size + 2) s

/-- Whether an expression matches somewhere in a text. -/
def findsIn (r : Regex) (s : String) : Bool :=
  let cs := s.toList.toArray
  (r.ends cs (Array.replicate (cs.size + 1) true)).any id

/-- Where the first match in a text starts, counted in characters. -/
def firstMatch? (r : Regex) (s : String) : Option Nat :=
  let cs := s.toList.toArray
  (List.range (cs.size + 1)).find? fun i =>
    (r.ends cs (Array.ofFn fun j : Fin (cs.size + 1) => j.val == i)).any id

/-- A text as the regular expression that matches it alone: signs with a meaning are escaped. -/
def escaped (cs : List Char) : List Char :=
  cs.flatMap fun c => if "\\.+*?()|[]\x7b\x7d^$#&-~".contains c then ['\\', c] else [c]

/-! ### Building -/

/-- One expression after another; the empty one is left out. -/
def andThen : Regex → Regex → Regex
  | empty, b => b
  | a, empty => a
  | a, b => seq a b

/-- A number of repetitions between two bounds, the upper of which may be missing. -/
def repeated (r : Regex) (low : Nat) (high : Option Nat) : Regex :=
  let must := (List.replicate low r).foldr andThen empty
  match high with
  | none => andThen must (many r)
  | some h => andThen must ((List.replicate (h - low) r).foldr (fun r rest =>
      either empty (andThen r rest)) empty)

end Regex

end FocusBilling
