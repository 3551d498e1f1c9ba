import FocusBilling.Text.Ascii

/-!
# Labels of code points

A table that gives every code point a label, written down as runs of equal labels.

* `Text.RunTable.read` : the table that a text spells;
* `Text.RunTable.label` : the label of a character.
-/

namespace FocusBilling.Text

/-- Code points in a row with one label. -/
structure Run where
  /-- The first code point. -/
  first : Nat
  /-- The label. -/
  label : String
  deriving Inhabited

/-- Runs in order, each up to the next. -/
structure RunTable where
  /-- The runs. -/
  runs : Array Run

namespace RunTable

/-- The runs of words from a code point on.  A word is a label, behind a colon the length of its run
in hexadecimal; without one the run is a single code point. -/
def readFrom : Nat → List (List Char) → List Run
  | _, [] => []
  | start, w :: ws =>
    let count := match w.dropWhile (· ≠ ':') with
      | _ :: ds => digitsValue 16 ds
      | [] => 1
    ⟨start, String.ofList (w.takeWhile (· ≠ ':'))⟩ :: readFrom (start + count) ws

/-- The table that a text spells, words with single spaces between them. -/
def read (s : String) : RunTable := ⟨(readFrom 0 (splitOn ' ' s.toList)).toArray⟩

/-- The last of the runs `lo ≤ i < hi` that starts at a code point or before it, the run `lo` being
one of them. -/
def search (t : RunTable) (n : Nat) : Nat → Nat → Nat → Nat
  | 0, lo, _ => lo
  | fuel + 1, lo, hi =>
    if lo + 1 ≥ hi then lo
    else
      let mid := (lo + hi) / 2
      if (t.runs.getD mid default).first ≤ n then search t n fuel mid hi
      else search t n fuel lo mid

/-- The label of a character. -/
def label (t : RunTable) (c : Char) : String :=
  (t.runs.getD (t.search c.toNat t.runs.size 0 t.runs.size) default).label

end RunTable

end FocusBilling.Text
