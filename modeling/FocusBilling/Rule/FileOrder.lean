import FocusBilling.Files.Path
import FocusBilling.Number.Instances

/-!
# Order in file names

The name of a rule file may tell the place of its rule: `D<dimension>_S<step>`, the letters in
either case, the numbers below `2 ^ 32` with any number of leading zeros.
-/

namespace FocusBilling

/-- The place that a file name gives to its rule. -/
structure FileOrder where
  /-- First part of the order. -/
  dimension : Nat
  /-- Second part of the order. -/
  step : Nat
  deriving DecidableEq

namespace FileOrder

open Text

/-- A non-empty run of digits below `2 ^ 32`. -/
def number? (cs : List Char) : Option Nat :=
  if cs.isEmpty || !cs.all isDigit then none
  else
    let n := digitsValue 10 cs
    if n < 2 ^ 32 then some n else none

/-- The order that a whole stem spells. -/
def ofStem? (cs : List Char) : Option FileOrder :=
  match cs with
  | d :: rest =>
    if d = 'D' ∨ d = 'd' then
      match rest.dropWhile isDigit with
      | '_' :: s :: digits =>
        if s = 'S' ∨ s = 's' then do
          let dimension ← number? (rest.takeWhile isDigit)
          let step ← number? digits
          pure ⟨dimension, step⟩
        else none
      | _ => none
    else none
  | [] => none

/-- The order that the name of a file gives. -/
def ofPath? (p : String) : Option FileOrder := (Path.stem? p).bind fun s => ofStem? s.toList

end FileOrder

end FocusBilling
