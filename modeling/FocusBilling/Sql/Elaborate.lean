import FocusBilling.Sql.Combining

/-!
# What SQL expressions mean

* `Sql.Scope.formula` : the formula of an expression, in the scope of some tables and columns;
* `Sql.Scope.formulas` : the same for a list.

Subscripts, arrays and most special forms are not carried out.
-/

namespace FocusBilling.Sql

/-- Whether an expression is a query in brackets. -/
def isSubquery : Expr → Bool
  | .subquery _ => true
  | _ => false

/-- Whether an expression stands for all columns. -/
def isStar : List Expr → Bool
  | [.star] => true
  | _ => false

/-- The fixed truth value of a comparison of two intervals. -/
def intervalTest (op : BinaryOp) (a b : Expr) : Elaborated Formula :=
  match intervalOf? a, intervalOf? b with
  | some x, some y =>
    match comparedDurations op x y with
    | some answer => .ok (.ofBool answer)
    | none => unsupported
  | _, _ => unsupported

/-- An instant after an interval, or before it. -/
def shiftedBy (back : Bool) (a : Formula) (b : Expr) : Elaborated Formula :=
  match intervalOf? b with
  | some d => .ok (.apply (.time (.shift (if back then d.back else d))) [a])
  | none => unsupported

namespace Scope

variable (s : Scope)

/-- An operator between two expressions, given with what they mean. -/
def combined (op : BinaryOp) (x y : Expr) (a b : Elaborated Formula) : Elaborated Formula := do
  if isSubquery x || isSubquery y then unsupported
  else if isInterval y && op = .plus then shiftedBy false (← a) y
  else if isInterval y && op = .minus then shiftedBy true (← a) y
  else if isInterval x && isInterval y then intervalTest op x y
  else s.operated op (← a) (← b)

mutual

/-- What an expression means. -/
def formula : Expr → Elaborated Formula
  | .column path =>
    match path with
    | [n] => .ok (.column n.text)
    | path => s.column path
  | .value v => v.formula
  | .nested a => formula a
  | .unary op a => do pure (signed op (← formula a))
  | .binary op a b => s.combined op a b (formula a) (formula b)
  | .quantified isAll _ op a b => do
    let x ← formula a
    comparedWithAll isAll op x (← formula b)
  | .isTest test negated a => do testedFor test negated (← formula a)
  | .isDistinct negated a b => do
    let x ← formula a
    pure (.apply (.same (!negated)) [x, ← formula b])
  | .between negated a b c => do
    let x ← formula a
    let low ← formula b
    pure (s.within negated x low (← formula c))
  | .inList negated a items => do s.membership negated (← formula a) items
  | .inQuery negated a q => do
    let values ← s.subquery q
    pure (.notIf negated (.apply .among [← formula a, values]))
  | .like kind negated isAny a pattern escape => do
    if kind = .similar || isAny || escape.isSome then unsupported
    else
      let p ← formula pattern
      s.matched (kind = .ilike) negated (← formula a) p
  | .regexp _ negated a pattern => do
    let x ← formula a
    pure (.notIf negated (.apply (.text .finds) [x, ← formula pattern]))
  | .cases operand conditions results otherwise => do
    let otherwise ← optionalFormula otherwise
    let operand ← optionalFormula operand
    let conditions ← formulas conditions
    pure (casesOf operand conditions (← formulas results) (otherwise.getD .missing))
  | .cast kind a t format => do castOf kind t format (← formula a)
  | .extract f _ a => do extractedPart f (← formula a)
  | .rounding up a _ => do pure (numberCall (if up then .ceil else .floor) (← formula a))
  | .position part whole => do
    let a ← formula whole
    pure (placeOf a (← formula part))
  | .trim a side what chars => do
    if !chars.isEmpty then unsupported
    else
      let x ← formula a
      trimmedOf side (← optionalFormula what) x
  | .typed t text => typedText t text
  | .call c => callFormula c
  | _ => unsupported

/-- What expressions mean. -/
def formulas : List Expr → Elaborated (List Formula)
  | [] => .ok []
  | a :: as => do
    let x ← formula a
    pure (x :: (← formulas as))

/-- What an expression means, if it is there. -/
def optionalFormula : Option Expr → Elaborated (Option Formula)
  | none => .ok none
  | some a => do pure (some (← formula a))

/-- What a call means. -/
def callFormula : Call → Elaborated Formula
  | ⟨shape, _, arguments, _, _, partition, order, _, within⟩ => do
    if !within.isEmpty then unsupported
    else
      let star := isStar arguments
      let args ← if star then pure [] else formulas arguments
      let partition ← formulas partition
      called shape star args partition (← windowKeys order)

/-- What the keys of the order of a window mean. -/
def windowKeys : List OrderKey → Elaborated (List WindowKey)
  | [] => .ok []
  | ⟨a, ascending, _, _⟩ :: ks => do
    let x ← formula a
    pure ((x, ascending) :: (← windowKeys ks))

end

end Scope

end FocusBilling.Sql
