import FocusBilling.Sql.NumberFunction
import FocusBilling.Sql.TextFunction
import FocusBilling.Sql.TimeFunction

/-!
# Functions

* `Sql.Function` : whatever makes one value of each row out of the values of its arguments;
* `Sql.Function.eval` : the outcome of a function;
* `Sql.Function.isCall` : whether it counts as a call, in contrast to an operator.
-/

namespace FocusBilling.Sql

/-- A function of the values of a row. -/
inductive Function where
  | arithmetic (op : Arithmetic)
  | compare (c : Comparison)
  /-- Whether two values are the same, missing ones included, or whether they are not. -/
  | same (negated : Bool)
  | connect (c : Connective)
  | not
  | isNull
  /-- The first value, or the second, as the third says. -/
  | choose
  /-- Another type; a strict cast fails where a value has no counterpart. -/
  | cast (target : DType) (strict : Bool)
  /-- The first value that is not missing. -/
  | coalesce
  /-- The greatest or the least value. -/
  | extreme (greatest : Bool)
  /-- Whether the first is among all values of the second. -/
  | among
  | number (f : NumberFunction)
  | text (f : TextFunction)
  | time (f : TimeFunction)
  /-- A field of a struct. -/
  | field (name : String)

namespace Function

/-- The outcome of a function. -/
def eval : Function → List Outcome → Except FrameError Outcome
  | .arithmetic op, [a, b] => op.eval a b
  | .compare c, [a, b] => compared c a b
  | .same false, [a, b] => sameness a b
  | .same true, [a, b] => do opposite (← sameness a b)
  | .connect c, [a, b] => c.eval a b
  | .not, [a] => opposite a
  | .isNull, [a] => .ok (missing a)
  | .choose, [yes, no, condition] => chosen yes no condition
  | .cast target strict, [a] => .ok (castOutcome target strict a)
  | .coalesce, os => firstPresent os
  | .extreme greatest, os => Sql.extreme greatest os
  | .among, [a, items] => Sql.among a items
  | .number f, os => f.eval os
  | .text f, os => .ok (f.eval os)
  | .time f, [a] => .ok (f.eval a)
  | .field name, [a] => fieldOf name a
  | _, _ => .error .wrongType

/-- Whether a function counts as a call; operators, casts, choices and fields do not. -/
def isCall : Function → Bool
  | .arithmetic _ | .compare _ | .same _ | .connect _ | .choose | .cast .. | .field _ => false
  | _ => true

end Function

end FocusBilling.Sql
