import FocusBilling.Frame.Compare
import FocusBilling.Frame.Datetime

/-!
# Operations on cells

What expressions compute from the cells of one row.

* `Operation` : the operations, from casts to the reading of datetimes;
* `Operation.result` : the type of an operation on arguments of given types;
* `Operation.obstacle` : what keeps it from columns of these types;
* `Operation.run` : the operation on one row.

A missing argument makes the result missing, except where it is said otherwise.
-/

namespace FocusBilling

/-- An operation on the cells of a row. -/
inductive Operation where
  /-- Another type; a strict one fails where a value has no counterpart. -/
  | cast (target : DType) (strict : Bool)
  | compare (c : Comparison)
  /-- Whether the value is missing. -/
  | isNull
  /-- The second where the first is true, else the third. -/
  | choose
  /-- A field of a struct. -/
  | field (name : String)
  /-- Wall-clock times become instants of a zone. -/
  | assignZone (zone : String) (ambiguous : AmbiguousTime)
  /-- Instants are shown in a zone. -/
  | convertZone (zone : String)
  | readDatetime (pattern : DatetimePattern)

namespace Operation

/-! ### Types -/

/-- Whether a type is `t`, or that of a column without values. -/
def fits (t : DType) (a : DType) : Bool := a.same t || a.same .null

/-- A type, if the arguments fit another. -/
def want (ok : Bool) (t : DType) : Except FrameError DType :=
  if ok then .ok t else .error .wrongType

/-- The common type of two branches, one of which may have no values. -/
def branch (a b : DType) : Except FrameError DType :=
  if a.same b || b.same .null then .ok a
  else if a.same .null then .ok b
  else .error .wrongType

/-- The type of an operation on arguments of given types. -/
def result : Operation → List DType → Except FrameError DType
  | .cast target _, [_] => .ok target
  | .compare _, [a, b] => want (a.same b || a.same .null || b.same .null) .bool
  | .isNull, [_] => .ok .bool
  | .choose, [c, a, b] => if fits .bool c then branch a b else .error .wrongType
  | .field name, [.struct fs] =>
    match fs.lookup name with
    | some t => .ok t
    | none => .error .wrongType
  | .assignZone zone _, [.datetime u _] | .convertZone zone, [.datetime u _] =>
    .ok (.datetime u (some zone))
  | .readDatetime p, [_] => .ok p.dtype
  | _, _ => .error .wrongType

/-! ### Columns -/

/-- What keeps an operation from columns of given types, whatever their cells are; it is found only
when the cells are asked for. -/
def obstacle : Operation → List DType → Except FrameError Unit
  | .readDatetime p, [.text] =>
    if DatetimePattern.isIncomplete p.text.toList then .error .badFormat else .ok ()
  | .readDatetime _, _ => .error .wrongType
  | _, _ => .ok ()

/-! ### Rows -/

/-- The cell of a field. -/
def fieldOf (name : String) : List (String × DType) → List Cell → Cell
  | (n, _) :: fs, c :: cs => if n = name then c else fieldOf name fs cs
  | _, _ => .null

/-- A cell out of an instant, which may be missing. -/
def instantCell : Option Int → Cell
  | some t => .int t
  | none => .null

/-- A wall-clock time, or an instant read as the wall-clock time of its zone, as an instant of
another zone. -/
def assigned (zone : String) (ambiguous : AmbiguousTime) (u : TimeUnit) (old : Option String)
    (ticks : Int) : Except FrameError Cell := do
  let wall := match old with
    | some z => (Zone.named z).wall u ticks
    | none => ticks
  pure (instantCell (← (Zone.named zone).label ambiguous false u wall))

/-- The operation on one row. -/
def run : Operation → List DType → List Cell → Except FrameError Cell
  | .cast target strict, [t], [c] => c.castTo t target strict
  | .compare c, _, [a, b] => .ok (Cell.compare c a b)
  | .isNull, _, [c] => .ok (.bool c.isNull)
  | .choose, _, [c, a, b] => .ok (if c.isTrue then a else b)
  | .field name, [.struct fs], [.struct cs] => .ok (fieldOf name fs cs)
  | .assignZone zone ambiguous, [.datetime u old], [.int t] => assigned zone ambiguous u old t
  | .convertZone _, _, [c] => .ok c
  | .readDatetime p, _, [.text s] => (p.read s).map instantCell
  | _, _, _ => .ok .null

end Operation

end FocusBilling
