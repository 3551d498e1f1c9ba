import FocusBilling.Frame.Compare

/-!
# Types that meet

* `Sql.Typing` : what is known of the type of a value: a number that is only written out has no type
  of its own and takes that of a column beside it, as far as it fits;
* `Sql.commonType` : the type that holds the values of two types;
* `Sql.Typing.common` : the type to which two values are brought that meet.
-/

namespace FocusBilling.Sql

/-- What is known of the type of a value. -/
inductive Typing where
  | known (t : DType)
  /-- A whole number that is only written out. -/
  | whole (n : Int)
  /-- Another number that is only written out. -/
  | fraction (x : Binary)

namespace Typing

/-- The type of a value on its own: whole numbers take 32 bits where they fit, else 64. -/
def dtype : Typing → DType
  | known t => t
  | whole n =>
    if IntType.i32.fits n then .i32 else if IntType.u64.fits n && !IntType.i64.fits n then .int .u64
    else .i64
  | fraction _ => .float64

/-- Whether the value is only written out. -/
def isWritten : Typing → Bool
  | known _ => false
  | whole _ | fraction _ => true

end Typing

/-- The type that holds the whole numbers of two types. -/
def commonWhole (a b : IntType) : DType :=
  if a.signed == b.signed then .int (if a.bits < b.bits then b else a)
  else
    let (s, u) := if a.signed then (a, b) else (b, a)
    if u.bits < s.bits then .int s
    else if u.bits ≥ 64 then .float64
    else .int ⟨true, u.bits * 2⟩

/-- The type that holds whole numbers of a type and days. -/
def commonDay (t : IntType) : Option DType :=
  if t = .i32 then some .i32
  else if t.bits < 32 then none
  else some .i64

/-- The type that holds the values of two types. -/
def commonType (a b : DType) : Option DType :=
  if a.same b then some a
  else
    match a, b with
    | .null, t | t, .null => some t
    | .int s, .int u => some (commonWhole s u)
    | .int t, .float32 | .float32, .int t => some (if t.bits ≤ 16 then .float32 else .float64)
    | .int _, .float64 | .float64, .int _ => some .float64
    | .float32, .float64 | .float64, .float32 => some .float64
    | .bool, .int t | .int t, .bool => some (.int t)
    | .bool, .float32 | .float32, .bool => some .float32
    | .bool, .float64 | .float64, .bool => some .float64
    | .text, .struct _ | .struct _, .text => none
    | .text, _ | _, .text => some .text
    | .date, .datetime u z | .datetime u z, .date => some (.datetime u z)
    | .datetime u z, .datetime v y =>
      if z = y then some (.datetime (if u.perSecond ≤ v.perSecond then u else v) z) else none
    | .date, .int t | .int t, .date => commonDay t
    | .datetime .., .int t | .int t, .datetime .. => if t.bits < 32 then none else some .i64
    | .date, .float32 | .float32, .date => some .float32
    | .date, .float64 | .float64, .date | .datetime .., .float32 | .float32, .datetime ..
    | .datetime .., .float64 | .float64, .datetime .. => some .float64
    | _, _ => none

/-- The smallest type that holds a whole number. -/
def smallestFor (likeUnsigned : Bool) (n : Int) : IntType :=
  let types : List IntType := if likeUnsigned && n ≥ 0 then [.u8, .u16, .u32, .u64]
    else [.i8, .i16, .i32, .i64]
  (types.find? fun t => t.fits n).getD .i64

/-- The type that holds the whole numbers of a column and one that is written out. -/
def commonWritten (t : IntType) (n : Int) : DType :=
  if t = .u64 && n < 0 then .i64 else commonWhole t (smallestFor (!t.signed) n)

/-- The type to which two values are brought that meet in an operator or a choice. -/
def Typing.common (a b : Typing) : Option DType :=
  match a, b with
  | .whole n, .known (.int t) | .known (.int t), .whole n => some (commonWritten t n)
  | .whole _, .known .float32 | .known .float32, .whole _
  | .fraction _, .known .float32 | .known .float32, .fraction _ => some .float32
  | a, b => commonType a.dtype b.dtype

end FocusBilling.Sql
