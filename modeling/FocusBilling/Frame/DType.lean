import FocusBilling.Rule.Args
import FocusBilling.Time.Calendar

/-!
# Types and cells of columns

* `IntType`, `DType` : the types of columns;
* `Cell` : one value of a column, or a missing one.

Dates are days since 1970 and datetimes ticks of their unit since then, both held as whole
numbers.
-/

namespace FocusBilling

/-- A width of whole numbers. -/
structure IntType where
  /-- Whether there are numbers below zero. -/
  signed : Bool
  /-- The number of bits. -/
  bits : Nat
  deriving DecidableEq

namespace IntType

/-- 8 bits with a sign. -/
def i8 : IntType := ⟨true, 8⟩

/-- 16 bits with a sign. -/
def i16 : IntType := ⟨true, 16⟩

/-- 32 bits with a sign. -/
def i32 : IntType := ⟨true, 32⟩

/-- 64 bits with a sign. -/
def i64 : IntType := ⟨true, 64⟩

/-- 8 bits. -/
def u8 : IntType := ⟨false, 8⟩

/-- 16 bits. -/
def u16 : IntType := ⟨false, 16⟩

/-- 32 bits. -/
def u32 : IntType := ⟨false, 32⟩

/-- 64 bits. -/
def u64 : IntType := ⟨false, 64⟩

/-- The smallest number. -/
def min (t : IntType) : Int := if t.signed then -(2 ^ (t.bits - 1) : Int) else 0

/-- The largest number. -/
def max (t : IntType) : Int :=
  if t.signed then 2 ^ (t.bits - 1) - 1 else 2 ^ t.bits - 1

/-- Whether a number is in range. -/
def fits (t : IntType) (n : Int) : Bool := decide (t.min ≤ n) && decide (n ≤ t.max)

/-- The number in range that differs by a multiple of `2 ^ bits`. -/
def wrap (t : IntType) (n : Int) : Int :=
  if t.signed then Int.bmod n (2 ^ t.bits) else Int.emod n (2 ^ t.bits)

/-- The short name. -/
def name (t : IntType) : String := (if t.signed then "i" else "u") ++ toString t.bits

end IntType

/-- The type of a column. -/
inductive DType where
  /-- Nothing but missing values. -/
  | null
  | bool
  | int (type : IntType)
  | float32
  | float64
  | text
  | date
  | datetime (unit : TimeUnit) (zone : Option String)
  | struct (fields : List (String × DType))
  deriving Inhabited

namespace DType

mutual

/-- Whether two types are the same. -/
def same : DType → DType → Bool
  | .null, .null | .bool, .bool | .float32, .float32 | .float64, .float64 | .text, .text
  | .date, .date => true
  | .int a, .int b => a == b
  | .datetime u z, .datetime u' z' => u == u' && z == z'
  | .struct a, .struct b => sameFields a b
  | _, _ => false

/-- Whether two lists of fields are the same. -/
def sameFields : List (String × DType) → List (String × DType) → Bool
  | [], [] => true
  | (n, a) :: as, (m, b) :: bs => n == m && same a b && sameFields as bs
  | _, _ => false

end

/-- 32 bits with a sign. -/
def i32 : DType := .int .i32

/-- 64 bits with a sign. -/
def i64 : DType := .int .i64

/-- The format of floating-point numbers, for types that hold them. -/
def format? : DType → Option BinaryFormat
  | .float32 => some .single
  | .float64 => some .double
  | _ => none

/-- Whether the type holds numbers. -/
def isNumeric : DType → Bool
  | .int _ | .float32 | .float64 => true
  | _ => false

/-- Whether the type holds dates or datetimes. -/
def isTemporal : DType → Bool
  | .date | .datetime .. => true
  | _ => false

/-- The type that a rule asks for. -/
def ofTarget : TargetType → DType
  | .string => .text
  | .int32 => i32
  | .int64 => i64
  | .float32 => .float32
  | .float64 => .float64
  | .boolean => .bool
  | .date => .date
  | .datetime => .datetime .micro none

end DType

/-- One value of a column. -/
inductive Cell where
  | null
  | bool (value : Bool)
  | int (value : Int)
  | float (value : Binary)
  | text (value : String)
  | struct (fields : List Cell)
  deriving Inhabited

namespace Cell

/-- Whether the value is missing. -/
def isNull : Cell → Bool
  | .null => true
  | _ => false

mutual

/-- Whether two cells hold the same value. -/
def same : Cell → Cell → Bool
  | .null, .null => true
  | .bool a, .bool b => a == b
  | .int a, .int b => a == b
  | .float a, .float b => a == b
  | .text a, .text b => a == b
  | .struct a, .struct b => sameAll a b
  | _, _ => false

/-- Whether two lists of cells hold the same values. -/
def sameAll : List Cell → List Cell → Bool
  | [], [] => true
  | a :: as, b :: bs => same a b && sameAll as bs
  | _, _ => false

end

/-- The cell of a literal. -/
def ofLiteral : Literal → Cell
  | .bool b => .bool b
  | .int n => .int n
  | .float x => .float x
  | .text s => .text s

end Cell

namespace Literal

/-- The type of the column that a literal fills: whole numbers take 32 bits where they fit. -/
def dtype : Literal → DType
  | .bool _ => .bool
  | .int n => if IntType.i32.fits n then .i32 else .i64
  | .float _ => .float64
  | .text _ => .text

end Literal

end FocusBilling
