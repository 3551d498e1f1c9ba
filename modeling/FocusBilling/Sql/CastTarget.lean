import FocusBilling.Frame.DType
import FocusBilling.Sql.TypeName
import FocusBilling.Text.Case

/-!
# The types that casts ask for

* `Sql.TypeName.dtype?` : the type of a column that a name of a type stands for.
-/

namespace FocusBilling.Sql

/-- The unit of time for a number of decimal places; without any it is the microsecond. -/
def unitOf? : Option Nat → Option TimeUnit
  | none => some .micro
  | some n =>
    if n = 0 || n > 9 then none
    else some (if n ≤ 3 then .milli else if n ≤ 6 then .micro else .nano)

/-- Types that stand alone. -/
def plainType? : String → Option DType
  | "Boolean" | "Bool" => some .bool
  | "Int16" => some (.int .i16)
  | "Int32" => some .i32
  | "Int64" => some .i64
  | "UInt16" => some (.int .u16)
  | "UInt32" => some (.int .u32)
  | "UInt8" | "UInt64" => some (.int .u64)
  | "Real" | "Float4" | "Float32" => some .float32
  | "Double" | "DoublePrecision" | "Float8" | "Float64" => some .float64
  | "Text" | "Uuid" => some .text
  | "Date" => some .date
  | _ => none

/-- Types whose size means nothing. -/
def wholeType? : String → Option DType
  | "TinyInt" => some (.int .i8)
  | "Int2" | "SmallInt" => some (.int .i16)
  | "Int" | "Int4" | "Integer" | "MediumInt" => some .i32
  | "Int8" | "BigInt" => some .i64
  | "UnsignedTinyInt" => some (.int .u8)
  | "UnsignedInt2" | "UnsignedSmallInt" => some (.int .u16)
  | "UnsignedInt" | "UnsignedInt4" | "UnsignedInteger" | "UnsignedMediumInt" => some (.int .u32)
  | "UnsignedInt8" | "UnsignedBigInt" => some (.int .u64)
  | "Clob" | "String" => some .text
  | _ => none

/-- Types of floating-point numbers with so many bits. -/
def floatOf? : Option Nat → Option DType
  | none => some .float64
  | some n =>
    if n = 0 || n > 53 then none else some (if n ≤ 24 then .float32 else .float64)

/-- Types by other names. -/
def customType? : String → Option DType
  | "int1" => some (.int .i8)
  | "uint1" | "utinyint" => some (.int .u8)
  | "uint2" | "usmallint" => some (.int .u16)
  | "uint4" | "uinteger" | "uint" => some (.int .u32)
  | "uint8" | "ubigint" => some (.int .u64)
  | _ => none

/-- The type of a column that a name of a type stands for. -/
def TypeName.dtype? : TypeName → Option DType
  | .plain label => plainType? label
  | .sized "Float" size => floatOf? size
  | .sized "Datetime" size => (unitOf? size).map fun u => .datetime u none
  | .sized label _ => wholeType? label
  | .ofLength label _ => if label = "Nvarchar" then none else some .text
  | .clock "Timestamp" size .unsaid => (unitOf? size).map fun u => .datetime u none
  | .custom [name] _ => customType? (Text.toLower name.text)
  | _ => none

end FocusBilling.Sql
