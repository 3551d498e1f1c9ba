import FocusBilling.Document
import FocusBilling.Frame.Table
import FocusBilling.Number.Decimal
import FocusBilling.Number.Layout

/-!
# Tables as documents

* `DType.document`, `DType.ofDocument` : the type of a column;
* `Cell.document`, `Cell.ofDocument` : a cell of a type; numbers with a point are texts, so that
  infinities and all digits have their place;
* `Frame.document`, `Frame.ofDocument` : a table with its columns in order.
-/

namespace FocusBilling

namespace DType

mutual

/-- A type as a document. -/
def document : DType → Document
  | .null => .text "null"
  | .bool => .text "bool"
  | .int t => .text t.name
  | .float32 => .text "f32"
  | .float64 => .text "f64"
  | .text => .text "str"
  | .date => .text "date"
  | .datetime u none => .text ("datetime[" ++ u.name ++ "]")
  | .datetime u (some z) => .text ("datetime[" ++ u.name ++ "," ++ z ++ "]")
  | .struct fs => .entries [("struct", .list (fieldDocuments fs))]

/-- Fields as documents, each with its name. -/
def fieldDocuments : List (String × DType) → List Document
  | [] => []
  | (name, t) :: fs => .list [.text name, document t] :: fieldDocuments fs

end

/-- The types of whole numbers. -/
def intTypes : List IntType := [.i8, .i16, .i32, .i64, .u8, .u16, .u32, .u64]

/-- The unit of a name. -/
def unitNamed (s : String) : TimeUnit :=
  if s = TimeUnit.milli.name then .milli else if s = TimeUnit.nano.name then .nano else .micro

/-- The type of datetimes whose unit and zone stand between brackets. -/
def ofBrackets (cs : List Char) : DType :=
  let unit := unitNamed (String.ofList (cs.takeWhile (· ≠ ',')))
  match cs.dropWhile (· ≠ ',') with
  | _ :: zone => .datetime unit (some (String.ofList zone))
  | [] => .datetime unit none

/-- The type of a name; a name that is not known is that of missing values. -/
def ofName (s : String) : DType :=
  match intTypes.find? fun t => t.name = s with
  | some t => .int t
  | none =>
    match s with
    | "bool" => .bool
    | "f32" => .float32
    | "f64" => .float64
    | "str" => .text
    | "date" => .date
    | _ =>
      let start := "datetime[".toList
      if start.isPrefixOf s.toList then ofBrackets (s.toList.drop start.length).dropLast else .null

mutual

/-- The type that a document tells. -/
def ofDocument : Document → DType
  | .text s => ofName s
  | .entries [(_, .list fs)] => .struct (ofFields fs)
  | _ => .null

/-- Fields with their names. -/
def ofFields : List Document → List (String × DType)
  | .list [.text name, t] :: fs => (name, ofDocument t) :: ofFields fs
  | _ => []

end

end DType

namespace Cell

mutual

/-- A cell of a type as a document. -/
def document : DType → Cell → Document
  | _, .null => .null
  | _, .bool b => .bool b
  | _, .int n => .int n
  | t, .float x => .text (Layout.exact.write (t.format?.getD .double) x)
  | _, .text s => .text s
  | .struct fs, .struct cs => .list (documents fs cs)
  | _, .struct _ => .null

/-- The cells of fields as documents. -/
def documents : List (String × DType) → List Cell → List Document
  | (_, t) :: fs, c :: cs => document t c :: documents fs cs
  | _, _ => []

end

/-- A floating-point number: a number, or its text. -/
def floatOf (format : BinaryFormat) : Document → Cell
  | .int n => .float (format.ofInt n)
  | .float x => .float (x.toFormat format)
  | .text "NaN" => .float .nan
  | .text "inf" => .float (.infinite false)
  | .text "-inf" => .float (.infinite true)
  | .text s =>
    match Decimal.binary? format s.toList with
    | some x => .float x
    | none => .null
  | _ => .null

mutual

/-- The cell of a type that a document tells. -/
def ofDocument : DType → Document → Cell
  | .float32, d => floatOf .single d
  | .float64, d => floatOf .double d
  | .struct fs, .list ds => .struct (ofDocuments fs ds)
  | _, .bool b => .bool b
  | _, .int n => .int n
  | _, .text s => .text s
  | _, _ => .null

/-- The cells of fields. -/
def ofDocuments : List (String × DType) → List Document → List Cell
  | (_, t) :: fs, d :: ds => ofDocument t d :: ofDocuments fs ds
  | _, _ => []

end

end Cell

namespace Column

/-- A column as a document. -/
def document (c : Column) : Document :=
  .ofEntries [("name", .text c.name), ("dtype", c.dtype.document),
    ("values", .list (c.cells.map (Cell.document c.dtype)))]

/-- The items of a sequence. -/
def items : Option Document → List Document
  | some (.list ds) => ds
  | _ => []

/-- The column that a document tells. -/
def ofDocument (d : Document) : Column :=
  let dtype := DType.ofDocument ((d.get? "dtype").getD .null)
  ⟨match d.get? "name" with
    | some (.text s) => s
    | _ => "", dtype, (items (d.get? "values")).map (Cell.ofDocument dtype)⟩

end Column

namespace Frame

/-- A table of columns of one length. -/
def ofColumns (columns : List Column) : Frame :=
  ⟨((columns.head?).map (·.cells.length)).getD 0, columns⟩

/-- A table as a document. -/
def document (f : Frame) : Document :=
  .ofEntries [("height", .int f.height), ("columns", .list (f.columns.map Column.document))]

/-- The table that a document tells. -/
def ofDocument (d : Document) : Frame :=
  ofColumns ((Column.items (d.get? "columns")).map Column.ofDocument)

end Frame

end FocusBilling
