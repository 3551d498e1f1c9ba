import FocusBilling.Sql.Parse

/-!
# Reading the names of types

* `Sql.typeName` : the name of any type, as behind `CAST (… AS`.

Angle brackets may close two at a time: what a reader of types gives tells whether it took one
bracket more than it opened.
-/

namespace FocusBilling.Sql

open Parse

/-- One number in brackets, if an opening bracket follows. -/
def optionalSize : Parse (Option Nat) := do
  if ← sign "(" then
    let n ← wholeNumber
    expectSign ")"
    pure (some n)
  else pure none

/-- One or two numbers in brackets, if an opening bracket follows. -/
def optionalSizes : Parse (Option Nat × Option Nat) := do
  if ← sign "(" then
    let n ← wholeNumber
    let m ← givenThat (sign ",") wholeNumber
    expectSign ")"
    pure (some n, m)
  else pure (none, none)

/-- A length in brackets, which may name its unit or be the greatest. -/
def optionalLength : Parse (Option TextLength) := do
  if ← sign "(" then
    let found ← if ← keyword "MAX" then pure .max
      else do
        let n ← wholeNumber
        pure (.upTo n (← oneOf ["CHARACTERS", "OCTETS"]))
    expectSign ")"
    pure (some found)
  else pure none

/-- Types that stand alone, with the labels of their kinds. -/
def bareTypes : List (String × String) :=
  [("BOOLEAN", "Boolean"), ("BOOL", "Bool"), ("REAL", "Real"), ("FLOAT4", "Float4"),
    ("FLOAT32", "Float32"), ("FLOAT64", "Float64"), ("FLOAT8", "Float8"), ("INT16", "Int16"),
    ("INT32", "Int32"), ("INT64", "Int64"), ("INT128", "Int128"), ("INT256", "Int256"),
    ("UINT8", "UInt8"), ("UINT16", "UInt16"), ("UINT32", "UInt32"), ("UINT64", "UInt64"),
    ("UINT128", "UInt128"), ("UINT256", "UInt256"), ("TINYBLOB", "TinyBlob"),
    ("MEDIUMBLOB", "MediumBlob"), ("LONGBLOB", "LongBlob"), ("UUID", "Uuid"), ("DATE", "Date"),
    ("DATE32", "Date32"), ("INTERVAL", "Interval"), ("JSON", "JSON"), ("JSONB", "JSONB"),
    ("REGCLASS", "Regclass"), ("TEXT", "Text"), ("TINYTEXT", "TinyText"),
    ("MEDIUMTEXT", "MediumText"), ("LONGTEXT", "LongText"), ("BYTEA", "Bytea"),
    ("TRIGGER", "Trigger")]

/-- Types that one number in brackets may follow, and `UNSIGNED` after it. -/
def wholeTypes : List (String × String) :=
  [("TINYINT", "TinyInt"), ("INT2", "Int2"), ("SMALLINT", "SmallInt"), ("MEDIUMINT", "MediumInt"),
    ("INT", "Int"), ("INT4", "Int4"), ("INT8", "Int8"), ("INTEGER", "Integer"),
    ("BIGINT", "BigInt")]

/-- Types that one number in brackets may follow. -/
def sizedTypes : List (String × String) :=
  [("FLOAT", "Float"), ("CLOB", "Clob"), ("BINARY", "Binary"), ("VARBINARY", "Varbinary"),
    ("BLOB", "Blob"), ("BYTES", "Bytes"), ("DATETIME", "Datetime"), ("STRING", "String")]

/-- Types that a length in brackets may follow. -/
def lengthTypes : List (String × String) := [("VARCHAR", "Varchar"), ("NVARCHAR", "Nvarchar")]

/-- Types that two numbers in brackets may follow. -/
def exactTypes : List (String × String) :=
  [("NUMERIC", "Numeric"), ("DECIMAL", "Decimal"), ("DEC", "Dec"), ("BIGNUMERIC", "BigNumeric"),
    ("BIGDECIMAL", "BigDecimal")]

/-- `WITH TIME ZONE` or `WITHOUT TIME ZONE`, if it follows. -/
def optionalZone : Parse ZoneMark := do
  if ← keyword "WITH" then
    expectKeywords ["TIME", "ZONE"]
    pure .withZone
  else if ← keyword "WITHOUT" then
    expectKeywords ["TIME", "ZONE"]
    pure .withoutZone
  else pure .unsaid

/-- Words, numbers and texts in brackets behind the name of a type; commas between them are not
needed. -/
def optionalModifiers : Parse (List String) := do
  if ← sign "(" then
    let found ← whileSome do
      match ← next with
      | .word s _ | .number s _ | .text .plain s => pure (some (some s))
      | .sign s =>
        if s = "," then pure (some none) else if s = ")" then pure none else fail
      | _ => fail
    pure (found.filterMap id)
  else pure []

/-- Texts in brackets. -/
def listedTexts : Parse (List String) := inBrackets do
  let one : Parse String := do
    match ← next with
    | .text .plain s => pure s
    | _ => fail
  let first ← one
  pure (first :: (← whileSome (givenThat (sign ",") one)))

/-- Names and numbers of an enumeration, in brackets. -/
def enumeration : Parse (List String) := inBrackets <| commaSeparated do
  let name ← literalText
  if ← sign "=" then
    let _ ← sign "-"
    match ← next with
    | .number .. => pure name
    | _ => fail
  else pure name

/-- A closing angle bracket, unless a double one has closed already; whether it closes one more. -/
def closingAngle (closed : Bool) : Parse Bool := do
  if closed then pure false
  else if ← sign ">" then pure false
  else if ← sign ">>" then pure true
  else fail

/-- A known type behind its keyword; `typeOf` reads the types inside. -/
def knownType (typeOf : Parse (TypeName × Bool)) (k : String) :
    Parse (Option (TypeName × Bool)) := do
  let whole (p : Parse TypeName) : Parse (Option (TypeName × Bool)) := do
    pure (some (← p, false))
  let inside : Parse TypeName := do
    let (t, closed) ← typeOf
    if closed then fail else pure t
  let field : Parse (Option Name × TypeName × Bool) := do
    let name ← match ← peekAt 0, ← peekAt 1 with
      | some (.word ..), some (.word ..) => do pure (some (← identifier))
      | _, _ => pure none
    let (t, closed) ← typeOf
    pure (name, t, closed)
  match bareTypes.lookup k, wholeTypes.lookup k, sizedTypes.lookup k, lengthTypes.lookup k,
      exactTypes.lookup k with
  | some l, _, _, _, _ => pure (some (.plain l, false))
  | _, some l, _, _, _ => whole do
    let size ← optionalSize
    if ← keyword "UNSIGNED" then pure (.sized ("Unsigned" ++ l) size) else pure (.sized l size)
  | _, _, some l, _, _ => whole do pure (.sized l (← optionalSize))
  | _, _, _, some l, _ => whole do pure (.ofLength l (← optionalLength))
  | _, _, _, _, some l => whole do
    let (p, s) ← optionalSizes
    pure (.exact l p s)
  | _, _, _, _, _ =>
    match k with
    | "DOUBLE" => whole do
      pure (.plain (if ← keyword "PRECISION" then "DoublePrecision" else "Double"))
    | "CHAR" | "CHARACTER" => whole do
      let l := if k = "CHAR" then "Char" else "Character"
      if ← keyword "VARYING" then pure (.ofLength (l ++ "Varying") (← optionalLength))
      else if ← keywords ["LARGE", "OBJECT"] then
        pure (.sized (l ++ "LargeObject") (← optionalSize))
      else pure (.ofLength l (← optionalLength))
    | "BIT" => whole do
      if ← keyword "VARYING" then pure (.sized "BitVarying" (← optionalSize))
      else pure (.sized "Bit" (← optionalSize))
    | "TIMESTAMP" | "TIME" => whole do
      let size ← optionalSize
      pure (.clock (if k = "TIME" then "Time" else "Timestamp") size (← optionalZone))
    | "TIMESTAMPTZ" => whole do pure (.clock "Timestamp" (← optionalSize) .short)
    | "TIMETZ" => whole do pure (.clock "Time" (← optionalSize) .short)
    | "DATETIME64" => whole do
      expectSign "("
      let size ← wholeNumber
      let _ ← givenThat (sign ",") literalText
      expectSign ")"
      pure (.sized "Datetime64" (some size))
    | "FIXEDSTRING" => whole do pure (.sized "FixedString" (some (← inBrackets wholeNumber)))
    | "ENUM" | "ENUM8" | "ENUM16" => whole do pure (.listed "Enum" (← enumeration))
    | "SET" => whole do pure (.listed "Set" (← listedTexts))
    | "ARRAY" => do
      expectSign "<"
      let (t, closed) ← typeOf
      pure (some (.arrayOf t, ← closingAngle closed))
    | "STRUCT" => do
      if ← sign "<" then
        let first ← field
        let fields ← iterate (fun (fs : List (Option Name × TypeName × Bool)) => do
          if fs.any (·.2.2) then pure none
          else if ← sign "," then pure (some (fs ++ [← field]))
          else pure none) [first]
        let closed ← closingAngle (fields.any (·.2.2))
        pure (some (.fields "Struct" (fields.map (·.1)) (fields.map (·.2.1)), closed))
      else pure (some (.fields "Struct" [] [], false))
    | "UNION" => whole <| inBrackets do
      let fields ← commaSeparated do
        let n ← identifier
        pure (n, ← inside)
      pure (.fields "Union" (fields.map fun f => some f.1) (fields.map (·.2)))
    | "NULLABLE" => whole do pure (.around "Nullable" [← inBrackets inside])
    | "LOWCARDINALITY" => whole do pure (.around "LowCardinality" [← inBrackets inside])
    | "MAP" => whole <| inBrackets do
      let a ← inside
      expectSign ","
      pure (.around "Map" [a, ← inside])
    | "NESTED" => whole <| inBrackets do
      let fields ← commaSeparated do
        let n ← identifier
        pure (n, ← inside)
      pure (.fields "Nested" (fields.map fun f => some f.1) (fields.map (·.2)))
    | "TUPLE" => whole <| inBrackets do
      let first ← field
      let others ← whileSome (givenThat (sign ",") field)
      let fields := first :: others
      pure (.fields "Tuple" (fields.map (·.1)) (fields.map (·.2.1)))
    | _ => pure none

/-- The name of a type, with array brackets behind it, nested at most so deep; and whether it took
one closing bracket too many. -/
def typeFrom : Nat → Parse (TypeName × Bool)
  | 0 => fail
  | n + 1 => do
    let ts ← rest
    let known ← match ← peek with
      | some t@(.word _ _) => do
        match t.keyword? with
        | some k => do
          let _ ← next
          knownType (typeFrom n) k
        | none => pure none
      | _ => fail
    let (base, closed) ← match known with
      | some found => pure found
      | none => do
        goTo ts
        let name ← objectName
        pure (.custom name (← optionalModifiers), false)
    let whole ← iterate (fun (t : TypeName) => do
      if ← sign "[" then
        let size ← attempt wholeNumber
        expectSign "]"
        pure (some (.array t size))
      else pure none) base
    pure (whole, closed)

/-- The name of a type, and whether it took one closing bracket too many. -/
def typeWithin : Parse (TypeName × Bool) := do typeFrom ((← rest).length + 1)

/-- The name of any type. -/
def typeName : Parse TypeName := do
  let (t, closed) ← typeWithin
  if closed then fail else pure t

end FocusBilling.Sql
