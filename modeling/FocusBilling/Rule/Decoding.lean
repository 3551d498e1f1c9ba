import FocusBilling.Number.Layout
import FocusBilling.Rule.Args
import FocusBilling.Text.Hidden

/-!
# Reading fields out of documents

Typed values from documents, with an error that says what was found and what was expected.

* `DecodeError` : why a document does not have a shape, and `DecodeError.message`;
* `Shape` : the fields of a record; `Shape.slots` finds them in entries or in a sequence;
* `decodeText`, `decodeBool`, `decodeLiteral`, … : the readers of single values.

Entries are looked at in the order of their keys, so of several wrong fields the one with the
smallest key is reported; absent fields are reported after that, in the order of the shape.
-/

namespace FocusBilling

/-- Why a document does not have the expected shape. -/
inductive DecodeError where
  | invalidType (found : Document) (expected : String)
  | invalidValue (found : Document) (expected : String)
  | invalidLength (length : Nat) (expected : String)
  | missingField (name : String)
  | duplicateField (name : String)
  | unknownVariant (name : String) (known : List String)
  | noVariant (choice : String)

namespace DecodeError

/-- What was found, in words. -/
def describe : Document → String
  | .null => "null"
  | .bool b => "boolean `" ++ (if b then "true" else "false") ++ "`"
  | .int n => "integer `" ++ toString n ++ "`"
  | .float x => "floating point `" ++ Layout.document.write .double x ++ "`"
  | .text s => "string " ++ Text.quoted s
  | .list _ => "sequence"
  | .entries _ => "map"

/-- A list of names, each between backticks. -/
def listed : List String → String
  | [] => ""
  | [a] => "`" ++ a ++ "`"
  | a :: rest => "`" ++ a ++ "`, " ++ listed rest

/-- The text of an error. -/
def message : DecodeError → String
  | .invalidType found expected => "invalid type: " ++ describe found ++ ", expected " ++ expected
  | .invalidValue found expected =>
    "invalid value: " ++ describe found ++ ", expected " ++ expected
  | .invalidLength n expected => "invalid length " ++ toString n ++ ", expected " ++ expected
  | .missingField name => "missing field `" ++ name ++ "`"
  | .duplicateField name => "duplicate field `" ++ name ++ "`"
  | .unknownVariant name known =>
    "unknown variant `" ++ name ++ "`, expected one of " ++ listed known
  | .noVariant choice => "data did not match any variant of untagged enum " ++ choice

end DecodeError

/-- A reader of one type out of a document. -/
abbrev Decoder (α : Type) := Document → Except DecodeError α

/-! ### Single values -/

/-- A text. -/
def decodeText : Decoder String
  | .text s => .ok s
  | d => .error (.invalidType d "a string")

/-- A truth value. -/
def decodeBool : Decoder Bool
  | .bool b => .ok b
  | d => .error (.invalidType d "a boolean")

/-- A whole number from zero below `2 ^ 32`. -/
def decodeOrder : Decoder Nat
  | .int n =>
    if 0 ≤ n ∧ n < 2 ^ 32 then .ok n.toNat else .error (.invalidValue (.int n) "u32")
  | d => .error (.invalidType d "u32")

/-- A scalar literal.  A whole number that does not fit 64 bits with a sign becomes a
floating-point number. -/
def decodeLiteral : Decoder Literal
  | .bool b => .ok (.bool b)
  | .int n => if n < 2 ^ 63 then .ok (.int n) else .ok (.float (BinaryFormat.double.ofInt n))
  | .float x => .ok (.float x)
  | .text s => .ok (.text s)
  | _ => .error (.noVariant "StaticValue")

/-- Nothing, or a value. -/
def decodeOption {α : Type} (decode : Decoder α) : Decoder (Option α)
  | .null => .ok none
  | d => (decode d).map some

/-- Every item of a sequence; the first wrong one is reported. -/
def decodeItems {α : Type} (decode : Decoder α) : List Document → Except DecodeError (List α)
  | [] => .ok []
  | d :: rest => do
    let x ← decode d
    let xs ← decodeItems decode rest
    pure (x :: xs)

/-- A sequence. -/
def decodeList {α : Type} (decode : Decoder α) : Decoder (List α)
  | .list xs => decodeItems decode xs
  | d => .error (.invalidType d "a sequence")

/-- One of a closed set of names: a text, or one entry of that name that holds nothing. -/
def decodeChoice {α : Type} (choices : List (String × α)) : Decoder α := fun d =>
  let known := choices.map (·.1)
  let pick (name : String) : Except DecodeError α :=
    match choices.lookup name with
    | some x => .ok x
    | none => .error (.unknownVariant name known)
  match d with
  | .text s => pick s
  | .entries [(name, payload)] => do
    let x ← pick name
    match payload with
    | .null => pure x
    | p => .error (.invalidType p "unit")
  | .entries xs => .error (.invalidValue (.entries xs) "map with a single key")
  | d => .error (.invalidType d "string or map")

/-- The resolution of repeated wall-clock times. -/
def decodeAmbiguous : Decoder AmbiguousTime :=
  decodeChoice (AmbiguousTime.all.map fun a => (a.name, a))

/-- A primitive type. -/
def decodeTargetType : Decoder TargetType := decodeChoice TargetType.spellings

/-! ### Records -/

/-- A field of a record. -/
structure Field where
  /-- The accepted keys; the first is the name of the field. -/
  keys : List String
  /-- Whether the field must be given. -/
  required : Bool
  /-- Whether a document is a value of the field. -/
  check : Decoder Unit

/-- The fields of a record. -/
structure Shape where
  /-- The name of the record. -/
  name : String
  /-- Its fields, in the order of a sequence. -/
  fields : List Field

namespace Field

/-- The name of a field. -/
def label (f : Field) : String := f.keys.headD ""

/-- A field that must be given. -/
def needed {α : Type} (key : String) (decode : Decoder α) : Field :=
  ⟨[key], true, fun d => (decode d).map fun _ => ()⟩

/-- A field that may be left out. -/
def optional {α : Type} (key : String) (decode : Decoder α) : Field :=
  ⟨[key], false, fun d => (decode d).map fun _ => ()⟩

end Field

namespace Shape

variable (shape : Shape)

/-- How the shape is named in messages. -/
def title : String := "struct " ++ shape.name

/-- How the shape and its size are named in messages. -/
def sized : String :=
  let n := shape.fields.length
  shape.title ++ " with " ++ toString n ++ (if n = 1 then " element" else " elements")

/-- Look at entries in order: each one that is a field must be the first of that field and a
value of it. -/
def checkEntries (seen : List String) : List (String × Document) → Except DecodeError Unit
  | [] => .ok ()
  | (key, value) :: rest =>
    match shape.fields.find? fun f => f.keys.contains key with
    | none => checkEntries seen rest
    | some f =>
      if seen.contains f.label then .error (.duplicateField f.label)
      else do
        f.check value
        checkEntries (f.label :: seen) rest

/-- The entry of a field. -/
def entryOf (entries : List (String × Document)) (f : Field) : Option Document :=
  (entries.find? fun e => f.keys.contains e.1).map (·.2)

/-- The first field that must be given and is not. -/
def firstMissing (entries : List (String × Document)) : Option Field :=
  shape.fields.find? fun f => f.required && (entryOf entries f).isNone

/-- Look at the items of a sequence in order of the fields. -/
def checkItems (index : Nat) : List Field → List Document → Except DecodeError Unit
  | [], _ => .ok ()
  | f :: fs, [] =>
    if f.required then .error (.invalidLength index shape.sized)
    else checkItems (index + 1) fs []
  | f :: fs, d :: ds => do
    f.check d
    checkItems (index + 1) fs ds

/-- The value of each field, in the order of the shape; `none` for one left out.  A record may
be given as entries or as a sequence. -/
def slots : Decoder (List (Option Document))
  | .entries entries => do
    shape.checkEntries [] entries
    match shape.firstMissing entries with
    | some f => .error (.missingField f.label)
    | none => pure (shape.fields.map (entryOf entries))
  | .list items => do
    shape.checkItems 0 shape.fields items
    if items.length > shape.fields.length then
      .error (.invalidLength items.length "fewer elements in array")
    else pure ((List.range shape.fields.length).map fun i => items[i]?)
  | d => .error (.invalidType d shape.title)

end Shape

/-- The value in a slot of a field that must be given. -/
def slot {α : Type} (decode : Decoder α) (name : String) (slots : List (Option Document))
    (i : Nat) : Except DecodeError α :=
  match slots[i]?.join with
  | some d => decode d
  | none => .error (.missingField name)

/-- The value in a slot, or what stands for a field left out. -/
def slotOr {α : Type} (decode : Decoder α) (default : α) (slots : List (Option Document))
    (i : Nat) : Except DecodeError α :=
  match slots[i]?.join with
  | some d => decode d
  | none => .ok default

/-! ### Arguments -/

/-- The fields of a zone. -/
def timezoneShape : Shape :=
  ⟨"TimezoneArgs", [.needed "timezone" decodeText, .optional "ambiguous" decodeAmbiguous]⟩

/-- A zone, and what to do with times that occur twice. -/
def decodeTimezoneArgs : Decoder TimezoneArgs := fun d => do
  let s ← timezoneShape.slots d
  pure ⟨← slot decodeText "timezone" s 0, ← slotOr decodeAmbiguous .null s 1⟩

/-- The fields of a datetime reader. -/
def parseDatetimeShape : Shape :=
  ⟨"ParseDatetimeArgs",
    [.optional "format" (decodeOption decodeText), .optional "timezone" (decodeOption decodeText),
      .optional "strict" decodeBool, .optional "ambiguous" decodeAmbiguous]⟩

/-- How texts are read as datetimes. -/
def decodeParseDatetimeArgs : Decoder ParseDatetimeArgs := fun d => do
  let s ← parseDatetimeShape.slots d
  pure ⟨← slotOr (decodeOption decodeText) none s 0, ← slotOr (decodeOption decodeText) none s 1,
    ← slotOr decodeBool false s 2, ← slotOr decodeAmbiguous .null s 3⟩

/-- The one field of a constant. -/
def staticValueShape : Shape :=
  ⟨"StaticValueArgs", [.needed "static_value" decodeLiteral]⟩

/-- A constant. -/
def decodeStaticValue : Decoder Literal := fun d => do
  let s ← staticValueShape.slots d
  slot decodeLiteral "static_value" s 0

/-- The fields of an entry of a mapping. -/
def valueMappingShape : Shape :=
  ⟨"ValueMapping", [.needed "key" decodeLiteral, .needed "value" decodeLiteral]⟩

/-- An entry of a mapping. -/
def decodeValueMapping : Decoder ValueMapping := fun d => do
  let s ← valueMappingShape.slots d
  pure ⟨← slot decodeLiteral "key" s 0, ← slot decodeLiteral "value" s 1⟩

/-- The fields of a mapping. -/
def mapValuesShape : Shape :=
  ⟨"MapValuesArgs",
    [.needed "value_list" (decodeList decodeValueMapping),
      .optional "default_value" (decodeOption decodeLiteral),
      .optional "apply_default_if_null" decodeBool]⟩

/-- A mapping of values. -/
def decodeMapValuesArgs : Decoder MapValuesArgs := fun d => do
  let s ← mapValuesShape.slots d
  pure ⟨← slot (decodeList decodeValueMapping) "value_list" s 0,
    ← slotOr (decodeOption decodeLiteral) none s 1, ← slotOr decodeBool true s 2⟩

/-- The one field of an unnesting. -/
def unnestShape : Shape := ⟨"UnnestArgs", [.optional "field" (decodeOption decodeText)]⟩

/-- The field to extract. -/
def decodeUnnestField : Decoder (Option String) := fun d => do
  let s ← unnestShape.slots d
  slotOr (decodeOption decodeText) none s 0

/-- The one field of a default. -/
def defaultValueShape : Shape :=
  ⟨"DefaultValueArgs", [.needed "default_value" decodeLiteral]⟩

/-- A default. -/
def decodeDefaultValue : Decoder Literal := fun d => do
  let s ← defaultValueShape.slots d
  slot decodeLiteral "default_value" s 0

/-- The one field of a change of type. -/
def setDtypeShape : Shape := ⟨"SetDtypeArgs", [.needed "dtype" decodeTargetType]⟩

/-- The type asked for. -/
def decodeSetDtype : Decoder TargetType := fun d => do
  let s ← setDtypeShape.slots d
  slot decodeTargetType "dtype" s 0

/-- The fields of ordered conditions. -/
def sqlConditionShape : Shape :=
  ⟨"SqlConditionArgs",
    [.needed "conditions" (decodeList decodeText), .needed "default_value" decodeLiteral]⟩

/-- Ordered conditions. -/
def decodeSqlConditionArgs : Decoder SqlConditionArgs := fun d => do
  let s ← sqlConditionShape.slots d
  pure ⟨← slot (decodeList decodeText) "conditions" s 0, ← slot decodeLiteral "default_value" s 1⟩

/-- A query: bare text, or entries with the text under `sql_query`. -/
def decodeSqlQuery : Decoder String
  | .text s => .ok s
  | .entries items =>
    match items.lookup "sql_query" with
    | some (.text s) => .ok s
    | _ => .error (.noVariant "SqlQueryArgs")
  | _ => .error (.noVariant "SqlQueryArgs")

end FocusBilling
