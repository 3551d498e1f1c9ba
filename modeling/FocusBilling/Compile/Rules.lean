import FocusBilling.Compile.Assignment
import FocusBilling.Compile.Error
import FocusBilling.Compile.SqlStep
import FocusBilling.Rule
import FocusBilling.Time.ZoneName

/-!
# Compiling rules

One compiler for each kind of rule.  A compiler looks at the rule alone, never at data, and fails
where the arguments of the rule are not those of its kind.

* `Compile.rename`, `Compile.mapValues` and so on : the compilers.
-/

namespace FocusBilling.Compile

/-- What a compiler makes of a rule and of the column that it writes. -/
abbrev Compiler (α : Type) := Rule → String → Except CompileError α

/-- A rule whose arguments cannot be compiled. -/
def invalid {α : Type} (r : Rule) (fault : ArgsFault) : Except CompileError α :=
  .error (.invalidArgs r.planName fault)

/-- A rule whose arguments belong to another kind. -/
def mismatched {α : Type} (r : Rule) : Except CompileError α := invalid r (.mismatched r.kind)

/-- The column that a rule reads. -/
def source (r : Rule) : Except CompileError String :=
  match r.sourceColumn with
  | some s => .ok s
  | none => invalid r .sourceRequired

/-- A zone of a rule; blanks around its name are ignored. -/
def zone (r : Rule) (name : String) : Except CompileError String :=
  let trimmed := Text.trim name
  if ZoneName.isKnown trimmed then .ok trimmed else invalid r (.unknownTimezone name)

/-! ### Columns -/

/-- The source column under another name. -/
def rename : Compiler Assignment := fun r output => do
  pure (.column output (.column (← source r)))

/-- A constant for every row. -/
def staticValue : Compiler Assignment := fun r output =>
  match r.args with
  | .staticValue value => .ok (.column output (.literal value))
  | _ => mismatched r

/-- A text for every row. -/
def textScalar (s : String) : Scalar := .constant (.text s) .text

/-- What a mapping makes of a text: each key is tested in turn, and what matches none, or is
missing, falls back to the default. -/
def mappedScalar (args : MapValuesArgs) (text : Scalar) : Scalar :=
  let default := match args.default with
    | some value => textScalar value.key
    | none => .noText
  let fallback := if args.defaultForNull then default
    else .apply .choose [.apply .isNull [text], .noText, default]
  args.valueList.foldr (fun m otherwise =>
    .apply .choose
      [.apply (.compare .eq) [text, textScalar m.key.key], textScalar m.value.key, otherwise])
    fallback

/-- The source column looked up in a list of keys, by the texts of its values. -/
def mapValues : Compiler Assignment := fun r output =>
  match r.args with
  | .mapValues args => do
    pure (.column output (mappedScalar args (.apply (.cast .text false) [.column (← source r)])))
  | _ => mismatched r

/-- One field of a struct, or every field in a column of its own. -/
def unnest : Compiler Assignment := fun r output =>
  match r.args with
  | .unnest field => do
    let s ← source r
    pure (match field with
      | some name => .field output s name
      | none => .expanded output s)
  | _ => mismatched r

/-- The source column, or a constant where it is missing. -/
def defaultIfMissing : Compiler Assignment := fun r output =>
  match r.args with
  | .defaultValue value => do pure (.defaultIfMissing output (← source r) value)
  | _ => mismatched r

/-- The source column in another type; a value without a counterpart there is missing. -/
def setDtype : Compiler Assignment := fun r output =>
  match r.args with
  | .setDtype t => do
    pure (.column output (.apply (.cast (.ofTarget t) false) [.column (← source r)]))
  | _ => mismatched r

/-! ### Datetimes -/

/-- The source column as wall-clock times of a zone. -/
def assigned (r : Rule) (output name : String) (ambiguous : AmbiguousTime) :
    Except CompileError Assignment := do
  let z ← zone r name
  pure (.column output (.apply (.assignZone z ambiguous) [.column (← source r)]))

/-- The source column as wall-clock times of a zone. -/
def assignTimezone : Compiler Assignment := fun r output =>
  match r.args with
  | .timezone args => assigned r output args.timezone args.ambiguous
  | _ => mismatched r

/-- The source column as wall-clock times of UTC. -/
def assignUtc : Compiler Assignment := fun r output => assigned r output "UTC" .null

/-- The instants of the source column, shown in a zone. -/
def convertTimezone : Compiler Assignment := fun r output =>
  match r.args with
  | .timezone args => do
    let z ← zone r args.timezone
    pure (.column output (.apply (.convertZone z) [.column (← source r)]))
  | _ => mismatched r

/-- The texts of the source column as datetimes. -/
def parseDatetime : Compiler Assignment := fun r output =>
  match r.args with
  | .parseDatetime args => do
    let z ← args.timezone.mapM (zone r)
    let text := Scalar.column (← source r)
    pure (.column output (match args.format with
      | some format =>
        .apply (.readDatetime ⟨format, z, args.ambiguous, args.strict⟩) [text]
      | none => .inferred ⟨z, args.ambiguous, args.strict⟩ text))
  | _ => mismatched r

/-! ### SQL -/

/-- A column filled by the first clause that applies. -/
def sqlCondition : Compiler SqlStep := fun r output =>
  match r.args with
  | .sqlCondition args =>
    .ok (.condition output (args.conditions.map Text.trim) args.default.sql)
  | _ => mismatched r

/-- A query, run as it is written. -/
def sqlQuery : Compiler SqlStep := fun r _ =>
  match r.args with
  | .sqlQuery text => .ok (.query (Text.trim text))
  | _ => mismatched r

end FocusBilling.Compile
