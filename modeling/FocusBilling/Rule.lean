import FocusBilling.Rule.Decoding
import FocusBilling.Rule.FocusColumn
import FocusBilling.Rule.Kind

/-!
# Conversion rules

* `RuleDraft` : a rule as its document gives it, with every field optional;
* `Rule` : a rule all of whose fields are known to be good;
* `RuleDraft.validate` : the rule of a draft, or every problem of it at once;
* `Rule.output`, `Rule.isTemporary` : the column a rule writes, and whether it is dropped.
-/

namespace FocusBilling

/-- A rule as its document gives it. -/
structure RuleDraft where
  /-- Name of the rule. -/
  planName : Option String := none
  /-- Column of the FOCUS schema it contributes to. -/
  focusColumn : Option String := none
  /-- Column of the input that it reads. -/
  sourceColumn : Option String := none
  /-- Kind of the rule. -/
  conversionType : Option String := none
  /-- What the kind is told. -/
  conversionArgs : Option Document := none
  /-- Marks the column it writes as an intermediate. -/
  columnPrefix : Option String := none
  /-- First part of the order. -/
  dimensionId : Option Nat := none
  /-- Second part of the order. -/
  priority : Option Nat := none

/-- A rule all of whose fields are good. -/
structure Rule where
  /-- Name of the rule. -/
  planName : String
  /-- Column of the FOCUS schema it contributes to. -/
  focusColumn : FocusColumn
  /-- Column of the input that it reads, without blanks around it. -/
  sourceColumn : Option String
  /-- Kind of the rule. -/
  kind : RuleKind
  /-- What the kind is told. -/
  args : RuleArgs
  /-- Marks the column it writes as an intermediate. -/
  columnPrefix : Option String
  /-- First part of the order. -/
  dimensionId : Nat
  /-- Second part of the order. -/
  priority : Nat

namespace Rule

/-- The column that the rule writes: the FOCUS column, behind the prefix of an intermediate. -/
def output (r : Rule) : String :=
  match r.columnPrefix with
  | some p => p ++ "_" ++ r.focusColumn.name
  | none => r.focusColumn.name

/-- Whether the column that the rule writes is dropped before export. -/
def isTemporary (r : Rule) : Bool := r.columnPrefix.isSome

end Rule

/-- The fields of a rule document. -/
inductive RuleField where
  | focusColumn
  | conversionType
  | column
  | conversionArgs
  deriving DecidableEq

namespace RuleField

/-- The key of a field in a rule document. -/
def key : RuleField → String
  | .focusColumn => "focus_column"
  | .conversionType => "conversion_type"
  | .column => "column"
  | .conversionArgs => "conversion_args"

end RuleField

/-- What is wrong with a field of a rule document. -/
inductive RuleFault where
  | required
  | unknownFocusColumn (name : String)
  | unknownKind (name : String)
  | requiredFor (kind : RuleKind)
  | undecodable (error : DecodeError)
  | emptyTimezone
  | emptyValueList
  | emptyConditions
  | notWhenClause (clause : String)
  | emptyQuery

namespace RuleFault

/-- The text of a fault. -/
def message : RuleFault → String
  | .required => "field required"
  | .unknownFocusColumn name => FocusColumn.unknownMessage name
  | .unknownKind name => RuleKind.unknownMessage name
  | .requiredFor kind => "field required for " ++ kind.name
  | .undecodable e => e.message
  | .emptyTimezone => "timezone is empty"
  | .emptyValueList => "value_list is empty"
  | .emptyConditions => "conditions is empty"
  | .notWhenClause clause => "condition must be a WHEN ... THEN ... clause: " ++ clause
  | .emptyQuery => "sql query is empty"

end RuleFault

/-- A problem of a rule document, and the field it lies in. -/
structure RuleIssue where
  /-- The field. -/
  field : RuleField
  /-- What is wrong with it. -/
  fault : RuleFault

namespace RuleIssue

/-- A problem in one line. -/
def text (i : RuleIssue) : String := i.field.key ++ ": " ++ i.fault.message

end RuleIssue

/-- Why a draft is no rule. -/
structure InvalidRule where
  /-- Name of the rule. -/
  planName : String
  /-- Every problem, in the order of the fields. -/
  issues : List RuleIssue

namespace InvalidRule

/-- The texts of all problems after the name of the rule. -/
def message (e : InvalidRule) : String :=
  "invalid conversion rule '" ++ e.planName ++ "': " ++
    String.intercalate "; " (e.issues.map RuleIssue.text)

end InvalidRule

namespace RuleDraft

/-! ### Documents -/

/-- The fields of a rule document. -/
def shape : Shape :=
  ⟨"RawRule",
    [.optional "plan_name" (decodeOption decodeText),
      .optional "focus_column" (decodeOption decodeText),
      ⟨["column", "source_column"], false,
        fun d => (decodeOption decodeText d).map fun _ => ()⟩,
      .optional "conversion_type" (decodeOption decodeText),
      .optional "conversion_args" (decodeOption Except.ok),
      .optional "column_prefix" (decodeOption decodeText),
      .optional "dimension_id" (decodeOption decodeOrder),
      .optional "priority" (decodeOption decodeOrder)]⟩

/-- The draft in a document. -/
def decode : Decoder RuleDraft := fun d => do
  let s ← shape.slots d
  let text := slotOr (decodeOption decodeText) none s
  let order := slotOr (decodeOption decodeOrder) none s
  pure ⟨← text 0, ← text 1, ← text 2, ← text 3, ← slotOr (decodeOption .ok) none s 4, ← text 5,
    ← order 6, ← order 7⟩

/-! ### Validation -/

/-- A given text without blanks around it, if anything is left. -/
def filled (s : Option String) : Option String :=
  (s.map Text.trim).filter fun t => !t.isEmpty

/-- The named FOCUS column. -/
def checkFocusColumn : Option String → Except RuleIssue FocusColumn
  | none => .error ⟨.focusColumn, .required⟩
  | some name =>
    match FocusColumn.ofName? name with
    | some c => .ok c
    | none => .error ⟨.focusColumn, .unknownFocusColumn name⟩

/-- The named kind. -/
def checkKind : Option String → Except RuleIssue RuleKind
  | none => .error ⟨.conversionType, .required⟩
  | some name =>
    match RuleKind.ofName? name with
    | some k => .ok k
    | none => .error ⟨.conversionType, .unknownKind name⟩

/-- Whether a clause starts with `WHEN ` and holds ` THEN `, in any case. -/
def isWhenClause (clause : String) : Bool :=
  let up := (Text.trimLeft clause.toList).map Char.toUpper
  "WHEN ".toList.isPrefixOf up && Text.hasInfix " THEN ".toList up

/-- A value of the arguments that must be given. -/
def given {α : Type} (decode : Decoder α) (raw : Option Document) : Except RuleFault α :=
  match raw.filter fun d => !d.isNull with
  | none => .error .required
  | some d => (decode d).mapError .undecodable

/-- A value of the arguments that may be left out. -/
def givenOr {α : Type} (default : α) (decode : Decoder α) (raw : Option Document) :
    Except RuleFault α :=
  match raw with
  | none | some .null => .ok default
  | some d => (decode d).mapError .undecodable

/-- The arguments of a kind. -/
def argsOf (kind : RuleKind) (raw : Option Document) : Except RuleFault RuleArgs :=
  match kind with
  | .renameColumn | .assignUtcTimezone => .ok .none
  | .assignTimezone | .convertTimezone => do
    let args ← given decodeTimezoneArgs raw
    if Text.isBlankText args.timezone then .error .emptyTimezone else pure (.timezone args)
  | .parseDatetime => do
    let args ← givenOr {} decodeParseDatetimeArgs raw
    pure (.parseDatetime args)
  | .staticValue => do
    let value ← given decodeStaticValue raw
    pure (.staticValue value)
  | .mapValues => do
    let args ← given decodeMapValuesArgs raw
    if args.valueList.isEmpty then .error .emptyValueList else pure (.mapValues args)
  | .unnest => do
    let field ← givenOr none decodeUnnestField raw
    pure (.unnest field)
  | .applyDefaultIfColumnMissing => do
    let value ← given decodeDefaultValue raw
    pure (.defaultValue value)
  | .setColumnDtypes => do
    let dtype ← given decodeSetDtype raw
    pure (.setDtype dtype)
  | .sqlCondition => do
    let args ← given decodeSqlConditionArgs raw
    if args.conditions.isEmpty then .error .emptyConditions
    else match args.conditions.find? fun c => !isWhenClause c with
      | some bad => .error (.notWhenClause bad)
      | none => pure (.sqlCondition args)
  | .sqlQuery => do
    let query ← given decodeSqlQuery raw
    if Text.isBlankText query then .error .emptyQuery else pure (.sqlQuery query)
  | .lookup => .ok (.lookup (raw.getD .null))

/-- The arguments of a draft. -/
def checkArgs (kind : RuleKind) (raw : Option Document) : Except RuleIssue RuleArgs :=
  (argsOf kind raw).mapError fun f => ⟨.conversionArgs, f⟩

/-- The source column of a draft, which some kinds need. -/
def checkSource (kind : RuleKind) (source : Option String) :
    Except RuleIssue (Option String) :=
  if kind.needsSource && (filled source).isNone then .error ⟨.column, .requiredFor kind⟩
  else .ok (filled source)

/-- The problem of a check, if it found one. -/
def issueOf {α : Type} : Except RuleIssue α → List RuleIssue
  | .ok _ => []
  | .error i => [i]

/-- Every problem of a draft, in the order of the fields. -/
def issues (d : RuleDraft) : List RuleIssue :=
  issueOf (checkFocusColumn d.focusColumn) ++
    match checkKind d.conversionType with
    | .error i => [i]
    | .ok kind =>
      issueOf (checkSource kind d.sourceColumn) ++ issueOf (checkArgs kind d.conversionArgs)

/-- The name of a draft. -/
def title (d : RuleDraft) : String := d.planName.getD "<unnamed>"

/-- The rule of a draft whose fields are all good; otherwise every problem at once. -/
def validate (d : RuleDraft) : Except InvalidRule Rule :=
  match checkFocusColumn d.focusColumn, checkKind d.conversionType with
  | .ok focusColumn, .ok kind =>
    match checkSource kind d.sourceColumn, checkArgs kind d.conversionArgs with
    | .ok source, .ok args =>
      .ok ⟨d.title, focusColumn, source, kind, args, filled d.columnPrefix,
        d.dimensionId.getD 0, d.priority.getD 0⟩
    | _, _ => .error ⟨d.title, d.issues⟩
  | _, _ => .error ⟨d.title, d.issues⟩

end RuleDraft

end FocusBilling
