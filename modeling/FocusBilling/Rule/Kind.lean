import FocusBilling.Text.Blank

/-!
# Kinds of conversion rules

The closed set of rule kinds, as rule documents name them.

* `RuleKind` : the kinds;
* `RuleKind.all` : all of them, in the order of their declaration;
* `RuleKind.ofName?` : the kind of a name, blanks around it ignored.
-/

namespace FocusBilling

/-- What a conversion rule does. -/
inductive RuleKind where
  | convertTimezone
  | assignTimezone
  | assignUtcTimezone
  | parseDatetime
  | sqlQuery
  | sqlCondition
  | renameColumn
  | unnest
  | lookup
  | mapValues
  | staticValue
  | applyDefaultIfColumnMissing
  | setColumnDtypes
  deriving DecidableEq

namespace RuleKind

/-- Every kind, in the order of declaration. -/
def all : List RuleKind :=
  [.convertTimezone, .assignTimezone, .assignUtcTimezone, .parseDatetime, .sqlQuery,
    .sqlCondition, .renameColumn, .unnest, .lookup, .mapValues, .staticValue,
    .applyDefaultIfColumnMissing, .setColumnDtypes]

/-- The name of a kind in rule documents. -/
def name : RuleKind → String
  | .convertTimezone => "convert_timezone"
  | .assignTimezone => "assign_timezone"
  | .assignUtcTimezone => "assign_utc_timezone"
  | .parseDatetime => "parse_datetime"
  | .sqlQuery => "sql_query"
  | .sqlCondition => "sql_condition"
  | .renameColumn => "rename_column"
  | .unnest => "unnest"
  | .lookup => "lookup"
  | .mapValues => "map_values"
  | .staticValue => "static_value"
  | .applyDefaultIfColumnMissing => "apply_default_if_column_missing"
  | .setColumnDtypes => "set_column_dtypes"

/-- Whether a rule of the kind reads a named column of the input. -/
def needsSource : RuleKind → Bool
  | .staticValue | .sqlQuery | .sqlCondition | .lookup => false
  | _ => true

/-- Whether a rule of the kind is evaluated as a SQL statement. -/
def isSql : RuleKind → Bool
  | .sqlQuery | .sqlCondition => true
  | _ => false

/-- The kind of a name; blanks around the name are ignored. -/
def ofName? (s : String) : Option RuleKind :=
  let trimmed := Text.trim s
  all.find? fun k => k.name == trimmed

/-- What is said of a name that is no kind. -/
def unknownMessage (s : String) : String := "unknown conversion type '" ++ Text.trim s ++ "'"

/-- The place of a kind in `all`. -/
def index (k : RuleKind) : Nat := all.idxOf k

end RuleKind

end FocusBilling
