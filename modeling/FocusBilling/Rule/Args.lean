import FocusBilling.Document
import FocusBilling.Rule.Literal

/-!
# Arguments of conversion rules

What each kind of rule is told, one constructor of `RuleArgs` per shape.
-/

namespace FocusBilling

/-- How a wall-clock time that occurs twice in a zone is resolved. -/
inductive AmbiguousTime where
  | earliest
  | latest
  | null
  /-- Fail the batch. -/
  | raise
  deriving DecidableEq

namespace AmbiguousTime

/-- The spelling in rule documents. -/
def name : AmbiguousTime → String
  | .earliest => "earliest"
  | .latest => "latest"
  | .null => "null"
  | .raise => "raise"

/-- All choices in the order in which messages list them. -/
def all : List AmbiguousTime := [.earliest, .latest, .null, .raise]

end AmbiguousTime

/-- A primitive type that a rule may ask for. -/
inductive TargetType where
  | string
  | int32
  | int64
  | float32
  | float64
  | boolean
  | date
  | datetime
  deriving DecidableEq

namespace TargetType

/-- The name of a type. -/
def name : TargetType → String
  | .string => "string"
  | .int32 => "int32"
  | .int64 => "int64"
  | .float32 => "float32"
  | .float64 => "float64"
  | .boolean => "boolean"
  | .date => "date"
  | .datetime => "datetime"

/-- Every spelling that rule documents may use, in the order in which messages list them. -/
def spellings : List (String × TargetType) :=
  [("str", .string), ("string", .string), ("utf8", .string), ("int32", .int32),
    ("int64", .int64), ("float32", .float32), ("float64", .float64), ("bool", .boolean),
    ("boolean", .boolean), ("date", .date), ("datetime", .datetime)]

end TargetType

/-- A zone, and what to do with times that occur twice in it. -/
structure TimezoneArgs where
  /-- Name of the zone, as written. -/
  timezone : String
  /-- Resolution of repeated wall-clock times. -/
  ambiguous : AmbiguousTime := .null
  deriving DecidableEq

/-- How texts are read as datetimes. -/
structure ParseDatetimeArgs where
  /-- The pattern; inferred from the data when absent. -/
  format : Option String := none
  /-- Zone attached to the values. -/
  timezone : Option String := none
  /-- Whether a text that does not match fails the batch. -/
  strict : Bool := false
  /-- Resolution of repeated wall-clock times. -/
  ambiguous : AmbiguousTime := .null
  deriving DecidableEq

/-- One entry of a value mapping. -/
structure ValueMapping where
  /-- What the source is compared with. -/
  key : Literal
  /-- What it becomes. -/
  value : Literal
  deriving DecidableEq

/-- A mapping of values, with an optional default. -/
structure MapValuesArgs where
  /-- Entries in order; the first that matches wins. -/
  valueList : List ValueMapping
  /-- What unmatched values become. -/
  default : Option Literal := none
  /-- Whether missing values receive the default too. -/
  defaultForNull : Bool := true
  deriving DecidableEq

/-- Ordered conditions, with a default. -/
structure SqlConditionArgs where
  /-- `WHEN … THEN …` clauses in order. -/
  conditions : List String
  /-- The value where no clause applies. -/
  default : Literal
  deriving DecidableEq

/-- The arguments of a rule, one constructor per shape. -/
inductive RuleArgs where
  | none
  | timezone (args : TimezoneArgs)
  | parseDatetime (args : ParseDatetimeArgs)
  | staticValue (value : Literal)
  | mapValues (args : MapValuesArgs)
  /-- A field to extract; every field is expanded when it is absent. -/
  | unnest (field : Option String)
  | defaultValue (value : Literal)
  | setDtype (dtype : TargetType)
  | sqlCondition (args : SqlConditionArgs)
  | sqlQuery (query : String)
  /-- Kept as written. -/
  | lookup (value : Document)

end FocusBilling
