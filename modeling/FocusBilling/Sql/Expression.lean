import FocusBilling.Sql.TypeName

/-!
# The syntax of SQL

* `Sql.Expr` : an expression;
* `Sql.Query`, `Sql.Select`, `Sql.Relation` : a query and its parts;
* `Sql.Statement` : a query, or any other statement.

Expressions and queries nest in one another.  The expressions of a form stand in lists of their own,
in the order of visit; beside them stands a shape, which holds what is not nested.
-/

namespace FocusBilling.Sql

/-- Operators on one value. -/
inductive UnaryOp where
  | plus
  | minus
  | not
  deriving DecidableEq

/-- Operators between two values. -/
inductive BinaryOp where
  | plus | minus | times | divide | modulo | wholeDivide | concat
  | eq | ne | lt | le | gt | ge
  /-- Whether two values are the same, missing ones included. -/
  | same
  | and | or | xor
  | bitAnd | bitOr | bitXor | shiftLeft | shiftRight
  | overlap
  | startsWith
  /-- A regular expression is found. -/
  | finds (ignoreCase negated : Bool)
  /-- A pattern with placeholders matches. -/
  | like (ignoreCase negated : Bool)
  | arrow | longArrow | hashArrow | hashLongArrow
  | contains | containedBy | hashMinus | hasPath | pathMatches
  /-- An operator by its own name. -/
  | custom (parts : List String)
  deriving DecidableEq

/-- Tests behind `IS`. -/
inductive IsTest where
  | null | true | false | unknown
  deriving DecidableEq

/-- How a pattern is matched. -/
inductive LikeKind where
  | like | ilike | similar
  deriving DecidableEq

/-- The spellings of a cast. -/
inductive CastKind where
  | cast | tryCast | safeCast
  /-- Two colons. -/
  | colons
  deriving DecidableEq

/-- The format of a cast, perhaps at a zone. -/
structure CastFormat where
  /-- The format. -/
  format : Value
  /-- The zone. -/
  zone : Option Value
  deriving DecidableEq

/-- To what a number or a date is rounded. -/
inductive RoundingTo where
  | whole
  | field (field : DateField)
  | scale (number : Value)
  deriving DecidableEq

/-- The ends from which a text is trimmed. -/
inductive TrimSide where
  | both | leading | trailing
  deriving DecidableEq

/-- How an argument is put behind its name. -/
inductive NameSign where
  | arrow
  | assignment
  | word
  deriving DecidableEq

/-- The units of a window frame. -/
inductive FrameUnits where
  | rows | range | groups
  deriving DecidableEq

/-- One end of a window frame. -/
inductive BoundShape where
  | current
  | preceding (bounded : Bool)
  | following (bounded : Bool)
  deriving DecidableEq

/-- The frame of a window. -/
structure FrameShape where
  /-- The units. -/
  units : FrameUnits
  /-- Where it starts. -/
  start : BoundShape
  /-- Where it ends. -/
  stop : Option BoundShape
  deriving DecidableEq

/-- The window of a call. -/
inductive WindowShape where
  | named (name : Name)
  | spec (base : Option Name) (frame : Option FrameShape)
  deriving DecidableEq

/-- A clause behind the arguments of a call. -/
inductive ClauseShape where
  | ignoresNulls (yes : Bool)
  | orderBy
  | limit
  | having (max : Bool)
  | separator (value : Value)
  /-- What is done where a list grows too long: an error, or a filler at its end. -/
  | overflow (filled : Bool) (withCount : Option Bool)
  | jsonNull (absent : Bool)
  deriving DecidableEq

/-- What stands in the brackets of a call. -/
inductive ArgumentShape where
  /-- There are no brackets. -/
  | absent
  /-- One query. -/
  | query
  /-- Arguments, some of which have names, and clauses behind them. -/
  | listed (distinct : Option Bool) (names : List (Option (Name × NameSign)))
    (clauses : List ClauseShape)
  deriving DecidableEq

/-- What a call holds beside its expressions. -/
structure CallShape where
  /-- The name of the function. -/
  name : List Name
  /-- Whether the call stands in braces. -/
  inBraces : Bool
  /-- Arguments in brackets of their own in front of the others. -/
  parameters : ArgumentShape
  /-- What stands in brackets. -/
  arguments : ArgumentShape
  /-- Whether missing values are left out, where it is said behind the arguments. -/
  ignoresNulls : Option Bool
  /-- The window over which the function goes. -/
  window : Option WindowShape
  deriving DecidableEq

/-- How two bodies are put together. -/
inductive SetOp where
  | union | except | intersect
  deriving DecidableEq

/-- What is done with repeated rows, and whether columns are matched by name. -/
inductive SetQuantifier where
  | unsaid | all | distinct | byName | allByName | distinctByName
  deriving DecidableEq

/-- How a table is put to the tables in front of it. -/
inductive JoinKind where
  /-- It is the first, or stands behind a comma. -/
  | listed
  | inner | left | right | full | cross
  | leftSemi | rightSemi | leftAnti | rightAnti | semi | anti
  | crossApply | outerApply | asof
  deriving DecidableEq

/-- The condition of a join. -/
inductive ConstraintShape where
  | none
  | natural
  | on
  | using (columns : List Name)
  deriving DecidableEq

/-- How equal rows are merged. -/
inductive Distinct where
  | keepAll
  | distinct
  /-- Rows with equal keys. -/
  | on
  deriving DecidableEq

/-- What may follow all columns. -/
structure StarShape where
  /-- The table, if it is named. -/
  table : List Name
  /-- A pattern of names. -/
  ilike : Option String
  /-- Names behind `EXCLUDE`. -/
  excluded : List Name
  /-- Names behind `EXCEPT`. -/
  excepted : List Name
  /-- Columns that expressions take the place of. -/
  replaced : List Name
  /-- New names of columns. -/
  renamed : List (Name × Name)
  deriving DecidableEq

/-- The name given to a table. -/
structure TableLabel where
  /-- The name. -/
  name : Name
  /-- Names for its columns. -/
  columns : List Name
  deriving DecidableEq

mutual

/-- A SQL expression. -/
inductive Expr where
  /-- A column; the parts of its name, the last of which names the column itself. -/
  | column (path : List Name)
  | value (value : Value)
  /-- A text behind the name of its character set. -/
  | introduced (introducer : String) (value : Value)
  /-- All columns, as an argument. -/
  | star
  /-- All columns of a table, as an argument. -/
  | starOf (path : List Name)
  | unary (op : UnaryOp) (arg : Expr)
  | binary (op : BinaryOp) (left right : Expr)
  /-- An operator over some or all items of the second. -/
  | quantified (isAll isSome : Bool) (op : BinaryOp) (left right : Expr)
  | nested (arg : Expr)
  | tuple (items : List Expr)
  | isTest (test : IsTest) (negated : Bool) (arg : Expr)
  | isDistinct (negated : Bool) (left right : Expr)
  | between (negated : Bool) (arg low high : Expr)
  | inList (negated : Bool) (arg : Expr) (items : List Expr)
  | inQuery (negated : Bool) (arg : Expr) (query : Query)
  /-- Among the items of an array. -/
  | inArray (negated : Bool) (arg array : Expr)
  | like (kind : LikeKind) (negated any : Bool) (arg pattern : Expr) (escape : Option String)
  /-- `REGEXP`, or `RLIKE`. -/
  | regexp (isRegexp negated : Bool) (arg pattern : Expr)
  /-- `CASE`; conditions and results go in step. -/
  | cases (operand : Option Expr) (conditions results : List Expr) (otherwise : Option Expr)
  | cast (kind : CastKind) (arg : Expr) (type : TypeName) (format : Option CastFormat)
  | convert (lenient : Bool) (arg : Expr) (type : Option TypeName) (charset : Option (List Name))
  | atZone (arg zone : Expr)
  | extract (field : DateField) (withComma : Bool) (arg : Expr)
  | rounding (up : Bool) (arg : Expr) (target : RoundingTo)
  | position (part whole : Expr)
  | substring (arg : Expr) (start count : Option Expr) (withComma : Bool)
  /-- A text without what stands behind `FROM`, or without characters behind a comma. -/
  | trim (arg : Expr) (side : Option TrimSide) (what : Option Expr) (chars : List Expr)
  | overlay (arg what start : Expr) (count : Option Expr)
  | collate (arg : Expr) (collation : List Name)
  /-- A text of a type. -/
  | typed (type : TypeName) (text : String)
  | interval (arg : Expr) (unit : Option DateField) (precision : Option Nat)
    (last : Option DateField) (fraction : Option Nat)
  | call (call : Call)
  | exists (negated : Bool) (query : Query)
  | subquery (query : Query)
  | index (arg place : Expr)
  | slice (arg : Expr) (low high stride : Option Expr)
  /-- An array, perhaps behind its name. -/
  | array (named : Bool) (items : List Expr)
  | struct (names : List (Option Name)) (types : List TypeName) (values : List Expr)
  /-- A value behind which a name stands. -/
  | named (arg : Expr) (name : Name)
  /-- Fields with their names. -/
  | record (names : List Name) (values : List Expr)
  /-- Keys and values in turn. -/
  | map (entries : List Expr)
  | member (arg : Expr) (key : Name)
  | matchAgainst (columns : List Name) (value : Value) (modifier : Option String)
  | prior (arg : Expr)
  /-- Sets of grouping keys, one after another. -/
  | groupingSets (label : String) (keys : List Expr)

/-- A call of a function. -/
structure Call where
  /-- What it holds beside its expressions. -/
  shape : CallShape
  /-- Arguments in brackets of their own, and the expressions of clauses behind them. -/
  parameters : List Expr
  /-- The arguments; a query is one. -/
  arguments : List Expr
  /-- The order of the arguments. -/
  argumentOrder : List OrderKey
  /-- The expressions of clauses behind that order. -/
  clauses : List Expr
  /-- The keys of the parts of the window. -/
  partition : List Expr
  /-- The order of the window. -/
  order : List OrderKey
  /-- The expressions of the frame of the window. -/
  frame : List Expr
  /-- The order within a group. -/
  within : List OrderKey

/-- A key of an order. -/
structure OrderKey where
  /-- What is ordered by. -/
  value : Expr
  /-- Whether upward, where it is said. -/
  ascending : Option Bool
  /-- Whether missing values come first, where it is said. -/
  nullsFirst : Option Bool
  /-- Start, end and step of values that are filled in. -/
  fill : List Expr

/-- A query. -/
structure Query where
  /-- The names of queries in front. -/
  names : List TableLabel
  /-- Whether the queries in front may read themselves. -/
  isRecursive : Bool
  /-- The queries in front. -/
  named : List Query
  /-- The body. -/
  body : Body
  /-- The order of rows. -/
  orderBy : List OrderKey
  /-- Expressions that fill in rows of the order. -/
  interpolated : List Expr
  /-- How many rows. -/
  limit : Option Expr
  /-- Keys for each value of which so many rows are kept. -/
  limitBy : List Expr
  /-- How many rows are left out first. -/
  offset : Option Expr

/-- The body of a query. -/
inductive Body where
  | select (select : Select)
  | nested (query : Query)
  | setOperation (op : SetOp) (quantifier : SetQuantifier) (left right : Body)
  /-- Rows of so many values each, one after another. -/
  | rows (sizes : List Nat) (values : List Expr)
  /-- A whole table. -/
  | table (name : List String)
  /-- A statement that changes a table. -/
  | change (parts : List Expr)

/-- A plain `SELECT`. -/
structure Select where
  /-- How equal rows are merged. -/
  distinct : Distinct
  /-- The keys by which rows are merged. -/
  distinctKeys : List Expr
  /-- The expression behind `TOP`. -/
  top : Option Expr
  /-- The list of columns. -/
  items : List SelectItem
  /-- The tables. -/
  tables : List Join
  /-- Lateral views. -/
  views : List Expr
  /-- A condition that is checked first. -/
  prewhere : Option Expr
  /-- The condition on rows. -/
  filter : Option Expr
  /-- Whether rows are grouped by all columns that are no totals. -/
  groupsByAll : Bool
  /-- Whether rows for groups of groups are asked for. -/
  hasSuperGroups : Bool
  /-- The keys of groups. -/
  groupKeys : List Expr
  /-- Keys of distribution and sorting. -/
  layout : List Expr
  /-- The condition on groups. -/
  having : Option Expr
  /-- Expressions of named windows. -/
  windows : List Expr
  /-- The condition on windows. -/
  qualify : Option Expr
  /-- The start of a hierarchy, and how rows follow one another in it. -/
  hierarchy : List Expr

/-- One entry of the list behind `SELECT`. -/
inductive SelectItem where
  | expr (value : Expr) (label : Option Name)
  /-- All columns, some of which expressions take the place of. -/
  | wildcard (shape : StarShape) (replacements : List Expr)

/-- A table behind `FROM`. -/
inductive Relation where
  /-- A table by its name. -/
  | table (name : List Name) (label : Option TableLabel)
  /-- A function by its arguments. -/
  | function (name : List Name) (arguments : List Expr) (label : Option TableLabel)
  | derived (lateral : Bool) (query : Query) (label : Option TableLabel)
  | joined (tables : List Join) (label : Option TableLabel)
  /-- The items of arrays as rows. -/
  | unnest (arrays : List Expr) (withOffset : Bool) (label : Option TableLabel)
  /-- Any other form over tables. -/
  | composed (tables : List Join) (parts : List Expr) (queries : List Query)
    (label : Option TableLabel)

/-- A table, put to the tables in front of it. -/
structure Join where
  /-- How it is put to them. -/
  kind : JoinKind
  /-- The table. -/
  relation : Relation
  /-- The condition. -/
  constraint : ConstraintShape
  /-- The expressions of the condition. -/
  conditions : List Expr

end

/-- An expression, where any will do. -/
instance : Inhabited Expr := ⟨.star⟩

namespace Expr

/-- The name of a column that is named alone. -/
def name? : Expr → Option Name
  | .column [n] => some n
  | _ => none

end Expr

namespace Query

/-- A body alone. -/
def ofBody (b : Body) : Query := ⟨[], false, [], b, [], [], none, [], none⟩

end Query

/-- A statement. -/
inductive Statement where
  | query (query : Query)
  /-- The rows of a table are taken out on which a condition is true. -/
  | delete (tables : List Join) (isPlain : Bool) (filter : Option Expr) (parts : List Expr)
  | truncate (tables : List (List Name)) (partition : List Expr)
  | createAs (name : List Name) (ifMissing : Bool) (query : Query) (parts : List Expr)
  | dropTables (names : List (List Name)) (ifExists : Bool)
  /-- The tables that there are. -/
  | showTables (parts : List Expr)
  /-- The plan of another statement. -/
  | explain (statement : Statement) (options : List Expr)
  /-- The columns of a table. -/
  | describe (table : List Name)
  /-- A statement that is kept. -/
  | prepare (statement : Statement)
  /-- Any other statement. -/
  | other (parts : List Expr)

end FocusBilling.Sql
