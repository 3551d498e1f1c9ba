import FocusBilling.Sql.Token

/-!
# Names, values and types in SQL

* `Sql.Name` : a name with its quotes and its place;
* `Sql.Value` : a value that is written out;
* `Sql.TypeName` : a type as a cast names it;
* `Sql.DateField` : a field of a date, or a unit of time.
-/

namespace FocusBilling.Sql

/-- A name. -/
structure Name where
  /-- The name without quotes. -/
  text : String
  /-- The quote around it. -/
  quote : Option Char
  /-- Where it stands. -/
  span : Span
  deriving DecidableEq

/-- A value that is written out. -/
inductive Value where
  | number (text : String) (isLong : Bool)
  | text (style : TextStyle) (value : String)
  | dollarText (tag : Option String) (value : String)
  | bool (value : Bool)
  | null
  | placeholder (text : String)
  deriving DecidableEq, Inhabited

/-- The length of a text. -/
inductive TextLength where
  /-- A number of characters or octets, as the unit says if there is one. -/
  | upTo (length : Nat) (unit : Option String)
  /-- As long as possible. -/
  | max
  deriving DecidableEq

/-- What a time says about its zone. -/
inductive ZoneMark where
  | unsaid
  | withZone
  | withoutZone
  /-- The short spelling. -/
  | short
  deriving DecidableEq

/-- A type.  The label is that of its kind: spellings of one kind share it. -/
inductive TypeName where
  | plain (label : String)
  | sized (label : String) (size : Option Nat)
  | ofLength (label : String) (length : Option TextLength)
  /-- A decimal number with its precision and its scale. -/
  | exact (label : String) (precision scale : Option Nat)
  | clock (label : String) (size : Option Nat) (zone : ZoneMark)
  /-- A type of another name, with what stands in brackets behind it. -/
  | custom (name : List Name) (modifiers : List String)
  /-- A type around others. -/
  | around (label : String) (inner : List TypeName)
  /-- An array, its brackets behind the type of its items. -/
  | array (inner : TypeName) (size : Option Nat)
  /-- An array, its items between angle brackets. -/
  | arrayOf (inner : TypeName)
  /-- Fields, some of which have names. -/
  | fields (label : String) (names : List (Option Name)) (types : List TypeName)
  /-- Listed values. -/
  | listed (label : String) (values : List String)
  deriving Inhabited

/-- A field of a date, or a unit of time. -/
inductive DateField where
  /-- A known field, in capitals. -/
  | known (name : String)
  /-- A week that starts on a day. -/
  | weekFrom (day : Name)
  /-- Any other name. -/
  | custom (name : Name)
  deriving DecidableEq

end FocusBilling.Sql
