import FocusBilling.Sql.Spelling
import FocusBilling.Sql.Statement

/-!
# What is told while a SQL text is read

* `Sql.account` : what is told, line by line, while a text is read.

For every expression the account tells its start, its first part, and how tight each operator
behind it binds.  It tells what was read before a text turned out wrong as well.
-/

namespace FocusBilling.Sql

/-- What is told about an event. -/
def Event.line : Event → String
  | .opened => "parsing expr"
  | .operand e => "prefix: " ++ e.spelled
  | .ahead t => "get_next_precedence_full() " ++ spelledAhead t
  | .strength n => "next precedence: " ++ toString n

/-- What is told while a text is read.  `trailingCommas` tells whether a comma may stand behind the
last entry of a list. -/
def account (trailingCommas : Bool) (text : String) : List String :=
  ("Parsing sql '" ++ text ++ "'...") :: (parseWith trailingCommas text).2.map Event.line

end FocusBilling.Sql
