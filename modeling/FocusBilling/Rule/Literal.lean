import FocusBilling.Number.Layout
import FocusBilling.Text.Ascii

/-!
# Literals of rule documents

* `Literal` : a scalar that a rule document gives;
* `Literal.key` : its text, against which keys are compared;
* `Literal.sql` : the literal as a SQL statement spells it.
-/

namespace FocusBilling

/-- A scalar of a rule document.  Whole numbers fit 64 bits with a sign. -/
inductive Literal where
  | bool (value : Bool)
  | int (value : Int)
  | float (value : Binary)
  | text (value : String)
  deriving DecidableEq

namespace Literal

/-- The text of a literal, against which keys are compared. -/
def key : Literal → String
  | .bool b => if b then "true" else "false"
  | .int n => toString n
  | .float x => Layout.plain.write .double x
  | .text s => s

/-- A text as SQL spells it: between single quotes, those inside doubled. -/
def quotedSql (s : String) : String :=
  String.ofList ('\'' :: (s.toList.flatMap fun c => if c = '\'' then ['\'', '\''] else [c]) ++
    ['\''])

/-- A literal as SQL spells it. -/
def sql : Literal → String
  | .bool b => if b then "TRUE" else "FALSE"
  | .int n => toString n
  | .float x => Layout.plain.write .double x
  | .text s => quotedSql s

end Literal

end FocusBilling
