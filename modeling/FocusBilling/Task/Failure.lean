import FocusBilling.Compile.Error
import FocusBilling.Export.Segments
import FocusBilling.Text.Hidden

/-!
# Failures of tasks

* `Failure` : why a task has failed, and what it was about when it did;
* `Failure.text` : all of it on one line, from the task down to the first cause.
-/

namespace FocusBilling

namespace ApplyError

/-- The text of an error; where the reader of a statement has more to say, the text ends before
it. -/
def message : ApplyError → String
  | missingColumn name => "column not found: unable to find column " ++ Text.quoted name
  | sql _ => "sql statement failed"
  | frame _ => "DataFrame operation failed"

end ApplyError

/-- What a task can fail of. -/
inductive FailureCause where
  | input (error : InputError)
  | compile (error : CompileError)
  /-- A batch that cannot be converted. -/
  | apply (error : ApplyError)
  /-- A batch that cannot be read. -/
  | source (error : InputError)
  /-- A batch that cannot be exported. -/
  | exporting (error : ExportError)
  /-- An export that cannot start. -/
  | start (error : ExportError)
  | file (fault : Files.Fault)

namespace FailureCause

/-- What keeps a conversion from going on. -/
def ofConvert : ConvertError InputError ExportError → FailureCause
  | .apply e => apply e
  | .source e => source e
  | .exporting e => exporting e

/-- The text of a cause. -/
def message : FailureCause → String
  | input e => e.message
  | compile e => e.message
  | apply e => e.message
  | source e => "failed to read input batch: " ++ e.message
  | exporting e => "failed to export batch: " ++ e.message
  | start e => e.message
  | file fault => fault.message

/-- The texts of what lies below a cause. -/
def causes : FailureCause → List String
  | input e => e.causes
  | source e => e.message :: e.causes
  | exporting e => e.message :: e.causes
  | start e => e.causes
  | compile _ | apply _ | file _ => []

end FailureCause

/-- Why a task has failed. -/
structure Failure where
  /-- What the task was about, from the whole to the part. -/
  contexts : List String
  /-- What it failed of. -/
  cause : FailureCause

namespace Failure

/-- All of a failure on one line. -/
def text (f : Failure) : String :=
  String.intercalate ": " (f.contexts ++ f.cause.message :: f.cause.causes)

end Failure

end FocusBilling
