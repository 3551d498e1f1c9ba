import FocusBilling.Files.Tree
import FocusBilling.Rule

/-!
# Errors of input

* `InputError` : why rules or data cannot be read;
* `InputError.message`, `InputError.causes` : its text, and the texts of what lies below it.
-/

namespace FocusBilling

/-- Why rules or data cannot be read. -/
inductive InputError where
  | folderNotFound (path : String)
  | dataNotFound (path : String)
  | fileUnreadable (path : String) (fault : Files.Fault)
  /-- A rule file that is no document of a rule. -/
  | ruleMalformed (path : String)
  /-- A rule file whose rule has problems. -/
  | ruleInvalid (path : String) (cause : InvalidRule)
  | providerNotFound (provider folder : String)
  | formatUnknown (path : String)
  /-- Data that cannot be read as a table. -/
  | tableUnreadable

namespace InputError

/-- The text of an error; where the reader of a format has more to say, the text ends before it. -/
def message : InputError → String
  | folderNotFound path => "directory not found: " ++ path
  | dataNotFound path => "input not found: " ++ path
  | fileUnreadable path fault => "failed to read file " ++ path ++ ": " ++ fault.message
  | ruleMalformed path => "failed to parse rule file " ++ path
  | ruleInvalid path cause => "invalid rule file " ++ path ++ ": " ++ cause.message
  | providerNotFound provider folder =>
    "no conversion configs for provider '" ++ provider ++ "' under " ++ folder
  | formatUnknown path => "unsupported input format: " ++ path
  | tableUnreadable => "DataFrame operation failed"

/-- The texts of what lies below an error. -/
def causes : InputError → List String
  | fileUnreadable _ fault => [fault.message]
  | ruleInvalid _ cause => [cause.message]
  | _ => []

end InputError

end FocusBilling
