import FocusBilling.Rule.Kind

/-!
# Why a plan cannot be compiled

* `CompileError` : the causes, and their texts.
-/

namespace FocusBilling

/-- What keeps the arguments of a rule from being compiled. -/
inductive ArgsFault where
  | sourceRequired
  /-- The arguments belong to another kind. -/
  | mismatched (kind : RuleKind)
  | unknownTimezone (name : String)
  deriving DecidableEq

namespace ArgsFault

/-- The text of a fault. -/
def message : ArgsFault → String
  | sourceRequired => "source column required"
  | mismatched kind => "arguments do not match conversion type '" ++ kind.name ++ "'"
  | unknownTimezone name => "unknown timezone '" ++ name ++ "'"

end ArgsFault

/-- Why a plan cannot be compiled. -/
inductive CompileError where
  | unknownProvider (provider : String)
  /-- No compiler is registered for the kind of a rule. -/
  | unsupportedKind (kind : RuleKind) (planName : String)
  | invalidArgs (planName : String) (fault : ArgsFault)
  deriving DecidableEq

namespace CompileError

/-- The text of an error. -/
def message : CompileError → String
  | unknownProvider provider => "no conversion plan loaded for provider '" ++ provider ++ "'"
  | unsupportedKind kind planName =>
    "conversion type '" ++ kind.name ++ "' used by '" ++ planName ++ "' is not supported"
  | invalidArgs planName fault =>
    "invalid arguments for '" ++ planName ++ "': " ++ fault.message

end CompileError

end FocusBilling
