import FocusBilling.Compile.Registry
import FocusBilling.Plan

/-!
# Compiled plans

* `CompiledPlan` : the steps of a plan, those in SQL apart, and the columns it is about;
* `CompiledPlan.build` : the compiled form of a plan, or the error of its first rule that cannot
  be compiled.
-/

namespace FocusBilling

/-- The steps of a plan. -/
structure CompiledPlan where
  /-- The provider. -/
  provider : String
  /-- Steps that fill columns, in order. -/
  assignments : List Assignment
  /-- Steps in SQL, in order; they follow the others. -/
  statements : List SqlStep
  /-- The FOCUS columns that the plan produces, each once. -/
  targetColumns : List String
  /-- The columns that are dropped at the end, each once. -/
  temporaryColumns : List String

namespace CompiledPlan

/-- The column that names the provider on every row. -/
def providerColumn : String := "provider"

/-- The step that names the provider on every row. -/
def providerAssignment (provider : String) : Assignment :=
  .column providerColumn (.constant (.text provider) .text)

/-- A name behind others, unless it is among them. -/
def addOnce (names : List String) (name : String) : List String :=
  if names.contains name then names else names ++ [name]

/-- A plan without rules. -/
def start (provider : String) : CompiledPlan :=
  ⟨provider, [providerAssignment provider], [], [], []⟩

/-- A plan with the step of one more rule. -/
def addStep (compiler : RuleCompiler) (rule : Rule) (p : CompiledPlan) :
    Except CompileError CompiledPlan :=
  match compiler with
  | .expression compile => do
    pure { p with assignments := p.assignments ++ [← compile rule rule.output] }
  | .sql compile => do
    pure { p with statements := p.statements ++ [← compile rule rule.output] }

/-- A plan with one more rule. -/
def addRule (registry : Registry) (p : CompiledPlan) (rule : Rule) :
    Except CompileError CompiledPlan :=
  match registry.get rule.kind with
  | none => .error (.unsupportedKind rule.kind rule.planName)
  | some compiler => do
    let p ← addStep compiler rule p
    pure { p with
      targetColumns := addOnce p.targetColumns rule.focusColumn.name
      temporaryColumns :=
        if rule.isTemporary then addOnce p.temporaryColumns rule.output else p.temporaryColumns }

/-- The compiled form of a plan, or the error of its first rule that cannot be compiled. -/
def build (registry : Registry) (plan : Plan) : Except CompileError CompiledPlan :=
  plan.rules.foldlM (addRule registry) (start plan.provider)

end CompiledPlan

end FocusBilling
