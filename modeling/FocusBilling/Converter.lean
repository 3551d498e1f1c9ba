import FocusBilling.Compile.CompiledPlan
import FocusBilling.Graph

/-!
# Plans of several providers

* `Converter` : the plans of providers, with the compilers for their rules;
* `Converter.prepare`, `Converter.explain` : the compiled plan of a provider, and its graph.
-/

namespace FocusBilling

/-- The plans of providers, with the compilers for their rules. -/
structure Converter where
  /-- The plans by provider, in order of the names. -/
  plans : List (String × Plan)
  /-- The compilers. -/
  registry : Registry

namespace Converter

/-- A plan put where its provider belongs, in place of an earlier one. -/
def insertPlan (p : Plan) : List (String × Plan) → List (String × Plan)
  | [] => [(p.provider, p)]
  | (name, q) :: rest =>
    match compare p.provider name with
    | .lt => (p.provider, p) :: (name, q) :: rest
    | .eq => (name, p) :: rest
    | .gt => (name, q) :: insertPlan p rest

/-- The plans of providers; of two plans of one provider the later counts. -/
def ofPlans (plans : List Plan) (registry : Registry) : Converter :=
  ⟨plans.foldl (fun known p => insertPlan p known) [], registry⟩

/-- The providers. -/
def providers (c : Converter) : List String := c.plans.map (·.1)

/-- The plan of a provider. -/
def plan (c : Converter) (provider : String) : Except CompileError Plan :=
  match c.plans.lookup provider with
  | some p => .ok p
  | none => .error (.unknownProvider provider)

/-- The compiled plan of a provider. -/
def prepare (c : Converter) (provider : String) : Except CompileError CompiledPlan := do
  CompiledPlan.build c.registry (← c.plan provider)

/-- The graph of the plan of a provider. -/
def explain (c : Converter) (provider : String) : Except CompileError DependencyGraph := do
  pure (.ofPlan (← c.plan provider))

end Converter

end FocusBilling
