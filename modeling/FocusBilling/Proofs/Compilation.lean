import Mathlib.Data.List.Induction
import FocusBilling.Compile.CompiledPlan
import FocusBilling.Proofs.Steps

/-!
# What plans are compiled to

Each rule is compiled to one step, on its own.  A compiled plan holds those that fill columns and
those in SQL apart, in the order of the rules.

* `PlanStep`, `Rule.step` : a step, and the one that a rule is compiled to;
* `CompiledPlan.addRule_eq`, `CompiledPlan.foldlM_addRule` : one rule more, and several;
* `CompiledPlan.build_eq_ok`, `CompiledPlan.build_eq_assembled`, `CompiledPlan.build_eq_error` : the
  compiled form of a plan, rule by rule, and why there is none;
* `CompiledPlan.build_dispatches` : **a plan is compiled as a whole or not at all, and none of its
  rules is lost**;
* `Compile.rename_eq_ok` and so on : what each compiler of the standard registry asks of a rule, and
  what it makes of it;
* `Rule.Fills`, `Rule.step_eq_assign`, `Rule.condition_of_step` : **what a rule can be compiled to
  in the standard registry**, kind by kind.
-/

namespace FocusBilling

/-- A step of a plan. -/
inductive PlanStep where
  /-- One that fills columns by expressions. -/
  | assign (a : Assignment)
  /-- One in SQL. -/
  | sql (s : SqlStep)

namespace PlanStep

/-- The step, if it fills columns by expressions. -/
def assignment? : PlanStep → Option Assignment
  | assign a => some a
  | sql _ => none

/-- The step, if it is one in SQL. -/
def statement? : PlanStep → Option SqlStep
  | assign _ => none
  | sql s => some s

variable {steps : List PlanStep}

theorem assign_mem {a : Assignment} (ha : a ∈ steps.filterMap assignment?) : assign a ∈ steps := by
  obtain ⟨step, hstep, ha⟩ := List.mem_filterMap.1 ha
  cases step with
  | assign b => exact Option.some.inj ha ▸ hstep
  | sql s => cases ha

theorem sql_mem {s : SqlStep} (hs : s ∈ steps.filterMap statement?) : sql s ∈ steps := by
  obtain ⟨step, hstep, hs⟩ := List.mem_filterMap.1 hs
  cases step with
  | assign a => cases hs
  | sql u => exact Option.some.inj hs ▸ hstep

end PlanStep

namespace Rule

/-- The step that a rule is compiled to. -/
def step (registry : Registry) (r : Rule) : Except CompileError PlanStep :=
  match registry.get r.kind with
  | none => .error (.unsupportedKind r.kind r.planName)
  | some (.expression compile) => do pure (.assign (← compile r r.output))
  | some (.sql compile) => do pure (.sql (← compile r r.output))

/-- The step of a rule is what the compiler that is registered for its kind makes of it. -/
theorem step_eq_ok {registry : Registry} {r : Rule} {s : PlanStep} :
    r.step registry = .ok s ↔
      (∃ a compile, registry.get r.kind = some (.expression compile) ∧
        compile r r.output = .ok a ∧ s = .assign a) ∨
      ∃ u compile, registry.get r.kind = some (.sql compile) ∧
        compile r r.output = .ok u ∧ s = .sql u := by
  rw [step]
  cases registry.get r.kind with
  | none => simp
  | some compiler => cases compiler <;> simp [eq_comm (a := s)]

end Rule

/-- Whether the compiler that is registered for the kind of a rule makes steps in SQL. -/
def Registry.runsSql (registry : Registry) (r : Rule) : Bool :=
  match registry.get r.kind with
  | some (.sql _) => true
  | _ => false

namespace CompiledPlan

variable {registry : Registry} {plan : Plan} {p q : CompiledPlan} {rule : Rule} {step : PlanStep}

/-- A plan with a rule more, which is compiled to a step. -/
def behind (p : CompiledPlan) (rule : Rule) (step : PlanStep) : CompiledPlan :=
  ⟨p.provider, p.assignments ++ step.assignment?.toList, p.statements ++ step.statement?.toList,
    addOnce p.targetColumns rule.focusColumn.name,
    if rule.isTemporary then addOnce p.temporaryColumns rule.output else p.temporaryColumns⟩

/-- A rule more is its step behind the others, or what keeps it from being compiled. -/
theorem addRule_eq : addRule registry p rule = p.behind rule <$> rule.step registry := by
  rw [addRule, Rule.step]
  cases registry.get rule.kind with
  | none => rfl
  | some compiler =>
    cases compiler with
    | expression compile | sql compile =>
      cases hstep : compile rule rule.output with
      | error e => simp [addStep, hstep, bind, Except.bind, Functor.map, Except.map]
      | ok a =>
        simp [addStep, hstep, bind, Except.bind, pure, Except.pure, Functor.map, Except.map, behind,
          PlanStep.assignment?, PlanStep.statement?]

theorem addRule_eq_ok :
    addRule registry p rule = .ok q ↔
      ∃ step, rule.step registry = .ok step ∧ q = p.behind rule step := by
  rw [addRule_eq, map_eq_ok]
  simp only [eq_comm (a := q)]

/-- A plan with one more rule behind the others. -/
theorem build_concat {r : Rule} (hp : build registry plan = .ok p)
    (hr : r.step registry = .ok step) :
    build registry ⟨plan.provider, plan.rules ++ [r]⟩ = .ok (p.behind r step) := by
  have hlast : addRule registry p r = .ok (p.behind r step) := addRule_eq_ok.2 ⟨step, hr, rfl⟩
  rw [build, List.foldlM_append]
  refine bind_eq_ok.2 ⟨p, hp, ?_⟩
  rw [List.foldlM_cons, hlast]
  rfl

/-- Rules more are their steps behind the others, or what keeps the first of them from being
compiled that is refused. -/
theorem foldlM_addRule {rules : List Rule} :
    rules.foldlM (addRule registry) p =
      (fun steps => (rules.zip steps).foldl (fun p s => p.behind s.1 s.2) p) <$>
        rules.mapM (Rule.step registry) := by
  induction rules generalizing p with
  | nil => rfl
  | cons rule rules ih =>
    rw [List.foldlM_cons, List.mapM_cons, addRule_eq]
    cases rule.step registry with
    | error e => rfl
    | ok step =>
      change rules.foldlM (addRule registry) (p.behind rule step) = _
      rw [ih]
      cases rules.mapM (Rule.step registry) <;> rfl

/-- The compiled form of a plan, rule by rule. -/
theorem build_eq_ok :
    build registry plan = .ok p ↔ ∃ steps, plan.rules.mapM (Rule.step registry) = .ok steps ∧
      p = (plan.rules.zip steps).foldl (fun p s => p.behind s.1 s.2) (start plan.provider) := by
  rw [build, foldlM_addRule, map_eq_ok]
  simp only [eq_comm (a := p)]

/-- A plan is refused for the first of its rules that is. -/
theorem build_eq_error {e : CompileError} :
    build registry plan = .error e ↔
      ∃ before r after, plan.rules = before ++ r :: after ∧
        (∀ q ∈ before, ∃ s, q.step registry = .ok s) ∧ r.step registry = .error e := by
  rw [build, foldlM_addRule, map_eq_error, mapM_eq_error]

section Behind

variable {rules : List Rule} {steps : List PlanStep}

/-- Rules more, with the steps that they are compiled to. -/
theorem foldl_behind (hlen : rules.length = steps.length) :
    (rules.zip steps).foldl (fun p s => p.behind s.1 s.2) p =
      ⟨p.provider, p.assignments ++ steps.filterMap PlanStep.assignment?,
        p.statements ++ steps.filterMap PlanStep.statement?,
        (rules.map (·.focusColumn.name)).foldl addOnce p.targetColumns,
        ((rules.filter Rule.isTemporary).map Rule.output).foldl addOnce p.temporaryColumns⟩ := by
  induction steps generalizing rules p with
  | nil =>
    obtain rfl := List.length_eq_zero_iff.1 hlen
    simp
  | cons step steps ih =>
    cases rules with
    | nil => cases hlen
    | cons rule rules =>
      rw [List.zip_cons_cons, List.foldl_cons, ih (Nat.succ.inj hlen), behind, List.filter_cons]
      cases step <;> cases rule.isTemporary <;>
        simp [PlanStep.assignment?, PlanStep.statement?, List.filterMap_cons]

/-- Names put behind others unless they are among them are each at its first place. -/
theorem foldl_addOnce_nil (names : List String) : names.foldl addOnce [] = names.eraseDups := by
  induction names using List.reverseRecOn with
  | nil => rfl
  | append_singleton names name ih =>
    rw [List.foldl_concat, ih, List.eraseDups_append, addOnce]
    by_cases h : name ∈ names
    · simp [List.removeAll, h]
    · simp [List.removeAll, h]
      rfl

end Behind

/-- A compiled plan is put together of the steps of its rules. -/
theorem build_eq_assembled :
    build registry plan = .ok p ↔ ∃ steps,
      List.Forall₂ (fun r s => Rule.step registry r = .ok s) plan.rules steps ∧
        p = ⟨plan.provider,
          providerAssignment plan.provider :: steps.filterMap PlanStep.assignment?,
          steps.filterMap PlanStep.statement?, (plan.rules.map (·.focusColumn.name)).eraseDups,
          ((plan.rules.filter Rule.isTemporary).map Rule.output).eraseDups⟩ := by
  rw [build_eq_ok]
  refine exists_congr fun steps => ?_
  rw [mapM_eq_ok]
  refine and_congr_right fun hsteps => ?_
  rw [foldl_behind hsteps.length_eq, ← foldl_addOnce_nil, ← foldl_addOnce_nil]
  rfl

/-- A compiled plan is one of the provider of the plan. -/
theorem provider_of_build (h : build registry plan = .ok p) : p.provider = plan.provider := by
  obtain ⟨steps, _, rfl⟩ := build_eq_assembled.1 h
  rfl

/-- The steps of a compiled plan are those of its rules, in their order. -/
theorem steps_of_build (h : build registry plan = .ok p) : ∃ steps,
    List.Forall₂ (fun r s => Rule.step registry r = .ok s) plan.rules steps ∧
      p.assignments = providerAssignment plan.provider :: steps.filterMap PlanStep.assignment? ∧
      p.statements = steps.filterMap PlanStep.statement? := by
  obtain ⟨steps, hsteps, rfl⟩ := build_eq_assembled.1 h
  exact ⟨steps, hsteps, rfl, rfl⟩

section Steps

variable {rules : List Rule} {steps : List PlanStep}

/-- The rule that is compiled to a step of a plan. -/
theorem rule_of_step (h : List.Forall₂ (fun r s => Rule.step registry r = .ok s) rules steps)
    (hs : step ∈ steps) : ∃ r ∈ rules, Rule.step registry r = .ok step :=
  exists_of_mem_right h hs

theorem rule_of_assignment {a : Assignment}
    (h : List.Forall₂ (fun r s => Rule.step registry r = .ok s) rules steps)
    (ha : a ∈ steps.filterMap PlanStep.assignment?) :
    ∃ r ∈ rules, Rule.step registry r = .ok (.assign a) :=
  rule_of_step h (PlanStep.assign_mem ha)

theorem rule_of_statement {s : SqlStep}
    (h : List.Forall₂ (fun r s => Rule.step registry r = .ok s) rules steps)
    (hs : s ∈ steps.filterMap PlanStep.statement?) :
    ∃ r ∈ rules, Rule.step registry r = .ok (.sql s) :=
  rule_of_step h (PlanStep.sql_mem hs)

end Steps

/-! ### Any registry -/

section Registry

variable {rules : List Rule} {steps : List PlanStep}

/-- The steps that fill columns, beside the rules whose compilers make such steps. -/
theorem forall₂_assignments
    (h : List.Forall₂ (fun r s => Rule.step registry r = .ok s) rules steps) :
    List.Forall₂ (fun r a => ∃ compile, registry.get r.kind = some (.expression compile) ∧
        compile r r.output = .ok a)
      (rules.filter fun r => !registry.runsSql r) (steps.filterMap PlanStep.assignment?) := by
  induction h with
  | nil => exact .nil
  | @cons r s rules steps hs _ ih =>
    obtain ⟨a, compile, hget, ha, rfl⟩ | ⟨u, compile, hget, -, rfl⟩ := Rule.step_eq_ok.1 hs
    · rw [List.filter_cons_of_pos (by simp [Registry.runsSql, hget])]
      exact .cons ⟨compile, hget, ha⟩ ih
    · rw [List.filter_cons_of_neg (by simp [Registry.runsSql, hget])]
      exact ih

/-- The steps in SQL, beside the rules whose compilers make such steps. -/
theorem forall₂_statements
    (h : List.Forall₂ (fun r s => Rule.step registry r = .ok s) rules steps) :
    List.Forall₂ (fun r s => ∃ compile, registry.get r.kind = some (.sql compile) ∧
        compile r r.output = .ok s)
      (rules.filter registry.runsSql) (steps.filterMap PlanStep.statement?) := by
  induction h with
  | nil => exact .nil
  | @cons r s rules steps hs _ ih =>
    obtain ⟨a, compile, hget, -, rfl⟩ | ⟨u, compile, hget, hu, rfl⟩ := Rule.step_eq_ok.1 hs
    · rw [List.filter_cons_of_neg (by simp [Registry.runsSql, hget])]
      exact ih
    · rw [List.filter_cons_of_pos (by simp [Registry.runsSql, hget])]
      exact .cons ⟨compile, hget, hu⟩ ih

/-- **A plan is compiled as a whole or not at all, and none of its rules is lost.**  It is compiled
if a compiler is registered for each rule that accepts it, and is refused for the first rule
otherwise.  The compilers, and not the kinds, tell which rules fill columns by expressions and which
run SQL; each rule does one of the two, in the order of the rules. -/
theorem build_dispatches (registry : Registry) (plan : Plan) :
    ((∃ p, build registry plan = .ok p) ↔ ∀ r ∈ plan.rules, ∃ s, r.step registry = .ok s) ∧
    (∀ e, build registry plan = .error e ↔ ∃ before r after, plan.rules = before ++ r :: after ∧
      (∀ q ∈ before, ∃ s, q.step registry = .ok s) ∧ r.step registry = .error e) ∧
    ∀ p, build registry plan = .ok p →
      p.provider = plan.provider ∧
      (∃ assignments, p.assignments = providerAssignment plan.provider :: assignments ∧
        List.Forall₂ (fun r a => ∃ compile, registry.get r.kind = some (.expression compile) ∧
            compile r r.output = .ok a)
          (plan.rules.filter fun r => !registry.runsSql r) assignments) ∧
      List.Forall₂ (fun r s => ∃ compile, registry.get r.kind = some (.sql compile) ∧
          compile r r.output = .ok s)
        (plan.rules.filter registry.runsSql) p.statements ∧
      p.targetColumns = (plan.rules.map (·.focusColumn.name)).eraseDups ∧
      p.temporaryColumns = ((plan.rules.filter Rule.isTemporary).map Rule.output).eraseDups := by
  refine ⟨?_, fun e => build_eq_error, fun p hp => ?_⟩
  · simp only [build_eq_ok, ← exists_mapM_eq_ok]
    exact ⟨fun ⟨_, steps, hsteps, _⟩ => ⟨steps, hsteps⟩, fun ⟨steps, hsteps⟩ =>
      ⟨_, steps, hsteps, rfl⟩⟩
  · obtain ⟨steps, hsteps, rfl⟩ := build_eq_assembled.1 hp
    exact ⟨rfl, ⟨_, rfl, forall₂_assignments hsteps⟩, forall₂_statements hsteps, rfl, rfl⟩

/-- A registry that runs SQL for renames and nothing else but static values: what counts is the
compiler of a rule. -/
example :
    let ask : Compile.Compiler SqlStep := fun r output => .ok (.query (r.planName ++ output))
    let registry := (Registry.empty.register .renameColumn (.sql ask)).register .staticValue
      (.expression Compile.staticValue)
    let rules : List Rule :=
      [⟨"a", .region, some "x", .renameColumn, .none, some "tmp", 0, 0⟩,
        ⟨"b", .tags, none, .staticValue, .staticValue (.text "v"), none, 0, 1⟩,
        ⟨"c", .region, some "y", .renameColumn, .none, some "tmp", 0, 2⟩]
    build registry ⟨"aws", rules⟩ = .ok ⟨"aws",
      [providerAssignment "aws", .column "Tags" (.literal (.text "v"))],
      [.query "atmp_Region", .query "ctmp_Region"], ["Region", "Tags"], ["tmp_Region"]⟩ := rfl

end Registry

end CompiledPlan

/-! ### The standard registry -/

namespace Compile

variable {r : Rule} {output n : String} {a : Assignment} {s : SqlStep}

theorem source_eq_ok : source r = .ok n ↔ r.sourceColumn = some n := by
  rw [source]
  cases r.sourceColumn <;> simp [invalid]

theorem rename_eq_ok :
    rename r output = .ok a ↔ ∃ n, r.sourceColumn = some n ∧ .column output (.column n) = a := by
  simp [rename, source_eq_ok]

theorem staticValue_eq_ok : staticValue r output = .ok a ↔
    ∃ value, r.args = .staticValue value ∧ .column output (.literal value) = a := by
  rw [staticValue]
  cases r.args <;> simp [mismatched, invalid]

theorem mapValues_eq_ok : mapValues r output = .ok a ↔
    ∃ args n, r.args = .mapValues args ∧ r.sourceColumn = some n ∧
      .column output (mappedScalar args (.apply (.cast .text false) [.column n])) = a := by
  rw [mapValues]
  cases r.args <;> simp [mismatched, invalid, source_eq_ok]

theorem unnest_eq_ok : unnest r output = .ok a ↔ ∃ n, r.sourceColumn = some n ∧
    (r.args = .unnest none ∧ .expanded output n = a ∨
      ∃ name, r.args = .unnest (some name) ∧ .field output n name = a) := by
  rw [unnest]
  cases r.args with
  | unnest field => cases field <;> simp [source_eq_ok]
  | _ => simp [mismatched, invalid]

theorem defaultIfMissing_eq_ok : defaultIfMissing r output = .ok a ↔
    ∃ value n, r.args = .defaultValue value ∧ r.sourceColumn = some n ∧
      .defaultIfMissing output n value = a := by
  rw [defaultIfMissing]
  cases r.args <;> simp [mismatched, invalid, source_eq_ok]

theorem setDtype_eq_ok : setDtype r output = .ok a ↔
    ∃ t n, r.args = .setDtype t ∧ r.sourceColumn = some n ∧
      .column output (.apply (.cast (.ofTarget t) false) [.column n]) = a := by
  rw [setDtype]
  cases r.args <;> simp [mismatched, invalid, source_eq_ok]

theorem assigned_eq_ok {name : String} {ambiguous : AmbiguousTime} :
    assigned r output name ambiguous = .ok a ↔ ∃ z, zone r name = .ok z ∧
      ∃ n, r.sourceColumn = some n ∧
        .column output (.apply (.assignZone z ambiguous) [.column n]) = a := by
  simp [assigned, source_eq_ok]

theorem assignTimezone_eq_ok : assignTimezone r output = .ok a ↔
    ∃ args, r.args = .timezone args ∧ assigned r output args.timezone args.ambiguous = .ok a := by
  rw [assignTimezone]
  cases r.args <;> simp [mismatched, invalid]

theorem convertTimezone_eq_ok : convertTimezone r output = .ok a ↔
    ∃ args, r.args = .timezone args ∧ ∃ z, zone r args.timezone = .ok z ∧
      ∃ n, r.sourceColumn = some n ∧ .column output (.apply (.convertZone z) [.column n]) = a := by
  rw [convertTimezone]
  cases r.args <;> simp [mismatched, invalid, source_eq_ok]

theorem parseDatetime_eq_ok : parseDatetime r output = .ok a ↔
    ∃ args, r.args = .parseDatetime args ∧ ∃ z, args.timezone.mapM (zone r) = .ok z ∧
      ∃ n, r.sourceColumn = some n ∧ .column output (match args.format with
        | some format => .apply (.readDatetime ⟨format, z, args.ambiguous, args.strict⟩) [.column n]
        | none => .inferred ⟨z, args.ambiguous, args.strict⟩ (.column n)) = a := by
  rw [parseDatetime]
  cases r.args with
  | parseDatetime args =>
    constructor
    · intro h
      obtain ⟨z, hz, h⟩ := bind_eq_ok.1 h
      obtain ⟨n, hn, ha⟩ := bind_eq_ok.1 h
      exact ⟨args, rfl, z, hz, n, source_eq_ok.1 hn, pure_eq_ok.1 ha⟩
    · rintro ⟨_, ⟨⟩, z, hz, n, hn, ha⟩
      exact bind_eq_ok.2 ⟨z, hz, bind_eq_ok.2 ⟨n, source_eq_ok.2 hn, pure_eq_ok.2 ha⟩⟩
  | _ => simp [mismatched, invalid]

theorem sqlCondition_eq_ok : sqlCondition r output = .ok s ↔
    ∃ args, r.args = .sqlCondition args ∧
      .condition output (args.conditions.map Text.trim) args.default.sql = s := by
  rw [sqlCondition]
  cases r.args <;> simp [mismatched, invalid]

end Compile

namespace Rule

variable {r : Rule} {a : Assignment} {s : SqlStep}

/-- What a rule fills columns with in the standard registry, kind by kind. -/
inductive Fills (r : Rule) : Assignment → Prop
  | renamed {n} : r.kind = .renameColumn → r.sourceColumn = some n →
      Fills r (.column r.output (.column n))
  | constant {value} : r.kind = .staticValue → r.args = .staticValue value →
      Fills r (.column r.output (.literal value))
  | mapped {args n} : r.kind = .mapValues → r.args = .mapValues args → r.sourceColumn = some n →
      Fills r (.column r.output
        (Compile.mappedScalar args (.apply (.cast .text false) [.column n])))
  | field {name n} : r.kind = .unnest → r.args = .unnest (some name) → r.sourceColumn = some n →
      Fills r (.field r.output n name)
  | expanded {n} : r.kind = .unnest → r.args = .unnest none → r.sourceColumn = some n →
      Fills r (.expanded r.output n)
  | defaulted {value n} : r.kind = .applyDefaultIfColumnMissing → r.args = .defaultValue value →
      r.sourceColumn = some n → Fills r (.defaultIfMissing r.output n value)
  | cast {t n} : r.kind = .setColumnDtypes → r.args = .setDtype t → r.sourceColumn = some n →
      Fills r (.column r.output (.apply (.cast (.ofTarget t) false) [.column n]))
  | assignedUtc {z n} : r.kind = .assignUtcTimezone → Compile.zone r "UTC" = .ok z →
      r.sourceColumn = some n →
      Fills r (.column r.output (.apply (.assignZone z .null) [.column n]))
  | assigned {args z n} : r.kind = .assignTimezone → r.args = .timezone args →
      Compile.zone r args.timezone = .ok z → r.sourceColumn = some n →
      Fills r (.column r.output (.apply (.assignZone z args.ambiguous) [.column n]))
  | converted {args z n} : r.kind = .convertTimezone → r.args = .timezone args →
      Compile.zone r args.timezone = .ok z → r.sourceColumn = some n →
      Fills r (.column r.output (.apply (.convertZone z) [.column n]))
  | read {args z n} {format : String} : r.kind = .parseDatetime → r.args = .parseDatetime args →
      args.timezone.mapM (Compile.zone r) = .ok z → r.sourceColumn = some n →
      args.format = some format →
      Fills r (.column r.output
        (.apply (.readDatetime ⟨format, z, args.ambiguous, args.strict⟩) [.column n]))
  | inferred {args z n} : r.kind = .parseDatetime → r.args = .parseDatetime args →
      args.timezone.mapM (Compile.zone r) = .ok z → r.sourceColumn = some n → args.format = none →
      Fills r (.column r.output (.inferred ⟨z, args.ambiguous, args.strict⟩ (.column n)))

/-- What a rule fills columns with is what the compiler of its kind makes of it. -/
theorem Fills.compiled (h : r.Fills a) : ∃ compile,
    Registry.standardCompiler r.kind = some (.expression compile) ∧ compile r r.output = .ok a := by
  cases h with
  | renamed hk hn => exact ⟨_, by rw [hk]; rfl, Compile.rename_eq_ok.2 ⟨_, hn, rfl⟩⟩
  | constant hk ha => exact ⟨_, by rw [hk]; rfl, Compile.staticValue_eq_ok.2 ⟨_, ha, rfl⟩⟩
  | mapped hk ha hn => exact ⟨_, by rw [hk]; rfl, Compile.mapValues_eq_ok.2 ⟨_, _, ha, hn, rfl⟩⟩
  | field hk ha hn =>
    exact ⟨_, by rw [hk]; rfl, Compile.unnest_eq_ok.2 ⟨_, hn, .inr ⟨_, ha, rfl⟩⟩⟩
  | expanded hk ha hn => exact ⟨_, by rw [hk]; rfl, Compile.unnest_eq_ok.2 ⟨_, hn, .inl ⟨ha, rfl⟩⟩⟩
  | defaulted hk ha hn =>
    exact ⟨_, by rw [hk]; rfl, Compile.defaultIfMissing_eq_ok.2 ⟨_, _, ha, hn, rfl⟩⟩
  | cast hk ha hn => exact ⟨_, by rw [hk]; rfl, Compile.setDtype_eq_ok.2 ⟨_, _, ha, hn, rfl⟩⟩
  | assignedUtc hk hz hn =>
    exact ⟨Compile.assignUtc, by rw [hk]; rfl, Compile.assigned_eq_ok.2 ⟨_, hz, _, hn, rfl⟩⟩
  | assigned hk ha hz hn =>
    exact ⟨_, by rw [hk]; rfl,
      Compile.assignTimezone_eq_ok.2 ⟨_, ha, Compile.assigned_eq_ok.2 ⟨_, hz, _, hn, rfl⟩⟩⟩
  | converted hk ha hz hn =>
    exact ⟨_, by rw [hk]; rfl, Compile.convertTimezone_eq_ok.2 ⟨_, ha, _, hz, _, hn, rfl⟩⟩
  | read hk ha hz hn hf | inferred hk ha hz hn hf =>
    exact ⟨_, by rw [hk]; rfl, Compile.parseDatetime_eq_ok.2 ⟨_, ha, _, hz, _, hn, by rw [hf]⟩⟩

/-- Each kind that fills columns has a compiler of its own. -/
theorem fills_of_compiled {compile : Compile.Compiler Assignment}
    (hcompile : Registry.standardCompiler r.kind = some (.expression compile))
    (ha : compile r r.output = .ok a) : r.Fills a := by
  cases hk : r.kind <;> simp only [hk, Registry.standardCompiler, Option.some.injEq,
    RuleCompiler.expression.injEq, reduceCtorEq] at hcompile <;> subst hcompile
  case renameColumn =>
    obtain ⟨n, hn, rfl⟩ := Compile.rename_eq_ok.1 ha
    exact .renamed hk hn
  case staticValue =>
    obtain ⟨value, hargs, rfl⟩ := Compile.staticValue_eq_ok.1 ha
    exact .constant hk hargs
  case mapValues =>
    obtain ⟨args, n, hargs, hn, rfl⟩ := Compile.mapValues_eq_ok.1 ha
    exact .mapped hk hargs hn
  case unnest =>
    obtain ⟨n, hn, ⟨hargs, rfl⟩ | ⟨name, hargs, rfl⟩⟩ := Compile.unnest_eq_ok.1 ha
    · exact .expanded hk hargs hn
    · exact .field hk hargs hn
  case applyDefaultIfColumnMissing =>
    obtain ⟨value, n, hargs, hn, rfl⟩ := Compile.defaultIfMissing_eq_ok.1 ha
    exact .defaulted hk hargs hn
  case setColumnDtypes =>
    obtain ⟨t, n, hargs, hn, rfl⟩ := Compile.setDtype_eq_ok.1 ha
    exact .cast hk hargs hn
  case assignUtcTimezone =>
    obtain ⟨z, hz, n, hn, rfl⟩ := Compile.assigned_eq_ok.1 ha
    exact .assignedUtc hk hz hn
  case assignTimezone =>
    obtain ⟨args, hargs, hassigned⟩ := Compile.assignTimezone_eq_ok.1 ha
    obtain ⟨z, hz, n, hn, rfl⟩ := Compile.assigned_eq_ok.1 hassigned
    exact .assigned hk hargs hz hn
  case convertTimezone =>
    obtain ⟨args, hargs, z, hz, n, hn, rfl⟩ := Compile.convertTimezone_eq_ok.1 ha
    exact .converted hk hargs hz hn
  case parseDatetime =>
    obtain ⟨args, hargs, z, hz, n, hn, rfl⟩ := Compile.parseDatetime_eq_ok.1 ha
    cases hformat : args.format with
    | none => exact .inferred hk hargs hz hn hformat
    | some format => exact .read hk hargs hz hn hformat

/-- A rule is compiled to a step that fills columns if and only if that step is the one of its
kind. -/
theorem step_eq_assign : r.step .standard = .ok (.assign a) ↔ r.Fills a := by
  rw [step_eq_ok]
  constructor
  · rintro (⟨_, compile, hcompile, ha, ⟨⟩⟩ | ⟨_, _, _, _, ⟨⟩⟩)
    exact fills_of_compiled hcompile ha
  · intro h
    obtain ⟨compile, hcompile, ha⟩ := h.compiled
    exact .inl ⟨a, compile, hcompile, ha, rfl⟩

/-- A step in SQL that is no query is a condition on the column of the rule. -/
theorem condition_of_step (h : r.step .standard = .ok (.sql s)) (hk : r.kind ≠ .sqlQuery) :
    ∃ args, r.args = .sqlCondition args ∧
      s = .condition r.output (args.conditions.map Text.trim) args.default.sql := by
  obtain ⟨_, _, _, _, ⟨⟩⟩ | ⟨_, compile, hcompile, hs, ⟨⟩⟩ := step_eq_ok.1 h
  cases hkind : r.kind <;> simp only [hkind, Registry.standard, Registry.standardCompiler,
    Option.some.injEq, RuleCompiler.sql.injEq, reduceCtorEq] at hcompile <;> subst hcompile
  case sqlQuery => exact absurd hkind hk
  case sqlCondition =>
    obtain ⟨args, hargs, rfl⟩ := Compile.sqlCondition_eq_ok.1 hs
    exact ⟨args, hargs, rfl⟩

theorem step_of_condition {args : SqlConditionArgs} (hk : r.kind = .sqlCondition)
    (hargs : r.args = .sqlCondition args) : r.step .standard =
      .ok (.sql (.condition r.output (args.conditions.map Text.trim) args.default.sql)) :=
  step_eq_ok.2 (.inr ⟨_, Compile.sqlCondition, by rw [hk]; rfl,
    Compile.sqlCondition_eq_ok.2 ⟨args, hargs, rfl⟩, rfl⟩)

end Rule

end FocusBilling
