import FocusBilling.Proofs.Compilation
import FocusBilling.Proofs.Files

/-!
# Rules that have passed their check

The check of a draft looks at all that its compiler asks for, apart from the names of zones and
from the one kind that has no compiler.  So a plan of checked rules fails to compile for these two
causes only, and at the first rule that has one.

* `RuleArgs.Fits`, `Rule.Sound` : arguments of the shape of a kind, and a source column where the
  kind needs one;
* `Rule.sound_of_validate` : what the check of a draft grants;
* `Rule.zone?`, `Rule.refusal?` : the zone that a rule names, and why a sound rule is refused;
* `Rule.step_eq_error_iff` : the compilers refuse a sound rule for that cause only;
* `CompiledPlan.build_checked` : **which plans of checked rules compile, and why others do not.**
-/

namespace FocusBilling

/-! ### What the check grants -/

/-- Arguments of the shape that a kind asks for. -/
inductive RuleArgs.Fits : RuleKind → RuleArgs → Prop where
  | renameColumn : Fits .renameColumn .none
  | assignUtcTimezone : Fits .assignUtcTimezone .none
  | assignTimezone (args : TimezoneArgs) : Fits .assignTimezone (.timezone args)
  | convertTimezone (args : TimezoneArgs) : Fits .convertTimezone (.timezone args)
  | parseDatetime (args : ParseDatetimeArgs) : Fits .parseDatetime (.parseDatetime args)
  | staticValue (value : Literal) : Fits .staticValue (.staticValue value)
  | mapValues (args : MapValuesArgs) : Fits .mapValues (.mapValues args)
  | unnest (field : Option String) : Fits .unnest (.unnest field)
  | defaultValue (value : Literal) : Fits .applyDefaultIfColumnMissing (.defaultValue value)
  | setDtype (dtype : TargetType) : Fits .setColumnDtypes (.setDtype dtype)
  | sqlCondition (args : SqlConditionArgs) : Fits .sqlCondition (.sqlCondition args)
  | sqlQuery (query : String) : Fits .sqlQuery (.sqlQuery query)
  | lookup (value : Document) : Fits .lookup (.lookup value)

namespace Rule

/-- What a compiler asks of a rule, whatever the names in it. -/
structure Sound (r : Rule) : Prop where
  /-- The arguments are those of the kind. -/
  fits : r.args.Fits r.kind
  /-- There is a source column if the kind reads one. -/
  source : r.kind.needsSource = true → ∃ s, r.sourceColumn = some s

/-- What the check of arguments grants. -/
theorem fits_of_argsOf {kind : RuleKind} {raw : Option Document} {args : RuleArgs}
    (h : RuleDraft.argsOf kind raw = .ok args) : args.Fits kind := by
  cases kind with
  | renameColumn | assignUtcTimezone | lookup =>
    obtain rfl := Except.ok.inj h
    constructor
  | staticValue | parseDatetime | unnest | applyDefaultIfColumnMissing | setColumnDtypes =>
    obtain ⟨_, _, h⟩ := bind_eq_ok.1 h
    obtain rfl := pure_eq_ok.1 h
    constructor
  | assignTimezone | convertTimezone | mapValues | sqlQuery =>
    obtain ⟨_, _, h⟩ := bind_eq_ok.1 h
    split at h
    · cases h
    · obtain rfl := pure_eq_ok.1 h
      constructor
  | sqlCondition =>
    obtain ⟨_, _, h⟩ := bind_eq_ok.1 h
    split at h
    · cases h
    · split at h
      · cases h
      · obtain rfl := pure_eq_ok.1 h
        constructor

/-- What the check of a draft grants. -/
theorem sound_of_validate {d : RuleDraft} {r : Rule} (h : d.validate = .ok r) : r.Sound := by
  rw [RuleDraft.validate] at h
  split at h
  next kind _ _ =>
    split at h
    next source args hsource hargs =>
      obtain rfl := Except.ok.inj h
      refine ⟨fits_of_argsOf (mapError_eq_ok.1 hargs), fun hneeds => ?_⟩
      rw [RuleDraft.checkSource] at hsource
      split at hsource
      next => cases hsource
      next hfilled =>
        obtain rfl := Except.ok.inj hsource
        refine Option.ne_none_iff_exists'.1 fun hnone => hfilled ?_
        change kind.needsSource = true at hneeds
        change RuleDraft.filled d.sourceColumn = none at hnone
        rw [hneeds, hnone]
        rfl
    next => cases h
  next => cases h

/-- The zone that a rule names. -/
def zone? (r : Rule) : Option String :=
  match r.kind, r.args with
  | .assignTimezone, .timezone args | .convertTimezone, .timezone args => some args.timezone
  | .parseDatetime, .parseDatetime args => args.timezone
  | _, _ => none

/-- The zone that a rule names, if there is no such zone. -/
def unknownZone? (r : Rule) : Option String :=
  r.zone?.filter fun zone => !ZoneName.isKnown (Text.trim zone)

/-- Why a sound rule cannot be compiled. -/
def refusal? (r : Rule) : Option CompileError :=
  if r.kind = .lookup then some (.unsupportedKind .lookup r.planName)
  else r.unknownZone?.map fun zone => .invalidArgs r.planName (.unknownTimezone zone)

end Rule

/-! ### Names of zones -/

namespace ZoneName

/-- Names, one after another, that stand in a text. -/
def StandsIn (names s : String) : Prop :=
  ∃ before after, s.toList = before ++ (names.toList ++ after)

theorem standsIn_last (names s : String) : StandsIn names (s ++ names) :=
  ⟨s.toList, [], by simp⟩

theorem standsIn_pair (names names' s : String) :
    StandsIn (names ++ names') (s ++ names ++ names') :=
  ⟨s.toList, [], by simp⟩

theorem StandsIn.append {names s : String} (h : StandsIn names s) (t : String) :
    StandsIn names (s ++ t) := by
  obtain ⟨before, after, hs⟩ := h
  exact ⟨before, after ++ t.toList, by rw [String.toList_append, hs]; simp⟩

/-- A name with others on both sides is one of the database if they stand in its list. -/
theorem mem_known_of_standsIn {names name : String} (before after : List Char)
    (h : StandsIn names namesText)
    (hnames : names.toList = before ++ ' ' :: (name.toList ++ ' ' :: after))
    (hname : ' ' ∉ name.toList) : name ∈ known := by
  obtain ⟨first, last, htext⟩ := h
  have hpieces : namesText.toList =
      (first ++ before) ++ ' ' :: (name.toList ++ ' ' :: (after ++ last)) := by
    rw [htext, hnames]
    simp
  rw [known, hpieces, Text.splitOn_append, Text.splitOn_append, Text.splitOn_of_not_mem hname]
  simp

theorem utc_mem_known : "UTC" ∈ known := by
  have hlast : StandsIn "US/Mountain US/Pacific US/Samoa UTC Universal W-SU WET Zulu" namesText :=
    standsIn_last ..
  exact mem_known_of_standsIn "US/Mountain US/Pacific US/Samoa".toList
    "Universal W-SU WET Zulu".toList hlast (by decide) (by decide)

theorem utc_isKnown : isKnown (Text.trim "UTC") = true := by
  have htrim : Text.trim "UTC" = "UTC" := by decide
  rw [htrim, isKnown, List.contains_iff_mem.2 utc_mem_known]
  simp

/-- No name of the database has a blank in it. -/
theorem not_mem_known {name : String} (h : ' ' ∈ name.toList) : name ∉ known := by
  intro hname
  obtain ⟨piece, hpiece, rfl⟩ := List.mem_map.1 hname
  rw [String.toList_ofList] at h
  exact Text.not_mem_of_mem_splitOn hpiece h

end ZoneName

/-! ### What the compilers make of it -/

namespace Compile

variable {r : Rule} {name : String}

theorem zone_of_known (h : ZoneName.isKnown (Text.trim name) = true) :
    Compile.zone r name = .ok (Text.trim name) := if_pos h

theorem zone_of_unknown (h : ZoneName.isKnown (Text.trim name) = false) :
    Compile.zone r name = .error (.invalidArgs r.planName (.unknownTimezone name)) :=
  if_neg (by simp [h])

end Compile

namespace Rule

variable {r : Rule} {e : CompileError} {zone : String}

theorem step_of_unknownZone (hr : r.Sound) (h : r.unknownZone? = some zone) :
    r.step .standard = .error (.invalidArgs r.planName (.unknownTimezone zone)) := by
  obtain ⟨hzone, hknown⟩ := Option.filter_eq_some_iff.1 h
  have hunknown : ZoneName.isKnown (Text.trim zone) = false := by simpa using hknown
  have hcompile := Compile.zone_of_unknown (r := r) hunknown
  obtain ⟨planName, focusColumn, sourceColumn, kind, args, columnPrefix, dimensionId, priority⟩ := r
  obtain ⟨fits, -⟩ := hr
  cases fits with
  | assignTimezone args | convertTimezone args =>
    obtain rfl := Option.some.inj hzone
    simp only [step, Registry.standard, Registry.standardCompiler, Compile.assignTimezone,
      Compile.assigned, Compile.convertTimezone, hcompile]
    rfl
  | parseDatetime args =>
    replace hzone : args.timezone = some zone := hzone
    simp only [step, Registry.standard, Registry.standardCompiler, Compile.parseDatetime, hzone,
      Option.mapM_some, hcompile]
    rfl
  | _ => cases hzone

theorem step_of_sound (hr : r.Sound) (hkind : r.kind ≠ .lookup) (h : r.unknownZone? = none) :
    ∃ s, r.step .standard = .ok s := by
  have hcompile : ∀ zone, r.zone? = some zone → Compile.zone r zone = .ok (Text.trim zone) := by
    intro zone hzone
    rw [unknownZone?, hzone] at h
    exact Compile.zone_of_known (by simpa using h)
  have hutc : Compile.zone r "UTC" = .ok (Text.trim "UTC") :=
    Compile.zone_of_known ZoneName.utc_isKnown
  obtain ⟨planName, focusColumn, sourceColumn, kind, args, columnPrefix, dimensionId, priority⟩ := r
  obtain ⟨fits, source⟩ := hr
  cases fits with
  | lookup value => exact absurd rfl hkind
  | staticValue | sqlCondition | sqlQuery => exact ⟨_, rfl⟩
  | renameColumn | mapValues | unnest | defaultValue | setDtype =>
    obtain ⟨s, rfl⟩ := source rfl
    exact ⟨_, rfl⟩
  | assignUtcTimezone =>
    obtain ⟨s, rfl⟩ := source rfl
    exact ⟨_, step_eq_assign.2 (.assignedUtc rfl hutc rfl)⟩
  | assignTimezone args =>
    obtain ⟨s, rfl⟩ := source rfl
    exact ⟨_, step_eq_assign.2 (.assigned rfl rfl (hcompile _ rfl) rfl)⟩
  | convertTimezone args =>
    obtain ⟨s, rfl⟩ := source rfl
    exact ⟨_, step_eq_assign.2 (.converted rfl rfl (hcompile _ rfl) rfl)⟩
  | parseDatetime args =>
    obtain ⟨s, rfl⟩ := source rfl
    simp only [step, Registry.standard, Registry.standardCompiler, Compile.parseDatetime]
    cases hzone : args.timezone with
    | none => exact ⟨_, rfl⟩
    | some zone =>
      rw [Option.mapM_some, hcompile _ hzone]
      exact ⟨_, rfl⟩

/-- A sound rule is refused for its cause only. -/
theorem step_eq_error_iff (hr : r.Sound) :
    r.step .standard = .error e ↔ r.refusal? = some e := by
  rw [refusal?]
  split
  next hkind =>
    simp [step, hkind, Registry.standard, Registry.standardCompiler]
  next hkind =>
    cases hzone : r.unknownZone? with
    | none =>
      obtain ⟨s, hs⟩ := step_of_sound hr hkind hzone
      simp [hs]
    | some zone => simp [step_of_unknownZone hr hzone]

theorem refusal?_eq_some_iff :
    r.refusal? = some e ↔
      (r.kind = .lookup ∧ e = .unsupportedKind .lookup r.planName) ∨
        ∃ zone, r.zone? = some zone ∧ ZoneName.isKnown (Text.trim zone) = false ∧
          e = .invalidArgs r.planName (.unknownTimezone zone) := by
  rw [refusal?]
  split
  next hkind =>
    have hzone : r.zone? = none := by simp [zone?, hkind]
    simp [hkind, hzone, eq_comm (a := e)]
  next hkind =>
    simp [unknownZone?, Option.filter_eq_some_iff, hkind, eq_comm (a := e), and_assoc]

theorem exists_step_iff (hr : r.Sound) :
    (∃ s, r.step .standard = .ok s) ↔ r.refusal? = none := by
  cases hstep : r.step .standard with
  | error e => simp [(step_eq_error_iff hr).1 hstep]
  | ok s =>
    refine iff_of_true ⟨s, rfl⟩ (Option.eq_none_iff_forall_ne_some.2 fun e he => ?_)
    cases hstep.symm.trans ((step_eq_error_iff hr).2 he)

end Rule

namespace CompiledPlan

variable {registry : Registry} {p : CompiledPlan} {r : Rule} {e : CompileError} {plan : Plan}

/-- A rule that is not compiled to a step is not added to a plan, for the same cause. -/
theorem addRule_eq_error_iff : addRule registry p r = .error e ↔ r.step registry = .error e := by
  rw [addRule_eq, map_eq_error]

/-- A plan of sound rules is refused for the first one that is refused. -/
theorem build_eq_error_iff (h : ∀ r ∈ plan.rules, r.Sound) :
    build .standard plan = .error e ↔ plan.rules.findSome? Rule.refusal? = some e := by
  rw [build_eq_error, List.findSome?_eq_some_iff]
  refine exists_congr fun before => exists_congr fun r => exists_congr fun after =>
    and_congr_right fun hrules => ?_
  have hsound : ∀ q ∈ before ++ r :: after, q.Sound := hrules ▸ h
  rw [Rule.step_eq_error_iff (hsound r (by simp)), and_comm]
  exact and_congr_right fun _ => forall₂_congr fun q hq =>
    Rule.exists_step_iff (hsound q (List.mem_append_left _ hq))

/-- **Which plans of checked rules compile, and why others do not.**  A plan of checked rules is
refused for the first rule that is a lookup or names a zone that is unknown, and for no other cause;
it compiles if there is no such rule.  No checked rule lacks a source column that its compiler needs
or has arguments of another kind. -/
theorem build_checked (h : ∀ r ∈ plan.rules, ∃ d : RuleDraft, d.validate = .ok r) :
    (∀ e, build .standard plan = .error e ↔ plan.rules.findSome? Rule.refusal? = some e) ∧
    (∀ e, build .standard plan = .error e → ∃ r ∈ plan.rules,
      (r.kind = .lookup ∧ e = .unsupportedKind .lookup r.planName) ∨
        ∃ zone, r.zone? = some zone ∧ ZoneName.isKnown (Text.trim zone) = false ∧
          e = .invalidArgs r.planName (.unknownTimezone zone)) ∧
    ((∃ e, build .standard plan = .error e) ↔ ∃ r ∈ plan.rules, r.kind = .lookup ∨
      ∃ zone, r.zone? = some zone ∧ ZoneName.isKnown (Text.trim zone) = false) ∧
    ∀ r ∈ plan.rules, ∀ p name,
      addRule .standard p r ≠ .error (.invalidArgs name .sourceRequired) ∧
        ∀ kind, addRule .standard p r ≠ .error (.invalidArgs name (.mismatched kind)) := by
  have hsound : ∀ r ∈ plan.rules, r.Sound := fun r hr =>
    let ⟨_, hd⟩ := h r hr
    Rule.sound_of_validate hd
  have hbuild := fun e => build_eq_error_iff (e := e) hsound
  refine ⟨hbuild, fun e he => ?_, ⟨?_, ?_⟩, fun r hr p name => ?_⟩
  · obtain ⟨r, hr, hrefused⟩ := List.exists_of_findSome?_eq_some ((hbuild e).1 he)
    exact ⟨r, hr, Rule.refusal?_eq_some_iff.1 hrefused⟩
  · rintro ⟨e, he⟩
    obtain ⟨r, hr, hrefused⟩ := List.exists_of_findSome?_eq_some ((hbuild e).1 he)
    obtain ⟨hkind, -⟩ | ⟨zone, hzone, hknown, -⟩ := Rule.refusal?_eq_some_iff.1 hrefused
    · exact ⟨r, hr, .inl hkind⟩
    · exact ⟨r, hr, .inr ⟨zone, hzone, hknown⟩⟩
  · rintro ⟨r, hr, hcause⟩
    obtain ⟨e, hrefused⟩ : ∃ e, r.refusal? = some e := by
      obtain hkind | ⟨zone, hzone, hknown⟩ := hcause
      · exact ⟨_, Rule.refusal?_eq_some_iff.2 (.inl ⟨hkind, rfl⟩)⟩
      · exact ⟨_, Rule.refusal?_eq_some_iff.2 (.inr ⟨zone, hzone, hknown, rfl⟩)⟩
    have hfound : (plan.rules.findSome? Rule.refusal?).isSome = true :=
      List.findSome?_isSome_iff.2 ⟨r, hr, by rw [hrefused]; rfl⟩
    obtain ⟨e, hfirst⟩ := Option.isSome_iff_exists.1 hfound
    exact ⟨e, (hbuild e).2 hfirst⟩
  · have hcause : ∀ e, addRule .standard p r = .error e → r.refusal? = some e := fun e he =>
      (Rule.step_eq_error_iff (hsound r hr)).1 (addRule_eq_error_iff.1 he)
    constructor
    · intro he
      simpa using Rule.refusal?_eq_some_iff.1 (hcause _ he)
    · intro kind he
      simpa using Rule.refusal?_eq_some_iff.1 (hcause _ he)

/-- A zone that the database does not have, in front of a lookup. -/
theorem build_checked_new_york :
    let drafts : List RuleDraft :=
      [{ planName := some "start", focusColumn := some "ChargePeriodStart",
          sourceColumn := some "start", conversionType := some "assign_timezone",
          conversionArgs := some (.entries [("timezone", .text "New York")]) },
        { focusColumn := some "Region", conversionType := some "lookup" }]
    ∃ rules, drafts.mapM RuleDraft.validate = .ok rules ∧
      build .standard ⟨"aws", rules⟩ =
        .error (.invalidArgs "start" (.unknownTimezone "New York")) := by
  intro drafts
  let start : Rule := ⟨"start", .chargePeriodStart, some "start", .assignTimezone,
    .timezone ⟨"New York", .null⟩, none, 0, 0⟩
  let lookup : Rule := ⟨"<unnamed>", .region, none, .lookup, .lookup .null, none, 0, 0⟩
  have hvalid : drafts.mapM RuleDraft.validate = .ok [start, lookup] := rfl
  have hunknown : ZoneName.isKnown (Text.trim "New York") = false := by
    have htrim : Text.trim "New York" = "New York" := by decide
    have hknown : "New York" ∉ ZoneName.known := ZoneName.not_mem_known (by decide)
    have hoffset : ZoneName.isOffset "New York".toList = false := by decide
    rw [htrim, ZoneName.isKnown, hoffset, List.contains_eq_mem, decide_eq_false hknown]
    simp
  have hrefused : start.refusal? =
      some (.invalidArgs "start" (.unknownTimezone "New York")) :=
    Rule.refusal?_eq_some_iff.2 (.inr ⟨"New York", rfl, hunknown, rfl⟩)
  refine ⟨[start, lookup], hvalid, ((build_checked fun r hr => ?_).1 _).2 ?_⟩
  · obtain ⟨d, -, hd⟩ := exists_of_mem_of_mapM hvalid hr
    exact ⟨d, hd⟩
  · rw [List.findSome?_cons, hrefused]

end CompiledPlan

end FocusBilling
