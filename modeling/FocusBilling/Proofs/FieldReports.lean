import Mathlib.Data.List.DropRight
import FocusBilling.Proofs.Arguments
import FocusBilling.Rule

/-!
# What is reported of a draft

The check of a draft looks at each field, whatever the others hold, and reports all that are bad.
Which fields are bad is said here without the check.

* `Text.trim_trim` : a text without blanks around it;
* `RuleArgs.IsTold`, `RuleDraft.argsOf_eq_ok` : the arguments that a document tells a kind of rule,
  and that the check finds just these;
* `RuleDraft.IsBad` : the fields of a draft that are bad;
* `RuleDraft.validate_eq_ok` : the rule of a draft, field by field;
* `RuleDraft.validate_reports` : **a draft is refused if some field is bad, and every bad field is
  reported once.**

Each check of a field either finds a value or gives one problem of that field, so the problems stand
in the order of the fields; the check of the two fields that depend on the kind is left out where
the kind is unknown.
-/

namespace FocusBilling

/-! ### Texts without blanks around them -/

namespace Text

theorem trimChars_eq_nil_iff {cs : List Char} : trimChars cs = [] ↔ cs.all isBlank = true := by
  have hleft : trimLeft cs = [] ↔ cs.all isBlank = true := by
    rw [trimLeft, List.dropWhile_eq_nil_iff, List.all_eq_true]
  have hright : trimRight (trimLeft cs) = [] ↔ ∀ c ∈ trimLeft cs, isBlank c = true :=
    List.rdropWhile_eq_nil_iff
  rw [trimChars, hright, ← hleft]
  constructor
  · intro h
    cases hcs : trimLeft cs with
    | nil => rfl
    | cons c rest =>
      have hne : cs.dropWhile isBlank ≠ [] := by
        rw [← trimLeft, hcs]
        exact List.cons_ne_nil c rest
      have hhead := List.head_dropWhile_not isBlank hne
      rw [h _ (List.head_mem hne)] at hhead
      cases hhead
  · intro h
    rw [h]
    nofun

/-- A text without blanks around it is trimmed. -/
theorem trimChars_trimChars (cs : List Char) : trimChars (trimChars cs) = trimChars cs := by
  have hright : trimRight (trimChars cs) = trimChars cs := List.rdropWhile_idempotent isBlank _
  suffices hleft : trimLeft (trimChars cs) = trimChars cs by rw [trimChars, hleft, hright]
  rw [trimLeft, List.dropWhile_eq_self_iff]
  intro hpos hblank
  -- the first character that is left is the first that is no blank
  have hstart : trimChars cs <+: cs.dropWhile isBlank := List.rdropWhile_prefix isBlank _
  have hlen : 0 < (cs.dropWhile isBlank).length := Nat.lt_of_lt_of_le hpos hstart.length_le
  refine List.dropWhile_get_zero_not isBlank cs hlen ?_
  rw [← hblank]
  exact congrArg isBlank (List.IsPrefix.getElem hstart hpos).symm

theorem trim_trim (s : String) : trim (trim s) = trim s := by
  rw [trim, trim, String.toList_ofList, trimChars_trimChars]

theorem isBlankText_iff {s : String} : isBlankText s = true ↔ trim s = "" := by
  rw [isBlankText, ← trimChars_eq_nil_iff, trim]
  exact ⟨fun h => by rw [h], fun h => by simpa using congrArg String.toList h⟩

theorem hasInfix_iff {needle hay : List Char} : hasInfix needle hay = true ↔ needle <:+: hay := by
  induction hay with
  | nil => cases needle <;> simp [hasInfix]
  | cons c hay ih =>
    rw [hasInfix, Bool.or_eq_true, ih, List.isPrefixOf_iff_prefix, List.infix_cons_iff]

end Text

/-! ### Names -/

/-- What is found under a name, where names are distinct. -/
theorem find?_named_eq_some_iff {α : Type} {name : α → String} {all : List α} {x : α} {t : String}
    (hdistinct : (all.map name).Nodup) (hx : x ∈ all) :
    all.find? (fun y => name y == t) = some x ↔ t = name x := by
  constructor
  · intro h
    have hname : name x = t := by simpa using List.find?_some h
    exact hname.symm
  · rintro rfl
    obtain ⟨y, hy⟩ : ∃ y, all.find? (fun y => name y == name x) = some y := by
      rw [← Option.isSome_iff_exists, List.find?_isSome]
      exact ⟨x, hx, beq_self_eq_true _⟩
    have hname : name y = name x := by simpa using List.find?_some hy
    rw [hy, List.inj_on_of_nodup_map hdistinct (List.mem_of_find?_eq_some hy) hx hname]

theorem FocusColumn.ofName?_eq_some_iff {s : String} {c : FocusColumn} :
    ofName? s = some c ↔ Text.trim s = c.name :=
  find?_named_eq_some_iff (by decide) (by cases c <;> decide)

theorem RuleKind.ofName?_eq_some_iff {s : String} {k : RuleKind} :
    ofName? s = some k ↔ Text.trim s = k.name :=
  find?_named_eq_some_iff (by decide) (by cases k <;> decide)

/-! ### The arguments that a document tells -/

/-- A clause starts with `WHEN ` behind blanks, and ` THEN ` stands in it, in any case. -/
def IsWhenClause (clause : String) : Prop :=
  let up := (Text.trimLeft clause.toList).map Char.toUpper
  "WHEN ".toList <+: up ∧ " THEN ".toList <:+: up

/-- The arguments that a document tells a kind of rule; what is absent is like the empty
document. -/
inductive RuleArgs.IsTold : RuleKind → Document → RuleArgs → Prop where
  | renameColumn (d : Document) : IsTold .renameColumn d .none
  | assignUtcTimezone (d : Document) : IsTold .assignUtcTimezone d .none
  | assignTimezone {d : Document} {args : TimezoneArgs} (shape : d.IsTimezoneArgs args)
      (zone : Text.trim args.timezone ≠ "") : IsTold .assignTimezone d (.timezone args)
  | convertTimezone {d : Document} {args : TimezoneArgs} (shape : d.IsTimezoneArgs args)
      (zone : Text.trim args.timezone ≠ "") : IsTold .convertTimezone d (.timezone args)
  | inferDatetime : IsTold .parseDatetime .null (.parseDatetime {})
  | parseDatetime {d : Document} {args : ParseDatetimeArgs} (shape : d.IsParseDatetimeArgs args) :
      IsTold .parseDatetime d (.parseDatetime args)
  | staticValue {d : Document} {value : Literal} (shape : d.IsStaticValue value) :
      IsTold .staticValue d (.staticValue value)
  | mapValues {d : Document} {args : MapValuesArgs} (shape : d.IsMapValuesArgs args)
      (entries : args.valueList ≠ []) : IsTold .mapValues d (.mapValues args)
  | unnestAll : IsTold .unnest .null (.unnest Option.none)
  | unnest {d : Document} {field : Option String} (shape : d.IsUnnestField field) :
      IsTold .unnest d (.unnest field)
  | defaultValue {d : Document} {value : Literal} (shape : d.IsDefaultValue value) :
      IsTold .applyDefaultIfColumnMissing d (.defaultValue value)
  | setDtype {d : Document} {dtype : TargetType} (shape : d.IsSetDtype dtype) :
      IsTold .setColumnDtypes d (.setDtype dtype)
  | sqlCondition {d : Document} {args : SqlConditionArgs} (shape : d.IsSqlConditionArgs args)
      (conditions : args.conditions ≠ []) (clauses : ∀ c ∈ args.conditions, IsWhenClause c) :
      IsTold .sqlCondition d (.sqlCondition args)
  | sqlQuery {d : Document} {query : String} (shape : d.IsSqlQuery query)
      (text : Text.trim query ≠ "") : IsTold .sqlQuery d (.sqlQuery query)
  | lookup (d : Document) : IsTold .lookup d (.lookup d)

/-! ### The check of the arguments -/

namespace RuleDraft

theorem isWhenClause_iff {clause : String} : isWhenClause clause = true ↔ IsWhenClause clause := by
  rw [isWhenClause, Bool.and_eq_true, List.isPrefixOf_iff_prefix, Text.hasInfix_iff, IsWhenClause]

section
variable {α : Type} {decode : Decoder α} {P : Document → α → Prop} {raw : Option Document} {x : α}

theorem mapError_undecodable_eq_ok (h : Reads decode P) {d : Document} :
    (decode d).mapError RuleFault.undecodable = .ok x ↔ P d x :=
  mapError_eq_ok.trans (h d x)

/-- A value that must be given is not told by the empty document. -/
theorem given_eq_ok (h : Reads decode P) (hnull : ∀ x, ¬P .null x) :
    given decode raw = .ok x ↔ P (raw.getD .null) x := by
  cases raw with
  | none => simp [given, hnull]
  | some d =>
    cases d with
    | null => simp [given, Document.isNull, Option.filter, hnull]
    | _ => exact mapError_undecodable_eq_ok h

/-- A value that may be left out is left out by the empty document. -/
theorem givenOr_eq_ok {default : α} (h : Reads decode P) (hnull : ∀ x, ¬P .null x) :
    givenOr default decode raw = .ok x ↔
      (raw.getD .null = .null ∧ x = default) ∨ P (raw.getD .null) x := by
  cases raw with
  | none => simp [givenOr, hnull, eq_comm]
  | some d =>
    cases d with
    | null => simp [givenOr, hnull, eq_comm]
    | _ => simpa [givenOr] using mapError_undecodable_eq_ok h

end

theorem isBlankText_eq_false_iff {s : String} : Text.isBlankText s = false ↔ Text.trim s ≠ "" := by
  rw [Ne, ← Text.isBlankText_iff, Bool.not_eq_true]

theorem not_isSqlQuery_null {query : String} : ¬Document.IsSqlQuery .null query := by
  simp [Document.IsSqlQuery]

/-- The arguments that the check finds are told by the document. -/
theorem isTold_of_argsOf {kind : RuleKind} {raw : Option Document} {args : RuleArgs}
    (h : argsOf kind raw = .ok args) : args.IsTold kind (raw.getD .null) := by
  cases kind with
  | renameColumn | assignUtcTimezone | lookup =>
    obtain rfl := Except.ok.inj h
    constructor
  | assignTimezone | convertTimezone =>
    obtain ⟨found, hfound, h⟩ := bind_eq_ok.1 h
    split at h
    next => cases h
    next hzone =>
      obtain rfl := pure_eq_ok.1 h
      constructor
      · exact (given_eq_ok reads_timezoneArgs fun _ h => h.1).1 hfound
      · simpa [Text.isBlankText_iff] using hzone
  | parseDatetime =>
    obtain ⟨found, hfound, h⟩ := bind_eq_ok.1 h
    obtain rfl := pure_eq_ok.1 h
    have hgiven := (givenOr_eq_ok reads_parseDatetimeArgs fun _ h => h.1).1 hfound
    rcases hgiven with ⟨hnull, rfl⟩ | hshape
    · rw [hnull]
      exact .inferDatetime
    · exact .parseDatetime hshape
  | unnest =>
    obtain ⟨found, hfound, h⟩ := bind_eq_ok.1 h
    obtain rfl := pure_eq_ok.1 h
    rcases (givenOr_eq_ok reads_unnestField fun _ h => h.1).1 hfound with ⟨hnull, rfl⟩ | hshape
    · rw [hnull]
      exact .unnestAll
    · exact .unnest hshape
  | staticValue =>
    obtain ⟨found, hfound, h⟩ := bind_eq_ok.1 h
    obtain rfl := pure_eq_ok.1 h
    exact .staticValue ((given_eq_ok reads_staticValue fun _ h => h.1).1 hfound)
  | applyDefaultIfColumnMissing =>
    obtain ⟨found, hfound, h⟩ := bind_eq_ok.1 h
    obtain rfl := pure_eq_ok.1 h
    exact .defaultValue ((given_eq_ok reads_defaultValue fun _ h => h.1).1 hfound)
  | setColumnDtypes =>
    obtain ⟨found, hfound, h⟩ := bind_eq_ok.1 h
    obtain rfl := pure_eq_ok.1 h
    exact .setDtype ((given_eq_ok reads_setDtype fun _ h => h.1).1 hfound)
  | mapValues =>
    obtain ⟨found, hfound, h⟩ := bind_eq_ok.1 h
    split at h
    next => cases h
    next hentries =>
      obtain rfl := pure_eq_ok.1 h
      refine .mapValues ((given_eq_ok reads_mapValuesArgs fun _ h => h.1).1 hfound) ?_
      simpa using hentries
  | sqlQuery =>
    obtain ⟨found, hfound, h⟩ := bind_eq_ok.1 h
    split at h
    next => cases h
    next htext =>
      obtain rfl := pure_eq_ok.1 h
      refine .sqlQuery ((given_eq_ok reads_sqlQuery fun _ => not_isSqlQuery_null).1 hfound) ?_
      simpa [Text.isBlankText_iff] using htext
  | sqlCondition =>
    obtain ⟨found, hfound, h⟩ := bind_eq_ok.1 h
    split at h
    next => cases h
    next hconditions =>
      split at h
      next => cases h
      next hclauses =>
        obtain rfl := pure_eq_ok.1 h
        refine .sqlCondition ((given_eq_ok reads_sqlConditionArgs fun _ h => h.1).1 hfound) ?_ ?_
        · simpa using hconditions
        · simpa [isWhenClause_iff] using List.find?_eq_none.1 hclauses

/-- The check finds the arguments that a document tells. -/
theorem argsOf_of_isTold {kind : RuleKind} {raw : Option Document} {args : RuleArgs}
    (h : args.IsTold kind (raw.getD .null)) : argsOf kind raw = .ok args := by
  generalize hd : raw.getD .null = d at h
  cases h with
  | renameColumn | assignUtcTimezone => rfl
  | lookup => rw [argsOf, hd]
  | assignTimezone shape zone | convertTimezone shape zone =>
    subst hd
    rw [argsOf, (given_eq_ok reads_timezoneArgs fun _ h => h.1).2 shape]
    exact if_neg (mt Text.isBlankText_iff.1 zone)
  | inferDatetime =>
    rw [argsOf, (givenOr_eq_ok reads_parseDatetimeArgs fun _ h => h.1).2 (.inl ⟨hd, rfl⟩)]
    rfl
  | parseDatetime shape =>
    subst hd
    rw [argsOf, (givenOr_eq_ok reads_parseDatetimeArgs fun _ h => h.1).2 (.inr shape)]
    rfl
  | unnestAll =>
    rw [argsOf, (givenOr_eq_ok reads_unnestField fun _ h => h.1).2 (.inl ⟨hd, rfl⟩)]
    rfl
  | unnest shape =>
    subst hd
    rw [argsOf, (givenOr_eq_ok reads_unnestField fun _ h => h.1).2 (.inr shape)]
    rfl
  | staticValue shape =>
    subst hd
    rw [argsOf, (given_eq_ok reads_staticValue fun _ h => h.1).2 shape]
    rfl
  | defaultValue shape =>
    subst hd
    rw [argsOf, (given_eq_ok reads_defaultValue fun _ h => h.1).2 shape]
    rfl
  | setDtype shape =>
    subst hd
    rw [argsOf, (given_eq_ok reads_setDtype fun _ h => h.1).2 shape]
    rfl
  | mapValues shape entries =>
    subst hd
    rw [argsOf, (given_eq_ok reads_mapValuesArgs fun _ h => h.1).2 shape]
    exact if_neg (by simpa using entries)
  | sqlQuery shape text =>
    subst hd
    rw [argsOf, (given_eq_ok reads_sqlQuery fun _ => not_isSqlQuery_null).2 shape]
    exact if_neg (mt Text.isBlankText_iff.1 text)
  | @sqlCondition _ args shape conditions clauses =>
    subst hd
    have hgood : args.conditions.find? (fun c => !isWhenClause c) = none := by
      simpa [List.find?_eq_none, isWhenClause_iff] using clauses
    rw [argsOf, (given_eq_ok reads_sqlConditionArgs fun _ h => h.1).2 shape]
    refine (if_neg (by simpa using conditions)).trans ?_
    rw [hgood]
    rfl

theorem argsOf_eq_ok {kind : RuleKind} {raw : Option Document} {args : RuleArgs} :
    argsOf kind raw = .ok args ↔ args.IsTold kind (raw.getD .null) :=
  ⟨isTold_of_argsOf, argsOf_of_isTold⟩

/-! ### The checks of the fields -/

theorem checkFocusColumn_eq_ok {name : Option String} {c : FocusColumn} :
    checkFocusColumn name = .ok c ↔ name.bind FocusColumn.ofName? = some c := by
  cases name with
  | none => simp [checkFocusColumn]
  | some s =>
    rw [checkFocusColumn, Option.bind_some]
    cases FocusColumn.ofName? s <;> simp

theorem checkKind_eq_ok {name : Option String} {k : RuleKind} :
    checkKind name = .ok k ↔ name.bind RuleKind.ofName? = some k := by
  cases name with
  | none => simp [checkKind]
  | some s =>
    rw [checkKind, Option.bind_some]
    cases RuleKind.ofName? s <;> simp

theorem checkFocusColumn_eq_ok_iff {name : Option String} {c : FocusColumn} :
    checkFocusColumn name = .ok c ↔ name.map Text.trim = some c.name := by
  cases name <;> simp [checkFocusColumn_eq_ok, FocusColumn.ofName?_eq_some_iff]

theorem checkKind_eq_ok_iff {name : Option String} {k : RuleKind} :
    checkKind name = .ok k ↔ name.map Text.trim = some k.name := by
  cases name <;> simp [checkKind_eq_ok, RuleKind.ofName?_eq_some_iff]

theorem checkArgs_eq_ok {kind : RuleKind} {raw : Option Document} {args : RuleArgs} :
    checkArgs kind raw = .ok args ↔ args.IsTold kind (raw.getD .null) :=
  mapError_eq_ok.trans argsOf_eq_ok

theorem filled_eq_some_iff {s : Option String} {t : String} :
    filled s = some t ↔ s.map Text.trim = some t ∧ t ≠ "" := by
  rw [filled, Option.filter_eq_some_iff]
  simp

theorem filled_eq_none_iff {s : Option String} :
    filled s = none ↔ ∀ t, s = some t → Text.trim t = "" := by
  cases s <;> simp [filled, Option.filter]

theorem eq_filled_of_checkSource {kind : RuleKind} {name source : Option String}
    (h : checkSource kind name = .ok source) : source = filled name := by
  rw [checkSource] at h
  split at h
  · cases h
  · exact (Except.ok.inj h).symm

theorem checkSource_ne_ok_iff {kind : RuleKind} {name : Option String} :
    (∀ source, checkSource kind name ≠ .ok source) ↔
      kind.needsSource = true ∧ filled name = none := by
  rw [checkSource]
  cases kind.needsSource <;> cases filled name <;> simp

/-- What is good in a draft that is a rule. -/
theorem validate_eq_ok {d : RuleDraft} {r : Rule} :
    d.validate = .ok r ↔
      checkFocusColumn d.focusColumn = .ok r.focusColumn ∧
      checkKind d.conversionType = .ok r.kind ∧
      checkSource r.kind d.sourceColumn = .ok r.sourceColumn ∧
      checkArgs r.kind d.conversionArgs = .ok r.args ∧
      d.title = r.planName ∧ filled d.columnPrefix = r.columnPrefix ∧
      d.dimensionId.getD 0 = r.dimensionId ∧ d.priority.getD 0 = r.priority := by
  constructor
  · intro h
    rw [validate] at h
    split at h
    next kind hcolumn hkind =>
      split at h
      next source args hsource hargs =>
        obtain rfl := Except.ok.inj h
        exact ⟨hcolumn, hkind, hsource, hargs, rfl, rfl, rfl, rfl⟩
      next => cases h
    next => cases h
  · obtain ⟨name, column, source, kind, args, pre, dimension, priority⟩ := r
    rintro ⟨hcolumn, hkind, hsource, hargs, rfl, rfl, rfl, rfl⟩
    simp only [validate, hcolumn, hkind, hsource, hargs]

theorem eq_of_validate_error {d : RuleDraft} {e : InvalidRule} (h : d.validate = .error e) :
    e = ⟨d.title, d.issues⟩ := by
  rw [validate] at h
  split at h
  · split at h
    · cases h
    · exact (Except.error.inj h).symm
  · exact (Except.error.inj h).symm

/-- A draft is a rule if there is nothing to report. -/
theorem issues_eq_nil_iff {d : RuleDraft} : d.issues = [] ↔ ∃ r, d.validate = .ok r := by
  rw [issues, validate]
  cases checkKind d.conversionType with
  | error i => cases checkFocusColumn d.focusColumn <;> simp [issueOf]
  | ok kind =>
    cases hsource : checkSource kind d.sourceColumn <;>
      cases hargs : checkArgs kind d.conversionArgs <;>
        cases checkFocusColumn d.focusColumn <;> simp [issueOf, hsource, hargs]

/-! ### The fields that are bad -/

/-- The fields of a draft that are bad.  The two fields that depend on the kind are good where the
kind is unknown. -/
def IsBad (d : RuleDraft) : RuleField → Prop
  | .focusColumn => ∀ c : FocusColumn, d.focusColumn.map Text.trim ≠ some c.name
  | .conversionType => ∀ k : RuleKind, d.conversionType.map Text.trim ≠ some k.name
  | .column => ∃ k : RuleKind, d.conversionType.map Text.trim = some k.name ∧
      k.needsSource = true ∧ ∀ s, d.sourceColumn = some s → Text.trim s = ""
  | .conversionArgs => ∃ k : RuleKind, d.conversionType.map Text.trim = some k.name ∧
      ∀ args : RuleArgs, ¬args.IsTold k (d.conversionArgs.getD .null)

/-- Problems of some fields, those of them that are bad, in order. -/
structure Reports (d : RuleDraft) (problems : List RuleIssue) (fields : List RuleField) : Prop where
  /-- The problems stand in the order of the fields, at most one for each of them. -/
  ordered : (problems.map (·.field)).Sublist fields
  /-- There is one for each field that is bad. -/
  bad : ∀ f, f ∈ problems.map (·.field) ↔ f ∈ fields ∧ d.IsBad f

variable {d : RuleDraft}

theorem Reports.append {problems problems' : List RuleIssue} {fields fields' : List RuleField}
    (h : d.Reports problems fields) (h' : d.Reports problems' fields') :
    d.Reports (problems ++ problems') (fields ++ fields') := by
  refine ⟨?_, fun f => ?_⟩
  · rw [List.map_append]
    exact h.ordered.append h'.ordered
  · rw [List.map_append, List.mem_append, List.mem_append, h.bad, h'.bad, or_and_right]

/-- There is nothing to report of a good field. -/
theorem reports_nil {field : RuleField} (h : ¬d.IsBad field) : d.Reports [] [field] := by
  refine ⟨List.nil_sublist _, fun f => ?_⟩
  simp only [List.map_nil, List.not_mem_nil, List.mem_singleton, false_iff, not_and]
  rintro rfl
  exact h

/-- A check whose problems are of one field, and that finds a value where this is good. -/
theorem reports_issueOf {α : Type} {check : Except RuleIssue α} {field : RuleField}
    (hfield : ∀ i, check = .error i → i.field = field)
    (hbad : d.IsBad field ↔ ∀ x, check ≠ .ok x) : d.Reports (issueOf check) [field] := by
  cases check with
  | ok x => exact reports_nil fun h => hbad.1 h x rfl
  | error i =>
    obtain rfl := hfield i rfl
    refine ⟨List.Sublist.refl _, fun f => ?_⟩
    simp only [issueOf, List.map_cons, List.map_nil, List.mem_singleton, iff_self_and]
    rintro rfl
    exact hbad.2 nofun

theorem reports_focusColumn :
    d.Reports (issueOf (checkFocusColumn d.focusColumn)) [.focusColumn] := by
  refine reports_issueOf (fun i hi => ?_) ?_
  · unfold checkFocusColumn at hi
    split at hi
    · exact (Except.error.inj hi) ▸ rfl
    · split at hi
      · cases hi
      · exact (Except.error.inj hi) ▸ rfl
  · simp only [IsBad, ne_eq, checkFocusColumn_eq_ok_iff]

theorem reports_kind : d.Reports (issueOf (checkKind d.conversionType)) [.conversionType] := by
  refine reports_issueOf (fun i hi => ?_) ?_
  · unfold checkKind at hi
    split at hi
    · exact (Except.error.inj hi) ▸ rfl
    · split at hi
      · cases hi
      · exact (Except.error.inj hi) ▸ rfl
  · simp only [IsBad, ne_eq, checkKind_eq_ok_iff]

section
variable {kind : RuleKind}

theorem kind_eq_of_checkKind (h : checkKind d.conversionType = .ok kind) {k : RuleKind} :
    d.conversionType.map Text.trim = some k.name ↔ kind = k := by
  rw [← checkKind_eq_ok_iff, h, Except.ok.injEq]

theorem reports_source (h : checkKind d.conversionType = .ok kind) :
    d.Reports (issueOf (checkSource kind d.sourceColumn)) [.column] := by
  refine reports_issueOf (fun i hi => ?_) ?_
  · rw [checkSource] at hi
    split at hi
    · exact (Except.error.inj hi) ▸ rfl
    · cases hi
  · simp only [IsBad, kind_eq_of_checkKind h, exists_eq_left', checkSource_ne_ok_iff,
      filled_eq_none_iff]

theorem reports_args (h : checkKind d.conversionType = .ok kind) :
    d.Reports (issueOf (checkArgs kind d.conversionArgs)) [.conversionArgs] := by
  refine reports_issueOf (fun i hi => ?_) ?_
  · rw [checkArgs] at hi
    cases hargs : argsOf kind d.conversionArgs with
    | ok args => rw [hargs] at hi; cases hi
    | error fault => rw [hargs] at hi; exact (Except.error.inj hi) ▸ rfl
  · simp only [IsBad, kind_eq_of_checkKind h, exists_eq_left', ne_eq, checkArgs_eq_ok]

end

/-- All that is bad is reported, in the order of the fields. -/
theorem reports_issues :
    d.Reports d.issues [.focusColumn, .conversionType, .column, .conversionArgs] := by
  refine reports_focusColumn.append ?_
  cases hkind : checkKind d.conversionType with
  | error i =>
    -- the two fields that depend on the kind are neither checked nor bad
    have hnone : ∀ k : RuleKind, d.conversionType.map Text.trim ≠ some k.name := by
      intro k hk
      rw [checkKind_eq_ok_iff.2 hk] at hkind
      cases hkind
    have hreport := reports_kind (d := d)
    rw [hkind] at hreport
    have hcolumn : ¬d.IsBad .column := fun ⟨k, hk, _⟩ => hnone k hk
    have hargs : ¬d.IsBad .conversionArgs := fun ⟨k, hk, _⟩ => hnone k hk
    exact hreport.append ((reports_nil hcolumn).append (reports_nil hargs))
  | ok kind =>
    have hgood : ¬d.IsBad .conversionType := fun h => h kind (checkKind_eq_ok_iff.1 hkind)
    exact (reports_nil hgood).append ((reports_source hkind).append (reports_args hkind))

/-- **A draft is refused if some field is bad, and every bad field is reported once.**  A draft is a
rule if no field is bad.  Otherwise there is a problem for each field that is bad, whatever the
others hold, in the order of the fields, and none for the others.  In a rule, the FOCUS column and
the kind are those that the draft names, the arguments are those that its document tells, and the
source column and the prefix are those of the draft without blanks around them, if anything is
left. -/
theorem validate_reports (d : RuleDraft) :
    ((∃ r, d.validate = .ok r) ↔ ∀ f, ¬d.IsBad f) ∧
    (∀ e, d.validate = .error e → e.planName = d.title ∧ e.issues ≠ [] ∧
      (e.issues.map (·.field)).Sublist [.focusColumn, .conversionType, .column, .conversionArgs] ∧
      ∀ f, f ∈ e.issues.map (·.field) ↔ d.IsBad f) ∧
    ∀ r, d.validate = .ok r →
      d.focusColumn.map Text.trim = some r.focusColumn.name ∧
      d.conversionType.map Text.trim = some r.kind.name ∧
      r.args.IsTold r.kind (d.conversionArgs.getD .null) ∧
      (∀ s, r.sourceColumn = some s ↔ d.sourceColumn.map Text.trim = some s ∧ s ≠ "") ∧
      (∀ s, r.columnPrefix = some s ↔ d.columnPrefix.map Text.trim = some s ∧ s ≠ "") ∧
      ∀ s, r.sourceColumn = some s ∨ r.columnPrefix = some s →
        Text.trim s = s ∧ Text.isBlankText s = false := by
  have hreport : ∀ f, f ∈ d.issues.map (·.field) ↔ d.IsBad f := fun f => by
    rw [reports_issues.bad]
    exact and_iff_right (by cases f <;> decide)
  refine ⟨?_, fun e he => ?_, fun r hr => ?_⟩
  · rw [← issues_eq_nil_iff]
    constructor
    · intro hnil f hbad
      rw [← hreport, hnil] at hbad
      cases hbad
    · intro hgood
      refine List.eq_nil_iff_forall_not_mem.2 fun i hi => ?_
      exact hgood i.field ((hreport i.field).1 (List.mem_map_of_mem hi))
  · obtain rfl := eq_of_validate_error he
    refine ⟨rfl, fun hnil => ?_, reports_issues.ordered, hreport⟩
    obtain ⟨r, hr⟩ := issues_eq_nil_iff.1 hnil
    rw [hr] at he
    cases he
  · obtain ⟨hcolumn, hkind, hsource, hargs, -, hprefix, -⟩ := validate_eq_ok.1 hr
    have htrimmed : ∀ {s : String} {given : Option String}, filled given = some s →
        Text.trim s = s ∧ Text.isBlankText s = false := by
      intro s given hs
      obtain ⟨hmap, hne⟩ := filled_eq_some_iff.1 hs
      obtain ⟨t, -, rfl⟩ := Option.map_eq_some_iff.1 hmap
      refine ⟨Text.trim_trim t, isBlankText_eq_false_iff.2 ?_⟩
      rwa [Text.trim_trim]
    rw [eq_filled_of_checkSource hsource, ← hprefix]
    exact ⟨checkFocusColumn_eq_ok_iff.1 hcolumn, checkKind_eq_ok_iff.1 hkind,
      checkArgs_eq_ok.1 hargs, fun s => filled_eq_some_iff, fun s => filled_eq_some_iff,
      fun s hs => hs.elim htrimmed htrimmed⟩

end RuleDraft

end FocusBilling
