import FocusBilling.Proofs.Exports
import FocusBilling.Proofs.FieldReports
import FocusBilling.Proofs.Mappings
import FocusBilling.Proofs.Validation

/-!
# Missing source columns

Names are settled before any cell is computed, so a plan fails for want of a column before anything
of the batch is exported.

* `Scalar.Wants` : an expression that fails only for want of one column;
* `Rule.IsSimple`, `Rule.needs?` : checked rules that copy, map or cast a column or fill one, and
  the column that such a rule has to find;
* `Rule.exists_assign` : the step of such a rule fails for want of this column only, and otherwise
  fills its own;
* `Table.Offers`, `Table.Serves`, `Table.LacksFirst` : the columns that are there in front of a
  rule, rules that all find the column they need, and the first column that one does not find;
* `CompiledPlan.run_spec` : the steps of a plan, by induction on its rules;
* `CompiledPlan.assignAll_fillsMissing` : the step of a rule for a column that may be missing;
* `CompiledPlan.apply_lacks` : **a plan fails for want of the first column that is missing, and for
  nothing else.**

The invariant is which columns are there: those of the batch, the name of the provider, and the
outputs of the rules so far.  Names that look like patterns are left out throughout: they stand for
other columns, or for none.
-/

namespace FocusBilling

/-! ### Expressions that want a column -/

namespace Scalar

variable {t : Table} {rows : ℕ} {text : Scalar} {args : MapValuesArgs} {n : String}

/-- An expression that fails where a column is missing, and only there. -/
def Wants (v : Scalar) (n : String) : Prop :=
  ∀ (t : Table) rows, (n ∈ t.names → ∃ d, v.eval t rows = .ok d) ∧
    (n ∉ t.names → v.eval t rows = .error (.missingColumn n))

theorem wants_column (n : String) : (column n).Wants n := by
  intro t rows
  rw [eval]
  exact ⟨Table.exists_get, Table.get_of_not_mem⟩

theorem wants_cast (target : DType) (strict : Bool) (n : String) :
    (apply (.cast target strict) [.column n]).Wants n := by
  intro t rows
  obtain ⟨hfound, hmissing⟩ := wants_column n t rows
  constructor
  · intro hn
    obtain ⟨d, hd⟩ := hfound hn
    exact ⟨_, by rw [eval, evalAll, hd]; rfl⟩
  · intro hn
    rw [eval, evalAll, hmissing hn]
    rfl

/-- The type of a choice between texts. -/
theorem exists_eval_choose {test a b : Scalar} {c ca cb : Except FrameError (List Cell)}
    (htest : test.eval t rows = .ok ⟨.bool, c⟩) (ha : a.eval t rows = .ok ⟨.text, ca⟩)
    (hb : b.eval t rows = .ok ⟨.text, cb⟩) :
    ∃ cells, (apply .choose [test, a, b]).eval t rows = .ok ⟨.text, cells⟩ := by
  simp only [eval, evalAll, htest, ha, hb]
  exact ⟨_, rfl⟩

/-- What a mapping makes of texts are texts. -/
theorem exists_eval_mappedScalar {c : Except FrameError (List Cell)}
    (h : text.eval t rows = .ok ⟨.text, c⟩) :
    ∃ cells, (Compile.mappedScalar args text).eval t rows = .ok ⟨.text, cells⟩ := by
  obtain ⟨ms, default, forNull⟩ := args
  have hconstant : ∀ s, (Compile.textScalar s).eval t rows =
      .ok ⟨.text, .ok (List.replicate rows (.text s))⟩ := fun _ => rfl
  induction ms with
  | nil =>
    have hnone : noText.eval t rows = .ok ⟨.text, .ok (List.replicate rows .null)⟩ := rfl
    have hnull : (apply .isNull [text]).eval t rows =
        .ok ⟨.bool, applyCells rows .isNull [⟨.text, c⟩]⟩ := by
      simp only [eval, evalAll, h]
      rfl
    cases forNull with
    | true => cases default <;> exact ⟨_, rfl⟩
    | false =>
      cases default with
      | none => exact exists_eval_choose hnull hnone hnone
      | some value => exact exists_eval_choose hnull hnone (hconstant value.key)
  | cons m ms ih =>
    obtain ⟨cells, hrest⟩ := ih
    have hequal : (apply (.compare .eq) [text, Compile.textScalar m.key.key]).eval t rows =
        .ok ⟨.bool, applyCells rows (.compare .eq)
          [⟨.text, c⟩, ⟨.text, .ok (List.replicate rows (.text m.key.key))⟩]⟩ := by
      simp only [eval, evalAll, h, hconstant]
      rfl
    exact exists_eval_choose hequal (hconstant _) hrest

theorem wants_mappedScalar (hargs : args.valueList ≠ []) (n : String) :
    (Compile.mappedScalar args (.apply (.cast .text false) [.column n])).Wants n := by
  intro t rows
  obtain ⟨hfound, hmissing⟩ := wants_column n t rows
  constructor
  · intro hn
    obtain ⟨d, hd⟩ := hfound hn
    have htext : (apply (.cast .text false) [.column n]).eval t rows =
        .ok ⟨.text, applyCells rows (.cast .text false) [d]⟩ := by
      simp only [eval, evalAll]
      rw [eval] at hd
      rw [hd]
      rfl
    exact (exists_eval_mappedScalar htext).elim fun cells hcells => ⟨_, hcells⟩
  · intro hn
    obtain ⟨ms, default, forNull⟩ := args
    obtain ⟨m, ms, rfl⟩ := List.exists_cons_of_ne_nil hargs
    rw [mappedScalar_cons, eval, evalAll, eval, evalAll, (wants_cast .text false n t rows).2 hn]
    rfl

end Scalar

/-! ### Steps -/

namespace Working

variable {w : Working} {v : Scalar} {output source n : String} {value : Literal}

/-- A step whose expression wants a column. -/
theorem assign_of_wants (ht : w.table.columns ≠ []) (hexpand : v.expand w.table = .ok [v])
    (hv : v.Wants source) (output : String) :
    (∀ n, some source = some n → n ∉ w.table.names →
      w.assign (.column output v) = .error (.missingColumn n)) ∧
    ((∀ n, some source = some n → n ∈ w.table.names) → ∃ d, w.assign (.column output v) =
      .ok ⟨⟨w.table.height, Table.putIn output d w.table.columns⟩, w.expanded⟩) := by
  have hnamed : (Assignment.column output v).columns w.table = .ok [(output, v)] := by
    simp [Assignment.columns, hexpand]
  rw [assign_named ht hnamed (by simp)]
  obtain ⟨hfound, hmissing⟩ := hv w.table w.table.height
  constructor
  · rintro _ ⟨⟩ hn
    rw [hmissing hn]
    rfl
  · intro hn
    obtain ⟨d, hd⟩ := hfound (hn source rfl)
    exact ⟨d, by rw [hd]; rfl⟩

/-- A step that copies a column, or fills its own with a literal where that is missing, never
fails. -/
theorem assign_default (ht : w.table.columns ≠ []) (hplain : Table.IsPlain source) :
    w.assign (.defaultIfMissing output source value) = .ok ⟨⟨w.table.height, Table.putIn output
      ((w.table.find? source).getD
        ⟨value.dtype, .ok (List.replicate w.table.height (Cell.ofLiteral value))⟩)
      w.table.columns⟩, w.expanded⟩ := by
  by_cases hn : source ∈ w.table.names
  · obtain ⟨d, hd⟩ := Option.isSome_iff_exists.1 (Table.isSome_find?.2 hn)
    have hreads : ∀ n ∈ (Scalar.column source).reads, Table.IsPlain n := by
      simpa [Scalar.reads] using hplain
    have hnamed : (Assignment.defaultIfMissing output source value).columns w.table =
        .ok [(output, .column source)] := by
      have hthere : w.table.hasColumn source = true := List.contains_iff_mem.2 hn
      simp [Assignment.columns, hthere, Scalar.expand_of_plain hreads]
    rw [assign_named ht hnamed (by simp), Scalar.eval, Table.get, hd]
    rfl
  · have hnamed : (Assignment.defaultIfMissing output source value).columns w.table =
        .ok [(output, .literal value)] := by
      have hmissing : w.table.hasColumn source = false := by simpa [Table.hasColumn] using hn
      simp [Assignment.columns, hmissing]
    have hnone : w.table.find? source = none :=
      Option.not_isSome_iff_eq_none.1 (mt Table.isSome_find?.1 hn)
    rw [assign_named ht hnamed (by simp), hnone]
    rfl

end Working

/-! ### Rules -/

namespace Rule

variable {r : Rule}

/-- A checked rule that copies, maps or casts a column, fills one with a constant, or copies one
that may be missing.  The name of its source column stands for this one only. -/
structure IsSimple (r : Rule) : Prop where
  checked : ∃ d : RuleDraft, d.validate = .ok r
  kind : r.kind ∈ [RuleKind.renameColumn, .mapValues, .setColumnDtypes, .staticValue,
    .applyDefaultIfColumnMissing]
  plain : ∀ n, r.sourceColumn = some n → r.kind.needsSource = true → Table.IsPlain n

/-- The column that a rule has to find. -/
def needs? (r : Rule) : Option String :=
  match r.kind with
  | .renameColumn | .mapValues | .setColumnDtypes => r.sourceColumn
  | _ => none

/-- The step of a simple rule fails for want of the column that it needs, and otherwise fills its
own. -/
theorem exists_assign (hr : r.IsSimple) : ∃ a, r.step .standard = .ok (.assign a) ∧
    ∀ w : Working, w.table.columns ≠ [] →
      (∀ n, r.needs? = some n → n ∉ w.table.names → w.assign a = .error (.missingColumn n)) ∧
      ((∀ n, r.needs? = some n → n ∈ w.table.names) → ∃ d, w.assign a =
        .ok ⟨⟨w.table.height, Table.putIn r.output d w.table.columns⟩, w.expanded⟩) := by
  obtain ⟨⟨d, hd⟩, hkind, hplain⟩ := hr
  obtain ⟨-, hsource⟩ := sound_of_validate hd
  obtain ⟨-, -, -, hargs, -⟩ := RuleDraft.validate_eq_ok.1 hd
  replace hargs := RuleDraft.checkArgs_eq_ok.1 hargs
  obtain ⟨planName, focusColumn, sourceColumn, kind, args, columnPrefix, dimensionId, priority⟩ := r
  generalize d.conversionArgs.getD .null = document at hargs
  cases hargs with
  | renameColumn =>
    obtain ⟨source, rfl⟩ := hsource rfl
    have hexpand : ∀ w : Working, (Scalar.column source).expand w.table = .ok [.column source] :=
      fun w => Scalar.expand_of_plain (by simpa [Scalar.reads] using hplain source rfl rfl)
    exact ⟨_, rfl, fun w ht =>
      Working.assign_of_wants ht (hexpand w) (Scalar.wants_column source) _⟩
  | @setDtype _ target =>
    obtain ⟨source, rfl⟩ := hsource rfl
    let v : Scalar := .apply (.cast (.ofTarget target) false) [.column source]
    have hexpand : ∀ w : Working, v.expand w.table = .ok [v] := fun w => Scalar.expand_of_plain
      (by simpa [v, Scalar.reads, Scalar.readsAll] using hplain source rfl rfl)
    exact ⟨_, rfl, fun w ht =>
      Working.assign_of_wants ht (hexpand w) (Scalar.wants_cast _ false source) _⟩
  | mapValues _ hentries =>
    obtain ⟨source, rfl⟩ := hsource rfl
    have hexpand := fun w : Working => Scalar.expand_mappedScalar hentries
      (Table.matching_of_plain (t := w.table) (hplain source rfl rfl))
    exact ⟨_, rfl, fun w ht =>
      Working.assign_of_wants ht (hexpand w) (Scalar.wants_mappedScalar hentries source) _⟩
  | @staticValue _ value =>
    have hexpand : ∀ w : Working, (Scalar.literal value).expand w.table = .ok [.literal value] :=
      fun w => Scalar.expand_of_plain (by simp [Scalar.literal, Scalar.reads])
    exact ⟨_, rfl, fun w ht =>
      ⟨by simp [needs?], fun _ => ⟨_, Working.assign_column ht (hexpand w) rfl⟩⟩⟩
  | defaultValue =>
    obtain ⟨source, rfl⟩ := hsource rfl
    exact ⟨_, rfl, fun w ht =>
      ⟨by simp [needs?], fun _ => ⟨_, Working.assign_default ht (hplain source rfl rfl)⟩⟩⟩
  | _ => simp at hkind

/-- A rule that fills its own column with a literal where its source column is missing. -/
structure FillsMissing (r : Rule) (source : String) (value : Literal) : Prop where
  kind : r.kind = .applyDefaultIfColumnMissing
  source : r.sourceColumn = some source
  args : r.args = .defaultValue value

theorem FillsMissing.step {source : String} {value : Literal} (h : r.FillsMissing source value) :
    r.step .standard = .ok (.assign (.defaultIfMissing r.output source value)) :=
  step_eq_assign.2 (.defaulted h.kind h.args h.source)

end Rule

/-! ### Columns that are there -/

namespace Table

variable {t : Table} {rules before after : List Rule} {r : Rule} {n m : String}

/-- The columns in front of a rule: those of the batch, the name of the provider, and the outputs of
the rules before. -/
def Offers (t : Table) (before : List Rule) (n : String) : Prop :=
  n ∈ t.names ∨ n = CompiledPlan.providerColumn ∨ ∃ s ∈ before, n = s.output

/-- Every rule finds the column that it needs. -/
def Serves (t : Table) (rules : List Rule) : Prop :=
  ∀ before r after, rules = before ++ r :: after → ∀ n, r.needs? = some n → t.Offers before n

/-- The first rule that does not find the column it needs, by the name of this column. -/
def LacksFirst (t : Table) (rules : List Rule) (n : String) : Prop :=
  ∃ before r after, rules = before ++ r :: after ∧ t.Serves before ∧ r.needs? = some n ∧
    ¬t.Offers before n

theorem offers_concat : t.Offers (rules ++ [r]) n ↔ t.Offers rules n ∨ n = r.output := by
  simp [Offers, or_and_right, exists_or, or_assoc]

theorem serves_nil : t.Serves [] := by
  intro before r after h
  simp at h

theorem Serves.concat (h : t.Serves rules) (hr : ∀ n, r.needs? = some n → t.Offers rules n) :
    t.Serves (rules ++ [r]) := by
  intro before s after hrules n hn
  rcases after.eq_nil_or_concat with rfl | ⟨after, s', rfl⟩
  · obtain ⟨rfl, ⟨⟩⟩ := List.append_inj' hrules rfl
    exact hr n hn
  · rw [List.concat_eq_append, ← List.cons_append, ← List.append_assoc] at hrules
    exact h before s after (List.append_inj' hrules rfl).1 n hn

theorem LacksFirst.concat (h : t.LacksFirst rules n) : t.LacksFirst (rules ++ [r]) n := by
  obtain ⟨before, s, after, rfl, hrest⟩ := h
  exact ⟨before, s, after ++ [r], by simp, hrest⟩

theorem LacksFirst.not_serves (h : t.LacksFirst rules n) : ¬t.Serves rules := by
  obtain ⟨before, r, after, hrules, -, hn, hmissing⟩ := h
  exact fun hserves => hmissing (hserves before r after hrules n hn)

theorem LacksFirst.unique (hn : t.LacksFirst rules n) (hm : t.LacksFirst rules m) : n = m := by
  obtain ⟨before₁, r₁, after₁, h₁, hserves₁, hneeds₁, hmissing₁⟩ := hn
  obtain ⟨before₂, r₂, after₂, h₂, hserves₂, hneeds₂, hmissing₂⟩ := hm
  -- of two such rules none stands in front of the other
  rcases List.append_eq_append_iff.1 (h₁.symm.trans h₂) with
    ⟨between, rfl, hrest⟩ | ⟨between, rfl, hrest⟩
  · cases between with
    | nil =>
      cases hrest
      exact Option.some.inj (hneeds₁.symm.trans hneeds₂)
    | cons s between =>
      cases hrest
      exact absurd (hserves₂ before₁ r₁ between rfl n hneeds₁) hmissing₁
  · cases between with
    | nil =>
      cases hrest
      exact Option.some.inj (hneeds₁.symm.trans hneeds₂)
    | cons s between =>
      cases hrest
      exact absurd (hserves₁ before₂ r₂ between rfl m hneeds₂) hmissing₂

end Table

/-- What is there behind some rules: columns that are as high as the batch, by the names that are
offered, and nothing that was expanded. -/
structure Working.Behind (w : Working) (t : Table) (rules : List Rule) : Prop where
  columns : w.table.columns ≠ []
  height : w.table.height = t.rows
  names : ∀ n, n ∈ w.table.names ↔ t.Offers rules n
  distinct : t.names.Nodup → w.table.names.Nodup
  expanded : w.expanded = []

namespace Working

variable {w : Working} {t : Table} {rules : List Rule} {r : Rule}

/-- Behind one more rule. -/
theorem Behind.concat (h : w.Behind t rules) (d : Deferred) :
    Working.Behind ⟨⟨w.table.height, Table.putIn r.output d w.table.columns⟩, w.expanded⟩ t
      (rules ++ [r]) where
  columns := Table.putIn_ne_nil
  height := h.height
  names n := by
    rw [Table.offers_concat, ← h.names]
    exact Table.mem_names_putIn
  distinct ht := (Table.extends_putEach [(r.output, d)]).distinct (h.distinct ht)
  expanded := h.expanded

/-- Behind the name of the provider. -/
theorem behind_provider (t : Table) (provider : String) :
    Working.Behind ⟨⟨t.rows, Table.putIn CompiledPlan.providerColumn
      ⟨.text, .ok (List.replicate t.rows (.text provider))⟩ t.columns⟩, []⟩ t [] where
  columns := Table.putIn_ne_nil
  height := rfl
  names n := by
    simp only [Table.Offers, List.not_mem_nil, false_and, exists_false, or_false]
    exact Table.mem_names_putIn
  distinct ht := (Table.extends_putEach (t := t) [(CompiledPlan.providerColumn, _)]).distinct ht
  expanded := rfl

end Working

/-! ### Plans -/

namespace CompiledPlan

variable {p : CompiledPlan} {t : Table} {w : Working} {rules : List Rule} {r : Rule}

/-- **The steps of a plan of simple rules.**  Either every rule finds the column that it needs, or
the steps fail for want of the first one that is missing. -/
theorem run_spec (t : Table) (provider : String) (hrules : ∀ r ∈ rules, r.IsSimple) :
    ∃ p, build .standard ⟨provider, rules⟩ = .ok p ∧ p.statements = [] ∧
      ((∃ w, p.assignAll t = .ok w ∧ t.Serves rules ∧ w.Behind t rules) ∨
        ∃ n, p.assignAll t = .error (.missingColumn n) ∧ t.LacksFirst rules n) := by
  induction rules using List.reverseRecOn with
  | nil =>
    exact ⟨start provider, rfl, rfl, .inl ⟨_, rfl, Table.serves_nil, Working.behind_provider t _⟩⟩
  | append_singleton rules r ih =>
    obtain ⟨p, hp, hstatements, hrun⟩ := ih fun s hs => hrules s (List.mem_append_left _ hs)
    obtain ⟨a, hstep, hassign⟩ := Rule.exists_assign (hrules r (by simp))
    refine ⟨_, build_concat hp hstep, by simp [behind, hstatements, PlanStep.statement?], ?_⟩
    rcases hrun with ⟨w, hw, hserves, hbehind⟩ | ⟨n, herror, hlacks⟩
    · rw [assignAll_behind hw]
      obtain ⟨hmissing, hfound⟩ := hassign w hbehind.columns
      by_cases hneeds : ∀ n, r.needs? = some n → n ∈ w.table.names
      · obtain ⟨d, hd⟩ := hfound hneeds
        exact .inl ⟨_, hd, hserves.concat fun n hn => (hbehind.names n).1 (hneeds n hn),
          hbehind.concat d⟩
      · push Not at hneeds
        obtain ⟨n, hn, hnot⟩ := hneeds
        exact .inr ⟨n, hmissing n hn hnot, rules, r, [], rfl, hserves, hn,
          mt (hbehind.names n).2 hnot⟩
    · -- the rules in front have failed, and the last one does not come to its turn
      exact .inr ⟨n, assignAll_behind_error herror, hlacks.concat⟩

/-- Nothing goes wrong at the drop where all names are plain, or nothing is temporary. -/
theorem exists_withoutTemporaries {temporaries : List String} (hdistinct : t.names.Nodup)
    (h : (∀ n ∈ t.names, Table.IsPlain n) ∨ temporaries = []) :
    ∃ u, withoutTemporaries t temporaries = .ok u := by
  rcases h with hplain | rfl
  · rw [withoutTemporaries]
    split
    · rw [Table.select_filter hdistinct hplain]
      exact ⟨_, Table.ofColumns_eq_ok.2 ⟨hdistinct.sublist (List.filter_sublist.map _), rfl⟩⟩
    · exact ⟨t, rfl⟩
  · exact ⟨t, withoutTemporaries_nil⟩

theorem apply_of_assignAll_error {e : FrameError} (h : p.assignAll t = .error e) :
    p.apply t = .error (.ofFrame e) := by
  rw [apply, h]
  rfl

/-- A plan of simple rules, with the drop. -/
theorem apply_spec (t : Table) (provider : String) (hrules : ∀ r ∈ rules, r.IsSimple)
    (hdistinct : t.names.Nodup)
    (hplain : (∀ n ∈ t.names, Table.IsPlain n) ∨ ∀ r ∈ rules, r.isTemporary = false) :
    ∃ p, build .standard ⟨provider, rules⟩ = .ok p ∧
      ((t.Serves rules ∧ ∃ a, p.apply t = .ok a) ∨
        ∃ n, t.LacksFirst rules n ∧ p.apply t = .error (.missingColumn n)) := by
  obtain ⟨p, hp, hstatements, ⟨⟨u, _⟩, hw, hserves, hbehind⟩ | ⟨n, herror, hlacks⟩⟩ :=
    run_spec t provider hrules
  · obtain rfl := hbehind.expanded
    -- the names that the rules add are plain, so only those of the batch matter to the drop
    have hdropped : (∀ n ∈ u.names, Table.IsPlain n) ∨ p.temporaryColumns = [] := by
      refine hplain.imp (fun hplain n hn => ?_) fun hkept => ?_
      · rcases (hbehind.names n).1 hn with hbatch | rfl | ⟨s, -, rfl⟩
        · exact hplain n hbatch
        · decide
        · exact s.isPlain_output
      · refine List.eq_nil_iff_forall_not_mem.2 fun n hn => ?_
        obtain ⟨r, hr, htemporary, -⟩ := (temporaryColumns_mem_iff hp).1 hn
        simp [hkept r hr] at htemporary
    obtain ⟨v, hv⟩ := exists_withoutTemporaries (hbehind.distinct hdistinct) hdropped
    exact ⟨p, hp, .inl ⟨hserves, _, apply_of_drop hw hstatements hv⟩⟩
  · exact ⟨p, hp, .inr ⟨n, hlacks, apply_of_assignAll_error herror⟩⟩

/-- A column that some more rules do not fill. -/
theorem find?_assignAll_append {provider o : String} {before after : List Rule}
    (hrules : ∀ r ∈ before ++ after, r.IsSimple) (ho : ∀ r ∈ after, r.output ≠ o)
    (hp : build .standard ⟨provider, before ++ after⟩ = .ok p) (hw : p.assignAll t = .ok w) :
    ∃ q v, build .standard ⟨provider, before⟩ = .ok q ∧ q.assignAll t = .ok v ∧
      w.table.find? o = v.table.find? o := by
  induction after using List.reverseRecOn generalizing p w with
  | nil => exact ⟨p, w, by simpa using hp, hw, rfl⟩
  | append_singleton after r ih =>
    rw [← List.append_assoc] at hrules hp
    have hfront : ∀ s ∈ before ++ after, s.IsSimple := fun s hs =>
      hrules s (List.mem_append_left _ hs)
    obtain ⟨p', hp', -, hrun⟩ := run_spec t provider hfront
    obtain ⟨a, hstep, hassign⟩ := Rule.exists_assign (hrules r (by simp))
    obtain rfl : p'.behind r (.assign a) = p :=
      Except.ok.inj ((build_concat hp' hstep).symm.trans hp)
    rcases hrun with ⟨w', hw', -, hbehind⟩ | ⟨n, herror, -⟩
    · rw [assignAll_behind hw'] at hw
      obtain ⟨hmissing, hfound⟩ := hassign w' hbehind.columns
      by_cases hneeds : ∀ n, r.needs? = some n → n ∈ w'.table.names
      · obtain ⟨d, hd⟩ := hfound hneeds
        obtain rfl := Except.ok.inj (hd.symm.trans hw)
        obtain ⟨q, v, hq, hv, hsame⟩ := ih hfront (fun s hs => ho s (by simp [hs])) hp' hw'
        have hne : o ≠ r.output := (ho r (by simp)).symm
        exact ⟨q, v, hq, hv, (Table.lookup_putIn_of_ne hne).trans hsame⟩
      · push Not at hneeds
        obtain ⟨n, hn, hnot⟩ := hneeds
        cases (hmissing n hn hnot).symm.trans hw
    · cases (assignAll_behind_error herror).symm.trans hw

/-- What a rule has filled is exported, if no rule behind fills the same column and it is not
temporary. -/
theorem find?_of_apply_append {provider : String} {q : CompiledPlan} {a : AppliedBatch}
    {before after : List Rule} (hrules : ∀ s ∈ before ++ r :: after, s.IsSimple)
    (hkept : r.isTemporary = false) (hlater : ∀ s ∈ after, s.output ≠ r.output)
    (hp : build .standard ⟨provider, before ++ r :: after⟩ = .ok p)
    (hq : build .standard ⟨provider, before ++ [r]⟩ = .ok q) (hw : q.assignAll t = .ok w)
    (ha : p.apply t = .ok a) :
    r.output ∈ a.table.names ∧ a.table.find? r.output = w.table.find? r.output := by
  obtain ⟨p', hp', hstatements, ⟨v, hv, -, hbehind⟩ | ⟨n, herror, -⟩⟩ :=
    run_spec t provider hrules
  · obtain rfl : p' = p := Except.ok.inj (hp'.symm.trans hp)
    have hnames : r.output ∈ v.table.names := (hbehind.names _).2 (.inr (.inr ⟨r, by simp, rfl⟩))
    have hunderscore : '_' ∉ r.output.toList :=
      Rule.output_of_not_temporary hkept ▸ r.focusColumn.underscore_not_mem
    obtain ⟨hmem, hdropped⟩ :=
      find?_of_apply hp hstatements hv hnames r.isPlain_output hunderscore ha
    rw [List.append_cons] at hrules hp
    obtain ⟨q', u, hq', hu, hsame⟩ := find?_assignAll_append hrules hlater hp hv
    obtain rfl : q' = q := Except.ok.inj (hq'.symm.trans hq)
    obtain rfl : u = w := Except.ok.inj (hu.symm.trans hw)
    exact ⟨hmem, hdropped.trans hsame⟩
  · obtain rfl : p' = p := Except.ok.inj (hp'.symm.trans hp)
    cases (apply_of_assignAll_error herror).symm.trans ha

/-- A rule for a column that may be missing never fails: it copies the column where it is there, and
fills its own with the default where it is not. -/
theorem assignAll_fillsMissing {source : String} {value : Literal} (t : Table) (provider : String)
    (hrules : ∀ s ∈ rules ++ [r], s.IsSimple) (hr : r.FillsMissing source value) :
    ∃ p q, build .standard ⟨provider, rules⟩ = .ok p ∧
      build .standard ⟨provider, rules ++ [r]⟩ = .ok q ∧
      ∀ w, p.assignAll t = .ok w → ∃ u, q.assignAll t = .ok u ∧
        (t.Offers rules source → ∃ d, w.table.find? source = some d ∧
          u.table.find? r.output = some d) ∧
        (¬t.Offers rules source → u.table.find? r.output =
          some ⟨value.dtype, .ok (List.replicate t.rows (Cell.ofLiteral value))⟩) := by
  obtain ⟨p, hp, -, hrun⟩ := run_spec t provider fun s hs => hrules s (List.mem_append_left _ hs)
  refine ⟨p, _, hp, build_concat hp hr.step, fun w hw => ?_⟩
  obtain ⟨w', hw', -, hbehind⟩ | ⟨n, herror, -⟩ := hrun
  · obtain rfl : w' = w := Except.ok.inj (hw'.symm.trans hw)
    have hplain : Table.IsPlain source :=
      (hrules r (by simp)).plain source hr.source (by rw [hr.kind]; rfl)
    rw [assignAll_behind hw, Working.assign_default hbehind.columns hplain]
    refine ⟨_, rfl, fun hoffers => ?_, fun hmissing => ?_⟩
    · obtain ⟨d, hd⟩ := Option.isSome_iff_exists.1
        (Table.isSome_find?.2 ((hbehind.names source).2 hoffers))
      exact ⟨d, hd, Table.lookup_putIn_self.trans (by rw [hd]; rfl)⟩
    · have hnone : w'.table.find? source = none := Option.not_isSome_iff_eq_none.1
        (mt Table.isSome_find?.1 (mt (hbehind.names source).1 hmissing))
      exact Table.lookup_putIn_self.trans (by rw [hnone, hbehind.height]; rfl)
  · cases herror.symm.trans hw

/-- **A plan fails for want of the first column that is missing, and for nothing else.**  Of rules
that copy, map or cast a column, fill one with a constant, or copy one that may be missing, only the
first three kinds need a column: one of the batch, the name of the provider, or the output of a rule
before.  If one is not there, the plan fails with its name and the exporter does not see the batch;
and a rule for a column that may be missing copies it, or fills its own with the default.  If some
rule has a prefix, no column of the batch may look like a pattern. -/
theorem apply_lacks {S σ ε : Type} {plan : Plan} (hrules : ∀ r ∈ plan.rules, r.IsSimple)
    (hdistinct : t.names.Nodup)
    (hplain : (∀ n ∈ t.names, Table.IsPlain n) ∨ ∀ r ∈ plan.rules, r.isTemporary = false) :
    ∃ p, build .standard plan = .ok p ∧
      ((∃ e, p.apply t = .error e) ↔ ∃ before r after n, plan.rules = before ++ r :: after ∧
        r.needs? = some n ∧ ¬t.Offers before n) ∧
      (∀ e, p.apply t = .error e ↔ ∃ n, t.LacksFirst plan.rules n ∧ e = .missingColumn n) ∧
      (∀ n, t.LacksFirst plan.rules n →
        ∀ (x : Exporter S σ ε) (batches : List (Except σ Table)) (g : Progress S),
          exportBatches p x (.ok t :: batches) g =
            (.error (.apply (.missingColumn n)), { g with taken := g.taken + 1 })) ∧
      ∀ before r after source value, plan.rules = before ++ r :: after →
        r.FillsMissing source value → ∃ p₀ q,
          build .standard ⟨plan.provider, before⟩ = .ok p₀ ∧
          build .standard ⟨plan.provider, before ++ [r]⟩ = .ok q ∧
          ∀ w, p₀.assignAll t = .ok w → ∃ u, q.assignAll t = .ok u ∧
            (t.Offers before source → ∃ d, w.table.find? source = some d ∧
              u.table.find? r.output = some d) ∧
            (¬t.Offers before source → u.table.find? r.output =
              some ⟨value.dtype, .ok (List.replicate t.rows (Cell.ofLiteral value))⟩) ∧
            (r.isTemporary = false → (∀ s ∈ after, s.output ≠ r.output) → ∀ a, p.apply t = .ok a →
              r.output ∈ a.table.names ∧ a.table.find? r.output = u.table.find? r.output) := by
  obtain ⟨provider, rules⟩ := plan
  obtain ⟨p, hp, happly⟩ := apply_spec t provider hrules hdistinct hplain
  have herror : ∀ e, p.apply t = .error e ↔ ∃ n, t.LacksFirst rules n ∧ e = .missingColumn n := by
    intro e
    rcases happly with ⟨hserves, a, ha⟩ | ⟨n, hlacks, ha⟩
    · rw [ha]
      constructor
      · intro h
        cases h
      · rintro ⟨n, hlacks, -⟩
        exact absurd hserves hlacks.not_serves
    · rw [ha, Except.error.injEq]
      constructor
      · rintro rfl
        exact ⟨n, hlacks, rfl⟩
      · rintro ⟨m, hm, rfl⟩
        rw [hlacks.unique hm]
  refine ⟨p, hp, ⟨?_, ?_⟩, herror, ?_, ?_⟩
  · rintro ⟨e, he⟩
    obtain ⟨n, ⟨before, r, after, hrules, -, hn, hmissing⟩, -⟩ := (herror e).1 he
    exact ⟨before, r, after, n, hrules, hn, hmissing⟩
  · rintro ⟨before, r, after, n, hrules, hn, hmissing⟩
    rcases happly with ⟨hserves, -⟩ | ⟨n, -, ha⟩
    · exact absurd (hserves before r after hrules n hn) hmissing
    · exact ⟨_, ha⟩
  · intro n hlacks x batches g
    rw [exportBatches, (herror _).2 ⟨n, hlacks, rfl⟩]
  · rintro before r after source value rfl hr
    have hfront : ∀ s ∈ before ++ [r], s.IsSimple := fun s hs =>
      hrules s ((List.append_cons before r after) ▸ List.mem_append_left after hs)
    obtain ⟨p₀, q, hp₀, hq, hfills⟩ := assignAll_fillsMissing t provider hfront hr
    refine ⟨p₀, q, hp₀, hq, fun w hw => ?_⟩
    obtain ⟨u, hu, hcopied, hfilled⟩ := hfills w hw
    exact ⟨u, hu, hcopied, hfilled, fun hkept hlater a ha =>
      find?_of_apply_append hrules hkept hlater hp hq hu ha⟩

/-- A batch without the zone that the last rule copies: the default in front of it is filled, and
the plan fails. -/
theorem apply_lacks_zone :
    let region : Rule := ⟨"region", .region, some "area", .renameColumn, .none, none, 0, 0⟩
    let account : Rule := ⟨"account", .subAccountId, some "account", .applyDefaultIfColumnMissing,
      .defaultValue (.text "none"), none, 0, 0⟩
    let zone : Rule := ⟨"zone", .availabilityZone, some "zone", .renameColumn, .none, none, 0, 0⟩
    let t : Table := ⟨2, [("area", ⟨.text, .ok [.text "eu", .null]⟩)]⟩
    ∃ p q u, build .standard ⟨"aws", [region, account, zone]⟩ = .ok p ∧
      p.apply t = .error (.missingColumn "zone") ∧
      build .standard ⟨"aws", [region, account]⟩ = .ok q ∧ q.assignAll t = .ok u ∧
      u.table.find? "SubAccountId" = some ⟨.text, .ok [.text "none", .text "none"]⟩ := by
  intro region account zone t
  have hregion : region.IsSimple :=
    ⟨⟨{ planName := "region", focusColumn := "Region", sourceColumn := "area",
        conversionType := "rename_column" }, rfl⟩, by decide, by simp [region]; decide⟩
  have haccount : account.IsSimple :=
    ⟨⟨{ planName := "account", focusColumn := "SubAccountId", sourceColumn := "account",
        conversionType := "apply_default_if_column_missing",
        conversionArgs := some (.entries [("default_value", .text "none")]) }, rfl⟩,
      by decide, by simp [account]; decide⟩
  have hzone : zone.IsSimple :=
    ⟨⟨{ planName := "zone", focusColumn := "AvailabilityZone", sourceColumn := "zone",
        conversionType := "rename_column" }, rfl⟩, by decide, by simp [zone]; decide⟩
  have hrules : ∀ r ∈ [region, account, zone], r.IsSimple := by
    simp [hregion, haccount, hzone]
  obtain ⟨p, hp, -, herror, -, hfills⟩ := @apply_lacks t Unit Unit Unit
    ⟨"aws", [region, account, zone]⟩ hrules (by decide) (.inl (by decide))
  have hserves : t.Serves [region, account] := by
    refine Table.Serves.concat (Table.serves_nil.concat (r := region) ?_) ?_
    · rintro _ ⟨⟩
      exact .inl (by decide)
    · rintro _ ⟨⟩
  have hmissing : ¬t.Offers [region, account] "zone" := by
    simp only [Table.Offers, List.mem_cons, List.not_mem_nil, or_false, exists_eq_or_imp,
      exists_eq_left]
    decide
  have hunnamed : ¬t.Offers [region] "account" := by
    simp only [Table.Offers, List.mem_singleton, exists_eq_left]
    decide
  obtain ⟨p₀, q, hp₀, hq, hassigned⟩ := hfills [region] account [zone] "account" (.text "none") rfl
    ⟨rfl, rfl, rfl⟩
  obtain rfl := Except.ok.inj hp₀
  obtain ⟨u, hu, -, hfilled, -⟩ := hassigned _ rfl
  have hlacks : t.LacksFirst [region, account, zone] "zone" :=
    ⟨_, zone, [], rfl, hserves, rfl, hmissing⟩
  exact ⟨p, q, u, hp, (herror _).2 ⟨"zone", hlacks, rfl⟩, hq, hu, hfilled hunnamed⟩

/-- A source column whose name looks like a pattern is not there, and no want of it is told: the
rule copies the column that the pattern matches. -/
theorem pattern_column_found :
    let drafts : List RuleDraft :=
      [{ planName := "region", focusColumn := "Region", sourceColumn := "^x$",
         conversionType := "rename_column" }]
    let t : Table := ⟨1, [("x", ⟨.text, .ok [.text "v"]⟩)]⟩
    ∃ r q a, drafts.mapM RuleDraft.validate = .ok [r] ∧ r.needs? = some "^x$" ∧
      ¬t.Offers [] "^x$" ∧ build .standard ⟨"test", [r]⟩ = .ok q ∧ q.apply t = .ok a ∧
      a.table.find? "Region" = some ⟨.text, .ok [.text "v"]⟩ := by
  intro drafts t
  let r : Rule := ⟨"region", .region, some "^x$", .renameColumn, .none, none, 0, 0⟩
  have hrules : drafts.mapM RuleDraft.validate = .ok [r] := by
    simp only [drafts, r]
    rfl
  have hmissing : ¬t.Offers [] "^x$" := by
    simp only [Table.Offers, List.not_mem_nil, false_and, exists_false, or_false]
    decide
  let w : Working := ⟨⟨1, [("x", ⟨.text, .ok [.text "v"]⟩),
    ("provider", ⟨.text, .ok [.text "test"]⟩)]⟩, []⟩
  have hstart : (start "test").assignAll t = .ok w := rfl
  have hmatching : w.table.matching "^x$" = .ok ["x"] := by decide +kernel
  have hexpand : (Scalar.column "^x$").expand w.table = .ok [.column "x"] :=
    Scalar.expand_of_reads (n := "^x$") (by simp [Scalar.reads]) hmatching
  have hassign : w.assign (.column "Region" (.column "^x$")) = _ :=
    Working.assign_column (by simp [w]) hexpand rfl
  let q := (start "test").behind r (.assign (.column "Region" (.column "^x$")))
  have hempty : build .standard ⟨"test", []⟩ = .ok (start "test") := rfl
  exact ⟨r, q, _, hrules, rfl, hmissing, build_concat hempty rfl,
    apply_of_drop ((assignAll_behind hstart).trans hassign) rfl withoutTemporaries_nil, rfl⟩

end CompiledPlan

end FocusBilling
