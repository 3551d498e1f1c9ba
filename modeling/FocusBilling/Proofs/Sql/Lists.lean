import FocusBilling.Proofs.Sql.Cells
import FocusBilling.Sql.Elaborate

/-!
# Lists of values in formulas

The values behind `IN` are written out in the text of a statement, so that a formula has them at
hand.

* `Elaborated.Gives` : what all results of an elaboration have in common;
* `gives_meaning`, `gives_called` : functions by name, and calls;
* `Scope.gives_operated` : operators;
* `Scope.gives_formula` : **what an expression means has its lists of values at hand.**
-/

namespace FocusBilling

namespace Sql

/-! ### Results of elaborations -/

/-- What comes of an elaboration, if it succeeds, has a property. -/
def Gives {α : Type} (P : α → Prop) (x : Elaborated α) : Prop := ∀ a, x = .ok a → P a

section Gives

variable {α β : Type} {P : α → Prop} {Q : β → Prop}

@[simp] theorem gives_ok {a : α} : Gives P (.ok a) ↔ P a := by simp [Gives]

@[simp] theorem gives_pure {a : α} : Gives P (pure a) ↔ P a := gives_ok

@[simp] theorem gives_unsupported : Gives P unsupported := by
  intro a h
  cases h

@[simp] theorem gives_unsupported_bind {f : α → Elaborated β} : Gives Q (unsupported >>= f) := by
  intro b h
  cases h

theorem Gives.bind {x : Elaborated α} {f : α → Elaborated β} (hx : Gives P x)
    (hf : ∀ a, P a → Gives Q (f a)) : Gives Q (x >>= f) := by
  intro b h
  obtain ⟨a, ha, hb⟩ := bind_eq_ok.1 h
  exact hf a (hx a ha) b hb

theorem Gives.of_any {x : Elaborated α} {f : α → Elaborated β} (hf : ∀ a, Gives Q (f a)) :
    Gives Q (x >>= f) :=
  Gives.bind (P := fun _ => True) (fun _ _ => trivial) fun a _ => hf a

end Gives

open Formula

attribute [local simp] AtHand ofText ofBool Formula.missing Formula.not choose Formula.compare
  compute

variable {a b c F : Formula}

theorem atHand_notIf {negated : Bool} (ha : a.AtHand) : (notIf negated a).AtHand := by
  unfold notIf
  split <;> simp [ha]

/-! ### Texts and dates -/

section Cutting

attribute [local simp] sliced lengthOf notBelowZero absoluteOf

theorem gives_leftOf (ha : a.AtHand) (hb : b.AtHand) : Gives AtHand (leftOf a b) := by
  unfold leftOf
  dsimp only
  repeat' split
  all_goals simp [ha, hb]

theorem gives_rightOf (ha : a.AtHand) (hb : b.AtHand) : Gives AtHand (rightOf a b) := by
  unfold rightOf
  dsimp only
  repeat' split
  all_goals simp [ha, hb]

theorem gives_cutFrom (ha : a.AtHand) (hb : b.AtHand) : Gives AtHand (cutFrom a b) := by
  unfold cutFrom
  repeat' split
  all_goals simp [ha, hb]

theorem gives_cutBetween (ha : a.AtHand) (hb : b.AtHand) (hc : c.AtHand) :
    Gives AtHand (cutBetween a b c) := by
  unfold cutBetween
  dsimp only
  repeat' split
  all_goals simp [ha, hb, hc]

theorem atHand_pieceOf (ha : a.AtHand) (hb : b.AtHand) (hc : c.AtHand) :
    (pieceOf a b c).AtHand := by
  have hzero : (zeroBased c).AtHand := by
    unfold zeroBased
    repeat' split
    all_goals simp [hc]
  simp [pieceOf, ha, hb, hzero]

theorem atHand_placeOf (ha : a.AtHand) (hb : b.AtHand) : (placeOf a b).AtHand := by
  simp [placeOf, ha, hb]

end Cutting

section DatePart

attribute [local simp] fieldPart doubleOf secondsIn epochOf weekdayFromSunday

theorem gives_datePart {name : String} (ha : a.AtHand) : Gives AtHand (datePart name a) := by
  unfold datePart
  split
  all_goals simp [ha]

theorem gives_namedPart {name : String} (ha : a.AtHand) : Gives AtHand (namedPart name a) := by
  unfold namedPart
  split
  · exact gives_datePart ha
  · simp

theorem gives_extractedPart {f : DateField} (ha : a.AtHand) :
    Gives AtHand (extractedPart f a) := by
  unfold extractedPart
  split
  · exact gives_datePart ha
  · exact gives_namedPart ha
  · simp

end DatePart

/-! ### Functions by name -/

section Meaning

variable {name : String} {args : List Formula}

attribute [local simp] numberCall textCall trimmedCall lengthOf unlessEqual

theorem atHand_unaryMeaning {f : Formula → Formula} (h : unaryMeaning? name = some f)
    (ha : a.AtHand) : (f a).AtHand := by
  simp only [unaryMeaning?, Option.or_eq_some_iff, Option.map_eq_some_iff] at h
  obtain (h | ⟨_, h⟩) | ⟨_, total, _, rfl⟩ := h
  · unfold numberMeaning? at h
    split at h <;> cases h <;> simp [ha]
  · unfold textMeaning? at h
    split at h <;> cases h <;> simp [ha]
  · simp [ha]

theorem gives_roundedCall (ha : a.AtHand) : Gives AtHand (roundedCall a b) := by
  unfold roundedCall
  repeat' split
  all_goals simp [ha]

theorem gives_logCall (ha : a.AtHand) : Gives AtHand (logCall a b) := by
  unfold logCall
  repeat' split
  all_goals simp [ha]

theorem gives_quantileCall {between : Bool} (ha : a.AtHand) :
    Gives AtHand (quantileCall between a b) := by
  unfold quantileCall
  dsimp only
  repeat' split
  all_goals simp [ha]

theorem gives_byPattern {f : String → TimeFunction} (ha : a.AtHand) :
    Gives AtHand (byPattern f a b) := by
  unfold byPattern
  split <;> simp [ha]

theorem gives_datePartCall (hb : b.AtHand) : Gives AtHand (datePartCall a b) := by
  unfold datePartCall
  split
  · exact gives_namedPart hb
  · simp

theorem gives_binaryMeaning {f : Formula → Formula → Elaborated Formula}
    (h : binaryMeaning? name = some f) (ha : a.AtHand) (hb : b.AtHand) : Gives AtHand (f a b) := by
  unfold binaryMeaning? at h
  split at h <;> cases h
  all_goals first
    | exact gives_leftOf ha hb
    | exact gives_rightOf ha hb
    | exact gives_cutFrom ha hb
    | exact gives_roundedCall ha
    | exact gives_logCall ha
    | exact gives_quantileCall ha
    | exact gives_byPattern ha
    | exact gives_datePartCall hb
    | exact gives_ok.2 (atHand_placeOf ha hb)
    | simp [ha, hb]

theorem gives_ternaryMeaning {f : Formula → Formula → Formula → Elaborated Formula}
    (h : ternaryMeaning? name = some f) (ha : a.AtHand) (hb : b.AtHand) (hc : c.AtHand) :
    Gives AtHand (f a b c) := by
  have hflags : Gives AtHand (foundWithFlags a b c) := by
    unfold foundWithFlags
    repeat' split
    all_goals simp [ha]
  unfold ternaryMeaning? at h
  split at h <;> cases h
  all_goals first
    | exact hflags
    | exact gives_cutBetween ha hb hc
    | exact gives_ok.2 (atHand_pieceOf ha hb hc)
    | simp [ha, hb, hc]

theorem gives_variadicMeaning {f : List Formula → Elaborated Formula}
    (h : variadicMeaning? name = some f) (hargs : ∀ a ∈ args, a.AtHand) :
    Gives AtHand (f args) := by
  unfold variadicMeaning? at h
  split at h <;> cases h
  case h_3 =>
    dsimp only
    split
    · simp only [List.forall_mem_cons] at hargs
      split
      · simpa using hargs.2
      · simp
    · simp
  case h_2 =>
    dsimp only
    split
    · simp
    · simpa using hargs
  all_goals simpa using hargs

/-- A function by name on arguments. -/
theorem gives_meaning (hargs : ∀ a ∈ args, a.AtHand) : Gives AtHand (meaning name args) := by
  unfold meaning
  split
  case h_1 hf => exact gives_variadicMeaning hf hargs
  case h_2 => split <;> simp
  case h_6 => simp
  all_goals simp only [List.forall_mem_cons] at hargs
  case h_3 =>
    cases hf : unaryMeaning? name with
    | none => simp
    | some f => simpa using atHand_unaryMeaning hf hargs.1
  case h_4 =>
    cases hf : binaryMeaning? name with
    | none => simp
    | some f => exact gives_binaryMeaning hf hargs.1 hargs.2.1
  case h_5 =>
    cases hf : ternaryMeaning? name with
    | none => simp
    | some f => exact gives_ternaryMeaning hf hargs.1 hargs.2.1 hargs.2.2.1

end Meaning

/-! ### Operators, choices and windows -/

section Combining

variable {s : Scope} {args partition : List Formula} {order : List WindowKey}

attribute [local simp] found asText Scope.compared

theorem atHand_asInstant (hb : b.AtHand) : (s.asInstant a b).AtHand := by
  unfold Scope.asInstant
  repeat' split
  all_goals simp [hb]

theorem atHand_compared {op : Comparison} (ha : a.AtHand) (hb : b.AtHand) :
    (s.compared op a b).AtHand := by
  simp [ha, atHand_asInstant hb]

theorem gives_matched {ignoreCase negated : Bool} (ha : a.AtHand) (hb : b.AtHand) :
    Gives AtHand (s.matched ignoreCase negated a b) := by
  unfold Scope.matched
  split
  · rw [gives_ok]
    refine atHand_notIf ?_
    split
    · exact atHand_compared ha hb
    · simp [ha]
  · simp

theorem gives_pathInto {countsItems isText : Bool} (ha : a.AtHand) :
    Gives AtHand (Scope.pathInto countsItems isText a b) := by
  have hfold : ∀ {p : String → Bool} {keys : List String} {a : Formula}, a.AtHand →
      Gives AtHand (keys.foldlM (fun a k =>
        if p k then unsupported else .ok (.apply (.field (Text.trim k)) [a])) a) := by
    intro p keys
    induction keys with
    | nil =>
      intro a ha
      simpa using ha
    | cons k keys ih =>
      intro a ha
      rw [List.foldlM_cons]
      split
      · exact gives_unsupported_bind
      · exact ih (by simpa using ha)
  unfold Scope.pathInto
  split
  · refine (hfold ha).bind fun field hfield => ?_
    rw [gives_pure]
    split <;> simp [hfield]
  · simp

theorem gives_searched {ignoreCase negated : Bool} (ha : a.AtHand) :
    Gives AtHand (Scope.searched ignoreCase negated a b) := by
  unfold Scope.searched
  split
  · exact gives_ok.2 (atHand_notIf (by simp [ha]))
  · simp

/-- An operator between two formulas. -/
theorem Scope.gives_operated {op : BinaryOp} (ha : a.AtHand) (hb : b.AtHand) :
    Gives AtHand (s.operated op a b) := by
  have hc := atHand_asInstant (s := s) (a := a) hb
  unfold Scope.operated
  dsimp only
  split
  all_goals first
    | exact gives_matched ha hb
    | exact gives_searched ha
    | exact gives_pathInto ha
    | simp [ha, hc]

theorem gives_comparedWithAll {isAll : Bool} {op : BinaryOp} (ha : a.AtHand) (hb : b.AtHand) :
    Gives AtHand (Scope.comparedWithAll isAll op a b) := by
  unfold Scope.comparedWithAll
  dsimp only
  split
  all_goals simp [ha, hb]

theorem gives_membership {negated : Bool} {items : List Expr} (ha : a.AtHand) :
    Gives AtHand (s.membership negated a items) := by
  have hlisted : Gives (fun d : Deferred => ∃ cells, d.cells = .ok cells) (listedValues items) := by
    unfold listedValues
    refine .of_any fun found => ?_
    dsimp only
    split <;> simp
  have hmade : ∀ d : Deferred, (∃ cells, d.cells = .ok cells) →
      (notIf negated (.apply .among [a, .listed d])).AtHand :=
    fun d hd => atHand_notIf (by simp [ha, hd])
  unfold Scope.membership
  refine hlisted.bind fun listed hcells => ?_
  dsimp only
  -- the values are those of the list, or what they are read as
  split
  · split
    · split
      · exact gives_pure.2 (hmade _ ⟨_, rfl⟩)
      · exact gives_unsupported_bind
    · exact gives_pure.2 (hmade _ hcells)
  · exact gives_pure.2 (hmade _ hcells)

theorem atHand_casesOf {operand : Option Formula} {conditions results : List Formula}
    (hoperand : ∀ a ∈ operand, a.AtHand) (hconditions : ∀ c ∈ conditions, c.AtHand)
    (hresults : ∀ r ∈ results, r.AtHand) (ha : a.AtHand) :
    (casesOf operand conditions results a).AtHand := by
  induction conditions generalizing results with
  | nil => exact ha
  | cons c conditions ih =>
    cases results with
    | nil => exact ha
    | cons r results =>
      simp only [List.forall_mem_cons] at hconditions hresults
      have hrest := ih hconditions.2 hresults.2
      cases operand with
      | none => simp [casesOf, hconditions.1, hresults.1, hrest]
      | some o => simp [casesOf, hoperand o rfl, hconditions.1, hresults.1, hrest]

theorem gives_testedFor {test : IsTest} {negated : Bool} (ha : a.AtHand) :
    Gives AtHand (testedFor test negated a) := by
  unfold testedFor
  split
  case h_4 => simp
  all_goals exact gives_ok.2 (atHand_notIf (by simp [ha]))

theorem gives_trimmedOf {side : Option TrimSide} {what : Option Formula} (ha : a.AtHand)
    (hwhat : ∀ w ∈ what, w.AtHand) : Gives AtHand (trimmedOf side what a) := by
  unfold trimmedOf
  dsimp only
  split
  · simp [ha]
  next w =>
    split
    · simp [ha, hwhat w rfl]
    · simp

theorem gives_castOf {kind : CastKind} {t : TypeName} {format : Option CastFormat}
    (ha : a.AtHand) : Gives AtHand (castOf kind t format a) := by
  unfold castOf
  split <;> simp [ha]

theorem atHand_overWindow (hpartition : ∀ a ∈ partition, a.AtHand)
    (horder : ∀ k ∈ order, k.1.AtHand) (ha : a.AtHand) :
    (overWindow partition order a).AtHand := by
  unfold overWindow
  split
  · simp only [AtHand, allAtHand_iff, List.forall_mem_map]
    refine ⟨ha, fun k hk => ?_⟩
    have hkey := horder k hk
    split <;> simp [hkey]
  · simpa [ha] using hpartition

theorem gives_calledOver {name : String} {window : Option WindowShape}
    (hpartition : ∀ a ∈ partition, a.AtHand) (horder : ∀ k ∈ order, k.1.AtHand)
    (hargs : ∀ a ∈ args, a.AtHand) (ha : a.AtHand) :
    Gives AtHand (calledOver name window partition order args a) := by
  unfold calledOver
  split
  · exact gives_ok.2 ha
  · simp
  · split
    · simp only [gives_ok, AtHand, allAtHand_iff, List.forall_mem_map]
      exact ⟨hargs _ (by simp), horder⟩
    · exact gives_ok.2 (atHand_overWindow hpartition horder ha)
  · exact gives_ok.2 (atHand_overWindow hpartition horder ha)

theorem gives_countOf {distinct isStar : Bool} (hargs : ∀ a ∈ args, a.AtHand) :
    Gives AtHand (countOf distinct isStar args) := by
  unfold countOf
  split
  all_goals simp_all

/-- A call of a function. -/
theorem gives_called {shape : CallShape} {isStar : Bool} (hargs : ∀ a ∈ args, a.AtHand)
    (hpartition : ∀ a ∈ partition, a.AtHand) (horder : ∀ k ∈ order, k.1.AtHand) :
    Gives AtHand (called shape isStar args partition order) := by
  unfold called
  refine .of_any fun distinct => ?_
  split
  · simp
  split
  · exact (gives_countOf hargs).bind fun a ha => gives_calledOver hpartition horder hargs ha
  split
  · simp
  · refine (gives_meaning hargs).bind fun a ha => ?_
    split
    · exact gives_calledOver hpartition horder hargs ha
    · exact gives_pure.2 ha

end Combining

/-! ### Expressions -/

namespace Scope

variable {s : Scope}

theorem gives_fieldsAt {path : List String} {t : Option DType} (ha : a.AtHand) :
    Gives (∀ b ∈ ·, b.AtHand) (fieldsAt a t path) := by
  fun_induction fieldsAt a t path with
  | case1 => simpa using ha
  | case2 a fs => exact gives_ok.2 (List.forall_mem_map.2 fun f _ => by simpa using ha)
  | case4 => exact gives_unsupported
  | case3 _ _ _ _ _ ih | case5 _ _ _ _ _ _ ih => exact ih (by simpa using ha)

theorem gives_columns (path : List String) : Gives (∀ b ∈ ·, b.AtHand) (s.columns path) := by
  have hcolumn : ∀ table column, (s.columnOf table column).AtHand := by
    intro table column
    unfold columnOf
    dsimp only
    split <;> simp
  unfold columns
  split
  · simp
  · simp
  · split
    · refine .of_any fun g => ?_
      dsimp only
      split
      · exact gives_pure.2 (List.forall_mem_map.2 fun c _ => hcolumn _ _)
      · split
        · exact gives_fieldsAt (hcolumn _ _)
        · simp
    · split
      · exact gives_fieldsAt (hcolumn _ _)
      · exact gives_fieldsAt (by simp)

theorem gives_column (path : List Name) : Gives AtHand (s.column path) := by
  refine (gives_columns _).bind fun found hfound => ?_
  cases found with
  | nil => simp
  | cons a found => exact gives_pure.2 (hfound a List.mem_cons_self)

theorem gives_value (v : Value) : Gives AtHand v.formula := by
  unfold Value.formula
  split
  case h_1 =>
    refine .of_any fun n => ?_
    cases n <;> simp
  all_goals simp

mutual

/-- **What an expression means has its lists of values at hand**, where queries inside it have. -/
theorem gives_formula (hs : ∀ q, Gives AtHand (s.subquery q)) : (e : Expr) →
    Gives AtHand (s.formula e)
  | .column path => by
    rw [formula.eq_def]
    dsimp only
    split
    · simp
    · exact gives_column _
  | .value v => by
    rw [formula]
    exact gives_value v
  | .nested a => by
    rw [formula]
    exact gives_formula hs a
  | .unary op a => by
    rw [formula]
    refine (gives_formula hs a).bind fun x hx => gives_pure.2 ?_
    unfold signed
    split <;> simp [hx]
  | .binary op a b => by
    rw [formula]
    unfold combined
    split
    · simp
    split
    · refine (gives_formula hs a).bind fun x hx => ?_
      unfold shiftedBy
      split <;> simp [hx]
    split
    · refine (gives_formula hs a).bind fun x hx => ?_
      unfold shiftedBy
      split <;> simp [hx]
    split
    · unfold intervalTest
      repeat' split
      all_goals simp
    · exact (gives_formula hs a).bind fun x hx => (gives_formula hs b).bind fun y hy =>
        gives_operated hx hy
  | .quantified isAll isSome op a b => by
    rw [formula]
    exact (gives_formula hs a).bind fun x hx => (gives_formula hs b).bind fun y hy =>
      gives_comparedWithAll hx hy
  | .isTest test negated a => by
    rw [formula]
    exact (gives_formula hs a).bind fun x hx => gives_testedFor hx
  | .isDistinct negated a b => by
    rw [formula]
    exact (gives_formula hs a).bind fun x hx => (gives_formula hs b).bind fun y hy =>
      gives_pure.2 (by simp [hx, hy])
  | .between negated a b c => by
    rw [formula]
    refine (gives_formula hs a).bind fun x hx => (gives_formula hs b).bind fun y hy =>
      (gives_formula hs c).bind fun z hz => gives_pure.2 ?_
    unfold within
    split <;> simp [atHand_compared hx hy, atHand_compared hx hz]
  | .inList negated a items => by
    rw [formula]
    exact (gives_formula hs a).bind fun x hx => gives_membership hx
  | .inQuery negated a q => by
    rw [formula]
    exact (hs q).bind fun values hvalues => (gives_formula hs a).bind fun x hx =>
      gives_pure.2 (atHand_notIf (by simp [hx, hvalues]))
  | .like kind negated isAny a pattern escape => by
    rw [formula]
    split
    · simp
    · exact (gives_formula hs pattern).bind fun p hp => (gives_formula hs a).bind fun x hx =>
        gives_matched hx hp
  | .regexp isRegexp negated a pattern => by
    rw [formula]
    exact (gives_formula hs a).bind fun x hx => (gives_formula hs pattern).bind fun p hp =>
      gives_pure.2 (atHand_notIf (by simp [hx, hp]))
  | .cases operand conditions results otherwise => by
    rw [formula]
    refine (gives_optionalFormula hs otherwise).bind fun d hd =>
      (gives_optionalFormula hs operand).bind fun o ho =>
      (gives_formulas hs conditions).bind fun cs hcs =>
      (gives_formulas hs results).bind fun rs hrs => gives_pure.2 ?_
    refine atHand_casesOf ho hcs hrs ?_
    cases d with
    | none => simp
    | some d => exact hd d rfl
  | .cast kind a t format => by
    rw [formula]
    exact (gives_formula hs a).bind fun x hx => gives_castOf hx
  | .extract f style a => by
    rw [formula]
    exact (gives_formula hs a).bind fun x hx => gives_extractedPart hx
  | .rounding up a field => by
    rw [formula]
    exact (gives_formula hs a).bind fun x hx => gives_pure.2 (by simp [numberCall, hx])
  | .position part text => by
    rw [formula]
    exact (gives_formula hs text).bind fun x hx => (gives_formula hs part).bind fun p hp =>
      gives_pure.2 (atHand_placeOf hx hp)
  | .trim a side what chars => by
    rw [formula]
    split
    · simp
    · exact (gives_formula hs a).bind fun x hx => (gives_optionalFormula hs what).bind fun w hw =>
        gives_trimmedOf hx hw
  | .typed t text => by
    rw [formula]
    unfold typedText
    repeat' split
    all_goals simp
  | .call c => by
    rw [formula]
    exact gives_callFormula hs c
  | .introduced .. | .star | .starOf _ | .matchAgainst .. | .convert .. | .collate .. | .interval ..
  | .named .. | .member .. | .prior _ | .inArray .. | .atZone .. | .index .. | .tuple _ | .array ..
  | .struct .. | .record .. | .map _ | .groupingSets .. | .substring .. | .overlay .. | .exists ..
  | .subquery _ | .slice .. => by simp [formula]

theorem gives_formulas (hs : ∀ q, Gives AtHand (s.subquery q)) : (es : List Expr) →
    Gives (∀ a ∈ ·, a.AtHand) (s.formulas es)
  | [] => by simp [formulas]
  | e :: es => by
    rw [formulas]
    exact (gives_formula hs e).bind fun x hx => (gives_formulas hs es).bind fun xs hxs =>
      gives_pure.2 (List.forall_mem_cons.2 ⟨hx, hxs⟩)

theorem gives_optionalFormula (hs : ∀ q, Gives AtHand (s.subquery q)) : (e : Option Expr) →
    Gives (∀ a ∈ ·, a.AtHand) (s.optionalFormula e)
  | none => by simp [optionalFormula]
  | some e => by
    rw [optionalFormula]
    exact (gives_formula hs e).bind fun x hx => gives_pure.2 (by simpa using hx)

theorem gives_callFormula (hs : ∀ q, Gives AtHand (s.subquery q)) : (c : Call) →
    Gives AtHand (s.callFormula c)
  | ⟨shape, _, arguments, _, _, partition, order, _, within⟩ => by
    have hcalled : ∀ args : List Formula, (∀ a ∈ args, a.AtHand) → Gives AtHand (do
        let parts ← s.formulas partition
        called shape (isStar arguments) args parts (← s.windowKeys order)) :=
      fun args hargs => (gives_formulas hs partition).bind fun parts hparts =>
        (gives_windowKeys hs order).bind fun keys hkeys => gives_called hargs hparts hkeys
    rw [callFormula]
    split
    · simp
    · dsimp only
      split
      · exact hcalled [] nofun
      · exact (gives_formulas hs arguments).bind hcalled

theorem gives_windowKeys (hs : ∀ q, Gives AtHand (s.subquery q)) : (ks : List OrderKey) →
    Gives (∀ k ∈ ·, k.1.AtHand) (s.windowKeys ks)
  | [] => by simp [windowKeys]
  | ⟨a, ascending, _, _⟩ :: ks => by
    rw [windowKeys]
    exact (gives_formula hs a).bind fun x hx => (gives_windowKeys hs ks).bind fun keys hkeys =>
      gives_pure.2 (List.forall_mem_cons.2 ⟨hx, hkeys⟩)

end

end Scope

end Sql

end FocusBilling
