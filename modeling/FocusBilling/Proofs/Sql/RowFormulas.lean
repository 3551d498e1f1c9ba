import FocusBilling.Proofs.Sql.Rendering
import FocusBilling.Proofs.Sql.Rowwise

/-!
# Formulas of rows

Formulas without totals, windows and orders, over the rows of two tables and over those of both.

* `Formula.isRowwise` : formulas that are made of functions of the values of a row;
* `Formula.IsLocal` : formulas whose functions look at no other row;
* `Formula.joined_eval` : **a local formula makes of the whole what it makes of the parts**;
* `Scope.formula_congr` : what an expression means is a matter of the columns that it may name.
-/

namespace FocusBilling

namespace Sql

variable {h₁ h₂ : Nat} {t₁ t₂ t : Table}

namespace Formula

mutual

/-- Whether a formula is made of functions of the values of a row; values may be looked for among
others that are written out. -/
def isRowwise : Formula → Bool
  | column _ | constant .. | whole _ | fraction _ => true
  | apply .among [a, listed _] => isRowwise a
  | apply f args => !f.isMembership && areRowwise args
  | named a _ => isRowwise a
  | _ => false

/-- Whether all of some formulas are made of functions of the values of a row. -/
def areRowwise : List Formula → Bool
  | [] => true
  | a :: as => isRowwise a && areRowwise as

end

mutual

/-- A formula whose functions look at no other row of a table, the rows of which stand in two
parts. -/
def IsLocal (h₁ h₂ : Nat) (t : Table) : Formula → Prop
  | apply f args =>
    AreLocal h₁ h₂ t args ∧ ∀ os, evalAll false (.ofTable t) args = .ok os → f.IsLocal h₁ h₂ os
  | named a _ => IsLocal h₁ h₂ t a
  | _ => True

/-- Formulas whose functions look at no other row. -/
def AreLocal (h₁ h₂ : Nat) (t : Table) : List Formula → Prop
  | [] => True
  | a :: as => IsLocal h₁ h₂ t a ∧ AreLocal h₁ h₂ t as

end

theorem joined_column (h : Table.Joined h₁ h₂ t₁ t₂ t) (n : String) :
    Lifted (Outcome.Joined h₁ h₂) ((Grid.ofTable t₁).column n) ((Grid.ofTable t₂).column n)
      ((Grid.ofTable t).column n) := by
  have hget : ∀ t : Table, (Grid.ofTable t).column n =
      t.get n >>= fun d => .ok (Outcome.ofColumn d) := fun t => by
    simp only [Grid.column, Grid.ofTable, Table.get, Table.find?]
    cases t.columns.lookup n <;> rfl
  rw [hget, hget, hget]
  exact (h.get n).bind fun _ _ _ hd => .ok (Outcome.joined_ofColumn hd)

/-- The arguments of a function of rows are formulas of rows, or values beside a list of others. -/
theorem isRowwise_apply {f : Function} {args : List Formula} (h : (apply f args).isRowwise = true) :
    (f.isMembership = false ∧ areRowwise args = true) ∨
      ∃ a values, f = .among ∧ args = [a, listed values] ∧ a.isRowwise = true := by
  rw [isRowwise.eq_def] at h
  split at h <;> try (rename_i heq; cases heq)
  · exact .inr ⟨_, _, rfl, rfl, h⟩
  · rw [Bool.and_eq_true, Bool.not_eq_true'] at h
    exact .inl h
  · cases h

/-- Formulas of which each makes of the whole what it makes of the parts. -/
theorem joined_evalAll_of (Fs : List Formula) (hrowwise : areRowwise Fs = true)
    (hlocal : h₁ = 0 ∨ h₂ = 0 ∨ AreLocal h₁ h₂ t Fs)
    (h : ∀ F ∈ Fs, F.isRowwise = true → (h₁ = 0 ∨ h₂ = 0 ∨ F.IsLocal h₁ h₂ t) →
      Lifted (Outcome.Joined h₁ h₂) (F.eval false (.ofTable t₁)) (F.eval false (.ofTable t₂))
        (F.eval false (.ofTable t))) :
    Lifted (Each (Outcome.Joined h₁ h₂)) (evalAll false (.ofTable t₁) Fs)
      (evalAll false (.ofTable t₂) Fs) (evalAll false (.ofTable t) Fs) := by
  induction Fs with
  | nil => exact .ok .nil
  | cons F Fs ih =>
    rw [areRowwise, Bool.and_eq_true] at hrowwise
    have hfirst := h F List.mem_cons_self hrowwise.1 (hlocal.imp_right fun h => h.imp_right (·.1))
    have hrest := ih hrowwise.2 (hlocal.imp_right fun h => h.imp_right (·.2))
      fun G hG => h G (List.mem_cons_of_mem _ hG)
    exact hfirst.bind fun _ _ _ ho => hrest.bind fun _ _ _ hos => .ok (.cons ho hos)

mutual

/-- **A local formula makes of the whole what it makes of the parts.** -/
theorem joined_eval (h : Table.Joined h₁ h₂ t₁ t₂ t) :
    (F : Formula) → F.isRowwise = true → (h₁ = 0 ∨ h₂ = 0 ∨ F.IsLocal h₁ h₂ t) →
      Lifted (Outcome.Joined h₁ h₂) (F.eval false (.ofTable t₁)) (F.eval false (.ofTable t₂))
        (F.eval false (.ofTable t))
  | column n, _, _ => joined_column h n
  | constant c t, _, _ => .ok (Outcome.joined_scalar t c)
  | whole n, _, _ => .ok (Outcome.joined_whole n)
  | fraction x, _, _ => .ok (Outcome.joined_fraction x)
  | named a _, hrowwise, hlocal => joined_eval h a hrowwise hlocal
  | apply f args, hrowwise, hlocal => by
    have hargs := joined_of_mem h args
    obtain ⟨hf, hrowwise⟩ | ⟨a, values, rfl, rfl, hrowwise⟩ := isRowwise_apply hrowwise
    · have hos := joined_evalAll_of args hrowwise
        (hlocal.imp_right fun h => h.imp_right fun h => h.1) hargs
      refine hos.found.bind fun os₁ os₂ os hos => ?_
      exact Function.joined_eval hf hos.2
        (hlocal.imp_right fun h => h.imp_right fun h => h.2 os hos.1)
    · have ha := hargs a List.mem_cons_self hrowwise
        (hlocal.imp_right fun h => h.imp_right fun h => h.1.1)
      have heval : ∀ t, (apply .among [a, listed values]).eval false (.ofTable t) =
          a.eval false (.ofTable t) >>= fun o => among o (.ofColumn values) := fun t => by
        simp only [eval, evalAll, Function.eval]
        cases a.eval false (.ofTable t) <;> rfl
      rw [heval, heval, heval]
      exact ha.bind fun _ _ _ ho => joined_among ho _

/-- Each of some local formulas makes of the whole what it makes of the parts. -/
theorem joined_of_mem (h : Table.Joined h₁ h₂ t₁ t₂ t) :
    (Fs : List Formula) → ∀ F ∈ Fs, F.isRowwise = true → (h₁ = 0 ∨ h₂ = 0 ∨ F.IsLocal h₁ h₂ t) →
      Lifted (Outcome.Joined h₁ h₂) (F.eval false (.ofTable t₁)) (F.eval false (.ofTable t₂))
        (F.eval false (.ofTable t))
  | [], _, hF, _, _ => nomatch hF
  | F :: _, _, .head _, hrowwise, hlocal => joined_eval h F hrowwise hlocal
  | _ :: Fs, G, .tail _ hG, hrowwise, hlocal => joined_of_mem h Fs G hG hrowwise hlocal

end

/-- An outcome put into the rows of the parts and of the whole. -/
theorem joined_spread {o₁ o₂ o : Outcome} (h : Outcome.Joined h₁ h₂ o₁ o₂ o) :
    Deferred.Joined h₁ h₂ (Grid.spread (.ok h₁) o₁) (Grid.spread (.ok h₂) o₂)
      (Grid.spread (.ok (h₁ + h₂)) o) := by
  have hs := h.settled
  have hcells := hs.cells
  simp only [Grid.spread, hs.dtype_eq, hs.isScalar_eq]
  refine .mk ?_
  cases hscalar : o.settled.isScalar with
  | true =>
    simp only [↓reduceIte]
    refine hcells.bind fun c₁ c₂ c hc => .ok ?_
    obtain ⟨_, rfl, rfl, _⟩ | ⟨hfalse, _⟩ := hc
    · exact .replicate h₁ h₂ _
    · rw [hscalar] at hfalse
      cases hfalse
  | false =>
    simp only [Bool.false_eq_true, ↓reduceIte]
    refine hcells.imp fun c₁ c₂ c hc => ?_
    obtain ⟨htrue, _⟩ | ⟨_, hc⟩ := hc
    · rw [hscalar] at htrue
      cases htrue
    · exact hc

/-! ### Comparisons and choices -/

theorem isRowwise_compare {op : Comparison} {a b : Formula} (ha : a.isRowwise = true)
    (hb : b.isRowwise = true) : (Formula.compare op a b).isRowwise = true := by
  simp [compare, isRowwise, areRowwise, Function.isMembership, ha, hb]

theorem isRowwise_asInstant {s : Scope} {a b : Formula} (hb : b.isRowwise = true) :
    (s.asInstant a b).isRowwise = true := by
  unfold Scope.asInstant
  repeat' split
  all_goals simp [isRowwise, areRowwise, Function.isMembership, ofText, hb]

theorem isRowwise_choose {a b c : Formula} (ha : a.isRowwise = true) (hb : b.isRowwise = true)
    (hc : c.isRowwise = true) : (Formula.choose a b c).isRowwise = true := by
  simp [Formula.choose, isRowwise, areRowwise, Function.isMembership, ha, hb, hc]

theorem isLocal_choose {a b c : Formula} (ha : a.IsLocal h₁ h₂ t) (hb : b.IsLocal h₁ h₂ t)
    (hc : c.IsLocal h₁ h₂ t) : (Formula.choose a b c).IsLocal h₁ h₂ t :=
  ⟨⟨hb, hc, ha, trivial⟩, fun _ _ => trivial⟩

/-- A choice has a property that its parts have, if it goes over to choices between two formulas. -/
theorem casesOf_of {P : Formula → Prop} (hchoose : ∀ c a b, P c → P a → P b → P (.choose c a b))
    {conditions results : List Formula} {default : Formula} (hconditions : ∀ F ∈ conditions, P F)
    (hresults : ∀ F ∈ results, P F) (hdefault : P default) :
    P (casesOf none conditions results default) := by
  induction conditions generalizing results with
  | nil => simpa [casesOf] using hdefault
  | cons c conditions ih =>
    cases results with
    | nil => simpa [casesOf] using hdefault
    | cons r results =>
      rw [casesOf]
      exact hchoose c r _ (hconditions c List.mem_cons_self) (hresults r List.mem_cons_self)
        (ih (fun F hF => hconditions F (List.mem_cons_of_mem _ hF))
          fun F hF => hresults F (List.mem_cons_of_mem _ hF))

end Formula

/-- Formulas that expressions mean. -/
theorem Scope.forall_of_formulas {s : Scope} {P : Formula → Prop} {es : List Expr}
    {Fs : List Formula} (h : s.formulas es = .ok Fs)
    (hes : ∀ e ∈ es, ∀ F, s.formula e = .ok F → P F) : ∀ F ∈ Fs, P F := by
  induction es generalizing Fs with
  | nil =>
    cases h
    exact List.forall_mem_nil P
  | cons e es ih =>
    rw [Scope.formulas] at h
    simp only [bind_eq_ok, pure_eq_ok] at h
    obtain ⟨F, hF, rest, hrest, rfl⟩ := h
    intro G hG
    rcases List.mem_cons.1 hG with rfl | hG
    · exact hes e List.mem_cons_self G hF
    · exact ih hrest (fun e he => hes e (List.mem_cons_of_mem _ he)) G hG

/-- What a choice between branches means has a property that goes over to choices. -/
theorem of_choiceExpr {s : Scope} {P : Formula → Prop} {branches : List (Expr × Expr)}
    {default : Expr} {F : Formula} (h : s.formula (choiceExpr branches default) = .ok F)
    (hchoose : ∀ c a b, P c → P a → P b → P (.choose c a b))
    (hbranches : ∀ b ∈ branches, (∀ F, s.formula b.1 = .ok F → P F) ∧
      ∀ F, s.formula b.2 = .ok F → P F)
    (hdefault : ∀ F, s.formula default = .ok F → P F) : P F := by
  rw [formula_choiceExpr] at h
  simp only [bind_eq_ok, pure_eq_ok] at h
  obtain ⟨D, hD, cs, hcs, rs, hrs, rfl⟩ := h
  refine Formula.casesOf_of hchoose (s.forall_of_formulas hcs fun e he => ?_)
    (s.forall_of_formulas hrs fun e he => ?_) (hdefault D hD)
  · obtain ⟨b, hb, rfl⟩ := List.mem_map.1 he
    exact (hbranches b hb).1
  · obtain ⟨b, hb, rfl⟩ := List.mem_map.1 he
    exact (hbranches b hb).2

/-- What a literal is read as is a local formula of rows. -/
theorem isLocal_sqlReading {d : Literal} {F : Formula} (h : d.sqlReading = .ok F) :
    F.isRowwise = true ∧ F.IsLocal h₁ h₂ t := by
  have hnumber : ∀ {negative digits}, signedNumber negative digits = .ok F →
      F.isRowwise = true ∧ F.IsLocal h₁ h₂ t := by
    intro negative digits hF
    simp only [signedNumber, bind_eq_ok] at hF
    obtain ⟨n | x, _, hF⟩ := hF <;> cases hF <;> exact ⟨rfl, trivial⟩
  match d, h with
  | .bool _, h | .text _, h | .float .nan, h | .float (.infinite false), h =>
    cases h
    exact ⟨rfl, trivial⟩
  | .float (.infinite true), h =>
    cases h
    exact ⟨rfl, ⟨trivial, trivial, trivial⟩, fun os hos => by
      obtain _ | ⟨_, _ | ⟨_, _ | _⟩⟩ := os
      case cons.cons.nil => exact nofun
      all_goals trivial⟩
  | .int (.ofNat _), h | .int (.negSucc _), h | .float (.finite ..), h => exact hnumber h

/-! ### The meaning of expressions -/

namespace Scope

variable {s s' : Scope}

/-- Two scopes in which the same columns may be named. -/
structure Agrees (s s' : Scope) : Prop where
  schema : s.schema = s'.schema
  subquery : s.subquery = s'.subquery
  columns : s.columns = s'.columns

namespace Agrees

theorem asInstant (h : Agrees s s') (a b : Formula) : s.asInstant a b = s'.asInstant a b := by
  simp only [Scope.asInstant, Scope.columnType?, h.schema]

theorem column (h : Agrees s s') : s.column = s'.column := by
  funext path
  simp only [Scope.column, h.columns]

theorem compared (h : Agrees s s') : s.compared = s'.compared := by
  funext c a b
  simp only [Scope.compared, h.asInstant]

theorem operated (h : Agrees s s') : s.operated = s'.operated := by
  funext op a b
  simp only [Scope.operated, h.asInstant, Scope.matched, h.compared]

theorem combined (h : Agrees s s') : s.combined = s'.combined := by
  funext op x y a b
  simp only [Scope.combined, h.operated]

theorem membership (h : Agrees s s') : s.membership = s'.membership := by
  funext negated a items
  simp only [Scope.membership, h.schema]

end Agrees

mutual

/-- **What an expression means is a matter of the columns that it may name.** -/
theorem formula_congr (h : Agrees s s') : (e : Expr) → s.formula e = s'.formula e
  | .column path => by
    rw [formula.eq_def, formula.eq_def]
    simp only [h.column]
  | .value _ => by rw [formula, formula]
  | .nested a => by rw [formula, formula, formula_congr h a]
  | .unary _ a => by rw [formula, formula, formula_congr h a]
  | .binary _ a b => by rw [formula, formula, formula_congr h a, formula_congr h b, h.combined]
  | .quantified _ _ _ a b => by rw [formula, formula, formula_congr h a, formula_congr h b]
  | .isTest _ _ a => by rw [formula, formula, formula_congr h a]
  | .isDistinct _ a b => by rw [formula, formula, formula_congr h a, formula_congr h b]
  | .between _ a b c => by
    simp only [formula, formula_congr h a, formula_congr h b, formula_congr h c, within, h.compared]
  | .inList _ a _ => by rw [formula, formula, formula_congr h a, h.membership]
  | .inQuery _ a _ => by rw [formula, formula, formula_congr h a, h.subquery]
  | .like _ _ _ a pattern _ => by
    simp only [formula, formula_congr h a, formula_congr h pattern, matched, h.compared]
  | .regexp _ _ a pattern => by rw [formula, formula, formula_congr h a, formula_congr h pattern]
  | .cases a cs rs d => by
    rw [formula, formula, optionalFormula_congr h a, formulas_congr h cs, formulas_congr h rs,
      optionalFormula_congr h d]
  | .cast _ a _ _ => by rw [formula, formula, formula_congr h a]
  | .extract _ _ a => by rw [formula, formula, formula_congr h a]
  | .rounding _ a _ => by rw [formula, formula, formula_congr h a]
  | .position a b => by rw [formula, formula, formula_congr h a, formula_congr h b]
  | .trim a _ what _ => by rw [formula, formula, formula_congr h a, optionalFormula_congr h what]
  | .typed _ _ => by rw [formula, formula]
  | .call c => by rw [formula, formula, callFormula_congr h c]
  | .introduced .. | .star | .starOf _ | .matchAgainst .. | .convert .. | .collate .. | .interval ..
  | .named .. | .member .. | .prior _ | .inArray .. | .atZone .. | .index .. | .tuple _ | .array ..
  | .struct .. | .record .. | .map _ | .groupingSets .. | .substring .. | .overlay .. | .exists ..
  | .subquery _ | .slice .. => by simp only [formula]

theorem formulas_congr (h : Agrees s s') : (es : List Expr) → s.formulas es = s'.formulas es
  | [] => by rw [formulas, formulas]
  | e :: es => by rw [formulas, formulas, formula_congr h e, formulas_congr h es]

theorem optionalFormula_congr (h : Agrees s s') :
    (e : Option Expr) → s.optionalFormula e = s'.optionalFormula e
  | none => by rw [optionalFormula, optionalFormula]
  | some e => by rw [optionalFormula, optionalFormula, formula_congr h e]

theorem callFormula_congr (h : Agrees s s') : (c : Call) → s.callFormula c = s'.callFormula c
  | ⟨_, _, arguments, _, _, partition, order, _, _⟩ => by
    rw [callFormula, callFormula, formulas_congr h arguments, formulas_congr h partition,
      windowKeys_congr h order]

theorem windowKeys_congr (h : Agrees s s') :
    (ks : List OrderKey) → s.windowKeys ks = s'.windowKeys ks
  | [] => by rw [windowKeys, windowKeys]
  | ⟨a, _, _, _⟩ :: ks => by rw [windowKeys, windowKeys, formula_congr h a, windowKeys_congr h ks]

end

end Scope

end Sql

end FocusBilling
