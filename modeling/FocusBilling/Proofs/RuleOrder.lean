import Mathlib.Data.List.Perm.Basic
import Mathlib.Data.Prod.Lex
import Mathlib.Data.String.Basic
import FocusBilling.Plan

/-!
# The order of rules

A plan is its rules in the order of dimension, priority and name, whatever the order in which they
were loaded.  What is left open is the order of rules that have all three in common.

* `Rule.key`, `Rule.ofKey` : what the order of rules looks at, and the rules that have it in common;
* `Plan.ofKey_ofRules` : rules of one key keep the order in which they were loaded;
* `Plan.ofRules_eq_iff` : two lists of rules make one plan iff for each key they hold the same rules
  in the same order;
* `Plan.ofRules_load_order` : **the plan of rules, and how far it depends on their order.**
-/

namespace FocusBilling

namespace Rule

variable {a b : Rule} {rules others : List Rule}

/-- What the order of rules looks at: dimension, then priority, then name. -/
def key (r : Rule) : ℕ ×ₗ ℕ ×ₗ String := toLex (r.dimensionId, toLex (r.priority, r.planName))

theorem le_iff_key : a.le b = true ↔ a.key ≤ b.key := by
  have hname : (compare a.planName b.planName).isLE = true ↔ a.planName ≤ b.planName :=
    Ordering.isLE_iff_ne_gt.trans compare_le_iff_le
  simp only [le, order, key, Prod.Lex.toLex_le_toLex, Ordering.isLE_then_iff_or,
    Nat.compare_eq_lt, Nat.compare_eq_eq, hname]

theorem trans_le (a b c : Rule) (hab : a.le b = true) (hbc : b.le c = true) : a.le c = true :=
  le_iff_key.2 ((le_iff_key.1 hab).trans (le_iff_key.1 hbc))

theorem total_le (a b : Rule) : (a.le b || b.le a) = true := by
  rw [Bool.or_eq_true, le_iff_key, le_iff_key]
  exact le_total _ _

/-- The rules of one key, in their order. -/
def ofKey (k : ℕ ×ₗ ℕ ×ₗ String) (rules : List Rule) : List Rule :=
  rules.filter fun r => r.key = k

theorem mem_ofKey {k : ℕ ×ₗ ℕ ×ₗ String} : a ∈ ofKey k rules ↔ a ∈ rules ∧ a.key = k := by
  simp [ofKey]

/-- Rules in order are told by the rules of each key. -/
theorem eq_of_ofKey (hrules : rules.Pairwise fun a b => a.key ≤ b.key)
    (hothers : others.Pairwise fun a b => a.key ≤ b.key)
    (h : ∀ k, ofKey k rules = ofKey k others) : rules = others := by
  have hmem : ∀ r, r ∈ rules ↔ r ∈ others := fun r => by
    have hr : r ∈ ofKey r.key rules ↔ r ∈ ofKey r.key others := by rw [h]
    simpa [mem_ofKey] using hr
  induction rules generalizing others with
  | nil =>
    cases others with
    | nil => rfl
    | cons b others => exact absurd ((hmem b).2 List.mem_cons_self) List.not_mem_nil
  | cons a rules ih =>
    cases others with
    | nil => exact absurd ((hmem a).1 List.mem_cons_self) List.not_mem_nil
    | cons b others =>
      have hfirst : ∀ {c : Rule} {cs : List Rule} {d : Rule},
          (c :: cs).Pairwise (fun a b => a.key ≤ b.key) → d ∈ c :: cs → c.key ≤ d.key := by
        intro c cs d hsorted hd
        rcases List.mem_cons.1 hd with rfl | hd
        · exact le_rfl
        · exact (List.pairwise_cons.1 hsorted).1 d hd
      -- both lists start with a rule of the smallest key, and so with the first of that key
      have hkey : b.key = a.key := le_antisymm
        (hfirst hothers ((hmem a).1 List.mem_cons_self))
        (hfirst hrules ((hmem b).2 List.mem_cons_self))
      obtain rfl : a = b := by
        have hk := h a.key
        simp only [ofKey, List.filter_cons, hkey, decide_true, if_true, List.cons.injEq] at hk
        exact hk.1
      have hrest : ∀ k, ofKey k rules = ofKey k others := by
        intro k
        have hk := h k
        simp only [ofKey, List.filter_cons] at hk
        split at hk
        · exact (List.cons.inj hk).2
        · exact hk
      refine congrArg (a :: ·) (ih (List.pairwise_cons.1 hrules).2 (List.pairwise_cons.1 hothers).2
        hrest fun r => ?_)
      have hr : r ∈ ofKey r.key rules ↔ r ∈ ofKey r.key others := by rw [hrest]
      simpa [mem_ofKey] using hr

end Rule

namespace Plan

open Rule (ofKey mem_ofKey)

variable {provider : String} {rules others : List Rule}

theorem perm_ofRules : (ofRules provider rules).rules.Perm rules := List.mergeSort_perm rules _

/-- The rules of a plan are in order. -/
theorem sorted_ofRules : (ofRules provider rules).rules.Pairwise fun a b => a.key ≤ b.key :=
  (List.pairwise_mergeSort Rule.trans_le Rule.total_le rules).imp Rule.le_iff_key.1

/-- Rules of one key keep the order in which they were loaded. -/
theorem ofKey_ofRules (k : ℕ ×ₗ ℕ ×ₗ String) :
    ofKey k (ofRules provider rules).rules = ofKey k rules := by
  have hsublist : (ofKey k rules).Sublist (ofRules provider rules).rules := by
    refine List.sublist_mergeSort Rule.trans_le Rule.total_le ?_ List.filter_sublist
    refine List.pairwise_of_forall_mem_list fun a ha b hb => ?_
    rw [Rule.le_iff_key, (mem_ofKey.1 ha).2, (mem_ofKey.1 hb).2]
  have hfilter : (ofKey k rules).Sublist (ofKey k (ofRules provider rules).rules) := by
    have h := hsublist.filter fun r => decide (r.key = k)
    simpa [ofKey, List.filter_filter] using h
  exact (hfilter.eq_of_length (perm_ofRules.filter _).length_eq.symm).symm

theorem ofRules_eq_iff :
    ofRules provider rules = ofRules provider others ↔ ∀ k, ofKey k rules = ofKey k others := by
  constructor
  · intro h k
    calc ofKey k rules = ofKey k (ofRules provider rules).rules := (ofKey_ofRules k).symm
      _ = ofKey k (ofRules provider others).rules := by rw [h]
      _ = ofKey k others := ofKey_ofRules k
  · intro h
    have hrules : (ofRules provider rules).rules = (ofRules provider others).rules :=
      Rule.eq_of_ofKey sorted_ofRules sorted_ofRules fun k => by
        rw [ofKey_ofRules, ofKey_ofRules, h]
    exact congrArg (Plan.mk provider) hrules

/-- Every order of some rules makes the same plan iff no two different ones of them have one key. -/
theorem forall_perm_ofRules_iff :
    (∀ others, others.Perm rules → ofRules provider others = ofRules provider rules) ↔
      ∀ a ∈ rules, ∀ b ∈ rules, a.key = b.key → a = b := by
  constructor
  · intro h a ha b hb hkey
    by_contra hne
    -- the two rules in front, in either order
    obtain ⟨rest, hrest⟩ : ∃ rest, rules.Perm (a :: b :: rest) := by
      obtain ⟨before, after, rfl⟩ := List.append_of_mem ha
      have hb : b ∈ before ++ after := by
        simpa [Ne.symm hne] using hb
      obtain ⟨before', after', hrest⟩ := List.append_of_mem hb
      refine ⟨before' ++ after', List.perm_middle.trans (.cons a ?_)⟩
      rw [hrest]
      exact List.perm_middle
    have hsame := (h _ hrest.symm).trans (h _ ((List.Perm.swap a b rest).trans hrest.symm)).symm
    have hk := ofRules_eq_iff.1 hsame a.key
    simp only [ofKey, List.filter_cons, hkey, decide_true, if_true, List.cons.injEq] at hk
    exact hne hk.1
  · intro h others hperm
    refine ofRules_eq_iff.2 fun k => ?_
    -- the rules of one key are copies of one rule
    have hfilter : (ofKey k others).Perm (ofKey k rules) := hperm.filter _
    have hpairs : ∀ rs : List Rule, rs.Pairwise fun _ _ => True :=
      fun _ => List.pairwise_of_forall fun _ _ => trivial
    refine hfilter.eq_of_pairwise (fun a b ha hb _ _ => ?_) (hpairs _) (hpairs _)
    obtain ⟨ha, hka⟩ := mem_ofKey.1 ha
    obtain ⟨hb, hkb⟩ := mem_ofKey.1 hb
    exact h a (hperm.mem_iff.1 ha) b hb (hka.trans hkb.symm)

/-- **The plan of rules, and how far it depends on their order.**  The rules of a plan stand in
order, each as often as it was loaded.  The same rules in another order make the same plan iff those
that have dimension, priority and name in common stand in the same order; so the order in which
rules are loaded never matters iff no two different rules have all three in common. -/
theorem ofRules_load_order (provider : String) (rules : List Rule) :
    let plan := ofRules provider rules
    plan.provider = provider ∧ plan.rules.Perm rules ∧
      plan.rules.Pairwise (fun a b => a.key ≤ b.key) ∧
      (∀ others, others.Perm rules →
        (ofRules provider others = plan ↔ ∀ k, ofKey k others = ofKey k rules)) ∧
      ((∀ others, others.Perm rules → ofRules provider others = plan) ↔
        ∀ a ∈ rules, ∀ b ∈ rules, a.key = b.key → a = b) :=
  ⟨rfl, perm_ofRules, sorted_ofRules, fun _ _ => ofRules_eq_iff, forall_perm_ofRules_iff⟩

/-- Two rules without a name and an order of their own stay in the order in which they were
loaded. -/
theorem unnamed_rules_swapped :
    let draft (column value : String) : RuleDraft :=
      { focusColumn := column, conversionType := "static_value",
        conversionArgs := some (.entries [("static_value", .text value)]) }
    let drafts := [draft "Region" "eu", draft "Tags" "ops"]
    ∃ a b, drafts.mapM RuleDraft.validate = .ok [a, b] ∧ [b, a].Perm [a, b] ∧
      ofRules "aws" [b, a] ≠ ofRules "aws" [a, b] := by
  intro draft drafts
  let a : Rule := ⟨"<unnamed>", .region, none, .staticValue, .staticValue (.text "eu"), none, 0, 0⟩
  let b : Rule := ⟨"<unnamed>", .tags, none, .staticValue, .staticValue (.text "ops"), none, 0, 0⟩
  refine ⟨a, b, rfl, List.Perm.swap a b [], fun h => ?_⟩
  have hk := congrArg (List.map Rule.focusColumn) (ofRules_eq_iff.1 h a.key)
  simp [ofKey, Rule.key, a, b] at hk

end Plan

end FocusBilling
