import FocusBilling.Rule

/-!
# Conversion plans

* `Plan` : the rules of one provider, in the order in which they run;
* `Plan.ofRules` : the plan of rules in any order;
* `Rule.le` : the order of rules: dimension, then priority, then name.
-/

namespace FocusBilling

namespace Rule

/-- The order of rules: dimension, then priority, then name. -/
def order (a b : Rule) : Ordering :=
  (compare a.dimensionId b.dimensionId).then
    ((compare a.priority b.priority).then (compare a.planName b.planName))

/-- Whether a rule may stand before another. -/
def le (a b : Rule) : Bool := (order a b).isLE

end Rule

/-- The rules of one provider, in the order in which they run. -/
structure Plan where
  /-- The provider. -/
  provider : String
  /-- Its rules. -/
  rules : List Rule

namespace Plan

/-- The plan of rules in any order; rules that are equal in order keep theirs. -/
def ofRules (provider : String) (rules : List Rule) : Plan :=
  ⟨provider, rules.mergeSort Rule.le⟩

end Plan

end FocusBilling
