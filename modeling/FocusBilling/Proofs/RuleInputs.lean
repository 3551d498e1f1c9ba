import FocusBilling.Proofs.Dependencies
import FocusBilling.Proofs.Sql.References
import FocusBilling.Proofs.Validation

/-!
# The inputs of conditions

The graph of a plan looks for the columns that a condition reads in all of its clauses together.
The statement of the condition looks at each clause alone, so as to drop those that cannot be
answered.

* `DependencyGraph.source_addRule_iff` : the edges that a rule adds;
* `Sql.mem_conditionColumns_intercalate` : clauses together, and each alone;
* `DependencyGraph.addRule_condition` : **both see the same columns**, where the clauses are read
  together as they are read alone;
* `DependencyGraph.addRule_joined` : they do not where one clause hides what the others read, or
  where clauses can be read together only.
-/

namespace FocusBilling

namespace Sql

variable {clauses : List String} {n : String}

/-- A single clause stands for itself, whatever its text is. -/
theorem mem_conditionColumns_intercalate
    (h : clauses.length = 1 ∨ ∃ names others, ReadTogether clauses names others) :
    n ∈ conditionColumns (String.intercalate " " clauses) ↔
      ∃ clause ∈ clauses, n ∈ conditionColumns clause := by
  rcases h with hone | ⟨names, others, htogether⟩
  · obtain ⟨clause, rfl⟩ := List.length_eq_one_iff.1 hone
    simp
  · exact htogether.mem_conditionColumns

end Sql

namespace DependencyGraph

variable {d : RuleDraft} {r : Rule} {n : String}

/-- A rule adds an edge for each column that it reads and does not write. -/
theorem source_addRule_iff :
    (∃ e ∈ (inputs r).map (edgeOf r), e.source = n) ↔ n ≠ r.output ∧ n ∈ r.sources := by
  simp only [List.mem_map, exists_exists_and_eq_and, edgeOf, exists_eq_right, inputs,
    List.mem_filter, bne_iff_ne]
  exact and_comm

/-- **The graph and the statement of a condition see the same columns.**  A checked condition adds
edges from the columns that its clauses report one at a time, apart from its own; and if the clauses
are read together without the blanks around them too, these are the columns that the statement looks
for. -/
theorem addRule_condition (hvalid : d.validate = .ok r) (hkind : r.kind = .sqlCondition) :
    ∃ args, r.args = .sqlCondition args ∧
      r.step .standard = .ok (.sql
        (.condition r.output (args.conditions.map Text.trim) args.default.sql)) ∧
      ∀ g : DependencyGraph, ∃ added, (g.addRule r).edges = g.edges ++ added ∧
        ((args.conditions.length = 1 ∨
            ∃ names others, Sql.ReadTogether args.conditions names others) →
          ∀ n, (∃ e ∈ added, e.source = n) ↔
            n ≠ r.output ∧ ∃ clause ∈ args.conditions, n ∈ Sql.conditionColumns clause) ∧
        ∀ names others, Sql.ReadTogether args.conditions names others →
          Sql.ReadTogether (args.conditions.map Text.trim) names others →
          ∀ n, (∃ e ∈ added, e.source = n) ↔ n ≠ r.output ∧
            ∃ clause ∈ args.conditions.map Text.trim, n ∈ Sql.conditionColumns clause := by
  obtain ⟨args, hargs⟩ : ∃ args, r.args = .sqlCondition args := by
    have hfits := (Rule.sound_of_validate hvalid).fits
    rw [hkind] at hfits
    generalize r.args = given at hfits
    cases hfits with
    | sqlCondition args => exact ⟨args, rfl⟩
  have hsources : r.sources = Sql.conditionColumns (String.intercalate " " args.conditions) := by
    rw [Rule.sources, hargs]
  refine ⟨args, hargs, Rule.step_of_condition hkind hargs,
    fun g => ⟨(inputs r).map (edgeOf r), rfl, fun h n => ?_, ?_⟩⟩
  · rw [source_addRule_iff, hsources, Sql.mem_conditionColumns_intercalate h]
  · intro names others htogether htrimmed n
    rw [source_addRule_iff, hsources, Sql.mem_conditionColumns_iff htogether.choice,
      ← htrimmed.mem_conditionColumns, Sql.mem_conditionColumns_iff htrimmed.choice]

/-- A condition of two clauses, with a default behind the second one. -/
theorem addRule_condition_default :
    let draft : RuleDraft :=
      { planName := "region", focusColumn := "Region", conversionType := "sql_condition",
        conversionArgs := some (.entries [("conditions", .list [.text "WHEN \"a\" = 'x' THEN 'A'",
          .text "WHEN \"b\" = 'y' THEN 'B' ELSE 'd'"]), ("default_value", .text "c")]) }
    ∃ r, draft.validate = .ok r ∧ ∀ n,
      (∃ e ∈ (addRule ⟨[], []⟩ r).edges, e.source = n) ↔ n = "a" ∨ n = "b" := by
  intro draft
  let clauses := ["WHEN \"a\" = 'x' THEN 'A'", "WHEN \"b\" = 'y' THEN 'B' ELSE 'd'"]
  let r : Rule := ⟨"region", .region, none, .sqlCondition, .sqlCondition ⟨clauses, .text "c"⟩, none,
    0, 0⟩
  have hvalid : draft.validate = .ok r := by
    simp only [draft, r, clauses]
    rfl
  obtain ⟨args, hargs, -, hedges⟩ := addRule_condition hvalid rfl
  obtain rfl : ⟨clauses, .text "c"⟩ = args := RuleArgs.sqlCondition.inj hargs
  have hfirst : Sql.SpellsBranchesIn false Sql.Names "WHEN \"a\" = 'x' THEN 'A'" [["a"]] :=
    Sql.spellsBranches_equation "a" "x" "A" (by decide +kernel)
  have hlast : Sql.SpellsChoice Sql.Names (Sql.NamesPerhaps [])
      "WHEN \"b\" = 'y' THEN 'B' ELSE 'd'" [["b"]] :=
    Sql.spellsChoice_equation "b" "y" "B" "d" (by decide +kernel)
  obtain ⟨added, hadded, hsources, -⟩ := hedges ⟨[], []⟩
  have houtput : r.output = "Region" := by decide
  refine ⟨r, hvalid, fun n => ?_⟩
  have ha := Sql.mem_conditionColumns_iff (n := n) (hfirst.choice (P := Sql.NamesPerhaps []) rfl)
  have hb := Sql.mem_conditionColumns_iff (n := n) hlast
  rw [hadded, List.nil_append, hsources (.inr ⟨_, _, .cons hfirst (.last hlast)⟩), houtput]
  simp only [clauses, List.exists_mem_cons_iff, List.mem_singleton, exists_eq_left, ha, hb,
    List.not_mem_nil, or_false]
  refine and_iff_right_of_imp ?_
  rintro (rfl | rfl) <;> decide

/-- **The graph and the statement of a condition can see different columns.**  A clause that cannot
be read without trailing commas hides what the clause beside it reads; and two clauses that are read
together only show what neither reads alone. -/
theorem addRule_joined :
    let draft (clauses : List String) : RuleDraft :=
      { planName := "region", focusColumn := "Region", conversionType := "sql_condition",
        conversionArgs := some (.entries [("conditions", .list (clauses.map .text)),
          ("default_value", .text "c")]) }
    let sees (clauses sources : List String) (alone : List (List String)) : Prop :=
      ∃ r, (draft clauses).validate = .ok r ∧
        (addRule ⟨[], []⟩ r).edges.map (·.source) = sources ∧
        clauses.map Sql.conditionColumns = alone
    sees ["WHEN \"a\" IN ('x',) THEN 'A'", "WHEN \"b\" = 'y' THEN 'B'"] [] [[], ["b"]] ∧
      sees ["WHEN \"a\" = 'x' THEN (CASE", "WHEN \"b\" = 'y' THEN 'B' END)"] ["a", "b"]
        [[], []] := by
  intro draft sees
  let rule (clauses : List String) : Rule := ⟨"region", .region, none, .sqlCondition,
    .sqlCondition ⟨clauses, .text "c"⟩, none, 0, 0⟩
  refine ⟨⟨rule _, rfl, ?_, ?_⟩, ⟨rule _, rfl, ?_, ?_⟩⟩ <;> decide +kernel

end DependencyGraph

end FocusBilling
