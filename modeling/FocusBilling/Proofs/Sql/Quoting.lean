import FocusBilling.Proofs.Compilation
import FocusBilling.Proofs.Sql.References

/-!
# Names and texts that survive their quotes

Names and texts are put into statements between quotes, and whatever characters they have, the
statement is read as if they stood there by themselves.

* `exists_parse_default` : the statement of a condition without clauses that are kept gives its
  default to all rows;
* `conditionColumns_equationsClause` : a clause over equations reports their columns, each once and
  in order;
* `isLive_equationsClause` : the clause is kept for tables that have all of them;
* `quotes_survive` : **names and texts survive their quotes, in statements and in what clauses
  report**;
* `label_staged` : a column that is there already is not filled under its own name.
-/

namespace FocusBilling

namespace Sql

open Parse

variable {clauses : List String}

/-! ### Statements without clauses -/

/-- A statement without clauses that are kept fills its column with the default in all rows, whether
or not its reader lets a comma stand behind the last entry of a list. -/
theorem exists_parse_default (commas : Bool) {columns : Option (List String)}
    (hdead : SqlStep.liveClauses columns clauses = []) (o d : String) :
    ∃ p q, parse? commas ((SqlStep.condition o clauses (Literal.text d).sql).render columns) =
      some [.query (.ofBody (.select (selectBeside (.value (.text .plain d))
        ⟨renderedLabel columns o, some '"', p⟩ ⟨tableName, none, q⟩)))] := by
  have hspell : Spells (SqlStep.valueText (SqlStep.liveClauses columns clauses)
      (Literal.text d).sql).toList [.text .plain d] := by
    rw [hdead]
    exact spells_quotedSql d
  obtain ⟨p₁, p₂, p₃, p₄, p₅, p₆, p₇, ls, hls, htokens⟩ := tokens?_render (o := o) hspell
  obtain ⟨⟨_, p⟩, rfl, rfl⟩ := List.map_eq_singleton_iff.1 hls
  have hread := takes_expressionIn (n := 0) (@takes_operandIn_text commas (grammarAt (maxDepth - 3))
    d "AS" p p₄ [⟨.word (renderedLabel columns o) (some '"'), p₅⟩, ⟨.word "FROM" none, p₆⟩,
      ⟨.word tableName none, p₇⟩] rfl) (Nat.le_refl 0)
  exact ⟨p₅, p₇, parse?_of_takes htokens (takes_statement_beside rfl rfl hread)⟩

/-! ### Clauses over equations -/

theorem Equation.IsRead.reads {e : Equation} {c : Expr} (h : e.IsRead c) :
    c.reads = [e.column] := by
  obtain ⟨p, rfl⟩ := h
  rfl

/-- Conditions that are all to hold read what each of them reads, in order. -/
theorem reads_conjunction (c : Expr) (cs : List Expr) :
    (conjunction c cs).reads = c.reads ++ cs.flatMap Expr.reads := by
  induction cs generalizing c with
  | nil => simp [conjunction]
  | cons c' cs ih =>
    have hboth : (Expr.binary .and c c').reads = c.reads ++ c'.reads := by
      simp [Expr.reads, Expr.paths, lastNames]
    rw [List.flatMap_cons, ← List.append_assoc, ← hboth]
    exact ih _

theorem reads_equations {es : List Equation} {cs : List Expr}
    (h : List.Forall₂ Equation.IsRead es cs) :
    cs.flatMap Expr.reads = es.map Equation.column := by
  induction h with
  | nil => rfl
  | cons hc _ ih => rw [List.flatMap_cons, hc.reads, ih, List.map_cons, List.singleton_append]

/-- **A clause over equations reports their columns**, each once and in the order in which they come
first. -/
theorem conditionColumns_equationsClause {es : List Equation} (hes : es ≠ []) (w : String) :
    conditionColumns (equationsClause es w) = (es.map Equation.column).eraseDups := by
  obtain ⟨e, es, rfl⟩ := List.exists_cons_of_ne_nil hes
  obtain ⟨ts, hts, htakes⟩ := exists_takesBranchIn_conjunction false e es w
    (P := fun c v => c.reads = (e :: es).map Equation.column ∧ v.reads = [])
    fun c cs hc hcs => ⟨by rw [reads_conjunction, hc.reads, reads_equations hcs]; rfl, rfl⟩
  have hclause : SpellsBranchesIn false (fun (_ : Unit) c v =>
      c.reads = (e :: es).map Equation.column ∧ v.reads = []) (equationsClause (e :: es) w) [()] :=
    ⟨[ts], List.cons_ne_nil _ _, by rwa [List.flatten_singleton], .cons htakes .nil⟩
  obtain ⟨branches, hbranches, hreads⟩ :=
    exists_conditionColumns_eq (hclause.choice (P := NamesPerhaps []) rfl)
  obtain ⟨b, _, ⟨hc, hv⟩, hnone, rfl⟩ := List.forall₂_cons_left_iff.1 hbranches
  obtain rfl := List.forall₂_nil_left_iff.1 hnone
  rw [List.flatMap_singleton, List.flatMap_singleton, hc, hv, List.append_nil,
    List.append_nil] at hreads
  exact hreads.trans (CompiledPlan.foldl_addOnce_nil _)

/-- A clause over equations is kept for tables that have all their columns. -/
theorem isLive_equationsClause {es : List Equation} (hes : es ≠ []) (w : String)
    (columns : List String) :
    SqlStep.isLive columns (equationsClause es w) = decide (∀ e ∈ es, e.column ∈ columns) := by
  rw [SqlStep.isLive, conditionColumns_equationsClause hes, Bool.eq_iff_iff]
  simp [List.mem_eraseDups]

/-- **Names and texts survive their quotes**, whatever characters they have.  A condition without
clauses that are kept is read as all columns and its default beside them, under its label.  A clause
over equations reports their columns, each once and in the order in which they come first, so that
statements keep it for the tables that have all of them. -/
theorem quotes_survive (commas : Bool) (o d w : String) {columns : Option (List String)}
    (hdead : SqlStep.liveClauses columns clauses = []) {es : List Equation} (hes : es ≠ [])
    (names before after : List String) :
    (∃ p q, parse? commas ((SqlStep.condition o clauses (Literal.text d).sql).render columns) =
        some [.query (.ofBody (.select (selectBeside (.value (.text .plain d))
          ⟨renderedLabel columns o, some '"', p⟩ ⟨tableName, none, q⟩)))]) ∧
      conditionColumns (equationsClause es w) = (es.map Equation.column).eraseDups ∧
      SqlStep.liveClauses (some names) (before ++ equationsClause es w :: after) =
        SqlStep.liveClauses (some names) before ++
          (if ∀ e ∈ es, e.column ∈ names then [equationsClause es w] else []) ++
            SqlStep.liveClauses (some names) after := by
  refine ⟨exists_parse_default commas hdead o d, conditionColumns_equationsClause hes w, ?_⟩
  simp only [SqlStep.liveClauses, List.filter_append, List.filter_cons,
    isLive_equationsClause hes, decide_eq_true_eq]
  split <;> simp

/-- A clause over a column that the table lacks is not kept, and quotes in the default and in the
names stay where they are. -/
theorem quotes_survive_within :
    let es : List Equation := [⟨"a\"b", "it's"⟩, ⟨"x", "''"⟩, ⟨"a\"b", "\""⟩]
    (∃ p q, parse? true ((SqlStep.condition "say \"hi\"" ["WHEN \"gone\" = 'v' THEN 'w'"]
        (Literal.text "it's").sql).render (some ["x"])) =
      some [.query (.ofBody (.select (selectBeside (.value (.text .plain "it's"))
        ⟨"say \"hi\"", some '"', p⟩ ⟨tableName, none, q⟩)))]) ∧
      conditionColumns (equationsClause es "w") = ["a\"b", "x"] ∧
      SqlStep.liveClauses (some ["x"]) [equationsClause es "w"] = [] := by
  intro es
  have hdead : SqlStep.liveClauses (some ["x"]) ["WHEN \"gone\" = 'v' THEN 'w'"] = [] := by
    decide +kernel
  have hes : es ≠ [] := List.cons_ne_nil _ _
  obtain ⟨hparse, hcolumns, hlive⟩ :=
    quotes_survive true "say \"hi\"" "it's" "w" hdead hes ["x"] [] []
  exact ⟨hparse, hcolumns, hlive⟩

/-- **A column that is there already is not filled under its own name**, but under that of the
staging column. -/
theorem label_staged :
    ¬∃ p q, parse? true
        ((SqlStep.condition "Region" [] (Literal.text "d").sql).render (some ["Region"])) =
      some [.query (.ofBody (.select (selectBeside (.value (.text .plain "d"))
        ⟨"Region", some '"', p⟩ ⟨tableName, none, q⟩)))] := by
  rintro ⟨p, q, h⟩
  obtain ⟨p', q', h'⟩ := @exists_parse_default [] true (some ["Region"]) rfl "Region" "d"
  have hsame : (renderedLabel (some ["Region"]) "Region" = "Region" ∧ p' = p) ∧ q' = q := by
    simpa [selectBeside, Query.ofBody] using h'.symm.trans h
  exact absurd hsame.1.1 (by decide)

end Sql

end FocusBilling
