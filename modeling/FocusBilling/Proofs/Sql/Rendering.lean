import FocusBilling.Proofs.Sql.Choices
import FocusBilling.Proofs.Sql.Literals

/-!
# Conditions as statements

The statement of a condition is read back as a `SELECT` of all columns and of a choice, which means
what its clauses and its default mean.

* `ReadsClause` : a text is one clause of a choice, with what its condition and its result mean;
* `SpellsBranches` : a text is one or more branches of a choice;
* `exists_takes_value` : the clauses and the default between `SELECT *,` and `AS`;
* `tokens?_render`, `exists_parse_render` : **the statement of a condition.**
-/

namespace FocusBilling

namespace Sql

open Parse

/-- A text is one clause `WHEN … THEN …` of a choice, with what its condition and its result
mean. -/
def ReadsClause (s : Scope) (clause : String) (m : Formula × Formula) : Prop :=
  ∃ ts, Spells clause.toList ts ∧ ReadsBranch (grammarAt (maxDepth - 3)) s ts m

/-- A text is one or more branches `WHEN … THEN …` of a choice, one for each of some items; a branch
stands in a relation to its item. -/
def SpellsBranches {μ : Type} (R : μ → Expr → Expr → Prop) (clause : String) (ms : List μ) : Prop :=
  ∃ tss ≠ [], Spells clause.toList tss.flatten ∧
    List.Forall₂ (fun ts m => TakesBranch (grammarAt (maxDepth - 3)) (R m) ts) tss ms

/-- A text is one or more branches of a choice for a reader that lets a comma stand behind the last
entry of a list, or for one that does not. -/
def SpellsBranchesIn {μ : Type} (commas : Bool) (R : μ → Expr → Expr → Prop) (clause : String)
    (ms : List μ) : Prop :=
  ∃ tss ≠ [], Spells clause.toList tss.flatten ∧
    List.Forall₂ (fun ts m => TakesBranchIn commas (grammarAt (maxDepth - 3)) (R m) ts) tss ms

/-- Tokens that are read as an entry of a list of columns in front of its label; the entry has a
property.  Names keep the places where they stand in a text, so that tokens alone do not tell the
entry. -/
def TakesItem (P : Expr → Prop) (ts : List Token) : Prop :=
  ∀ {ls place us}, ls.map Located.token = ts → ∃ e : Expr, e.isItem = true ∧
    opensItem (ls ++ ⟨.word "AS" none, place⟩ :: us) = true ∧
    Takes true columnGrammar.expr (ls ++ ⟨.word "AS" none, place⟩ :: us) e
      (⟨.word "AS" none, place⟩ :: us) ∧
    P e

/-- The choice between branches, given as their conditions and their results, and a default. -/
def choiceExpr (branches : List (Expr × Expr)) (default : Expr) : Expr :=
  match branches with
  | [] => default
  | _ => .cases none (branches.map (·.1)) (branches.map (·.2)) (some default)

theorem TakesItem.mono {P Q : Expr → Prop} {ts : List Token} (h : TakesItem P ts)
    (hPQ : ∀ e, P e → Q e) : TakesItem Q ts := by
  intro ls place us hls
  obtain ⟨e, hitem, hopens, htakes, hp⟩ := h hls
  exact ⟨e, hitem, hopens, htakes, hPQ e hp⟩

section Value

variable {μ : Type} {R : μ → Expr → Expr → Prop} {clauses : List String} {ms : List μ}

theorem ReadsValue.takesItem {P : Expr → Prop} {ts : List Token} (h : ReadsValue P ts) :
    TakesItem P ts := by
  intro ls place us hls
  obtain ⟨e, hitem, hp, htakes⟩ := h.takes (n := maxDepth - 5) hls (.inl rfl)
  exact ⟨e, hitem, h.opens hls, htakes, hp⟩

/-- A value may be the default of a choice. -/
theorem ReadsValue.takesDefault {P : Expr → Prop} {ts : List Token} (h : ReadsValue P ts) :
    TakesDefaultIn true (grammarAt (maxDepth - 3)) (fun d => ∃ e, d = some e ∧ P e)
      (.word "ELSE" none :: ts) := by
  refine .given rfl fun ls stop rest hls => ?_
  obtain ⟨e, _, hp, htakes⟩ := h.takes (n := maxDepth - 6) hls (.inr rfl)
  exact ⟨e, htakes, e, rfl, hp⟩

/-- What a choice means, put together of what its parts mean. -/
theorem formula_choiceExpr (s : Scope) (branches : List (Expr × Expr)) (default : Expr) :
    s.formula (choiceExpr branches default) =
      (do
        let D ← s.formula default
        let cs ← s.formulas (branches.map (·.1))
        pure (casesOf none cs (← s.formulas (branches.map (·.2))) D)) := by
  cases branches with
  | nil =>
    have hnone : ∀ D, casesOf none [] [] D = D := fun D => by simp [casesOf]
    simp only [choiceExpr, List.map_nil, Scope.formulas]
    cases hd : s.formula default with
    | error e => rfl
    | ok D => exact congrArg Except.ok (hnone D).symm
  | cons b branches =>
    simp only [choiceExpr, Scope.formula, Scope.optionalFormula]
    cases s.formula default <;> rfl

/-- The tokens of clauses, which are read branch by branch. -/
theorem exists_tokens {commas : Bool} {mss : List (List μ)}
    (h : List.Forall₂ (SpellsBranchesIn commas R) clauses mss) :
    ∃ tsss : List (List (List Token)),
      List.Forall₂ (fun c ts => Spells c.toList ts) clauses (tsss.map List.flatten) ∧
      (clauses ≠ [] → tsss.flatten ≠ []) ∧
      List.Forall₂ (fun ts m => TakesBranchIn commas (grammarAt (maxDepth - 3)) (R m) ts)
        tsss.flatten mss.flatten := by
  induction h with
  | nil => exact ⟨[], .nil, fun h => absurd rfl h, .nil⟩
  | cons hm _ ih =>
    obtain ⟨tss, hne, hspells, htakes⟩ := hm
    obtain ⟨tsss, hspell, _, htake⟩ := ih
    exact ⟨tss :: tsss, .cons hspells hspell, fun _ => by simp [hne], List.rel_append htakes htake⟩

/-- A choice between the results of clauses is an entry of a list of columns. -/
theorem takesItem_choice {tss : List (List Token)} {ds : List Token} {Q : Expr → Prop}
    (h : List.Forall₂ (fun ts m => TakesBranch (grammarAt (maxDepth - 3)) (R m) ts) tss ms)
    (hne : tss ≠ []) (hd : ReadsValue Q ds) :
    TakesItem (fun e => ∃ branches d, e = choiceExpr branches d ∧
        List.Forall₂ (fun m b => R m b.1 b.2) ms branches ∧ Q d)
      ([.word "CASE" none] ++ (tss.flatten ++ ([.word "ELSE" none] ++
        (ds ++ [.word "END" none])))) := by
  intro ls place us hls
  obtain ⟨l₁, l₂, rfl, h₁, h₂⟩ := List.map_eq_append_iff.1 hls
  obtain ⟨l₃, l₄, rfl, h₃, h₄⟩ := List.map_eq_append_iff.1 h₂
  obtain ⟨l₅, l₆, rfl, h₅, h₆⟩ := List.map_eq_append_iff.1 h₄
  obtain ⟨l₇, l₈, rfl, h₇, h₈⟩ := List.map_eq_append_iff.1 h₆
  obtain ⟨⟨_, p₁⟩, rfl, rfl⟩ := List.map_eq_singleton_iff.1 h₁
  obtain ⟨⟨_, p₅⟩, rfl, rfl⟩ := List.map_eq_singleton_iff.1 h₅
  obtain ⟨⟨_, p₈⟩, rfl, rfl⟩ := List.map_eq_singleton_iff.1 h₈
  have hbody : (l₃ ++ ⟨.word "ELSE" none, p₅⟩ :: l₇).map Located.token =
      tss.flatten ++ .word "ELSE" none :: ds := by
    rw [List.map_append, List.map_cons, h₃, h₇]
  obtain ⟨branches, _, hcase, hbranches, d, rfl, hq⟩ :=
    @takes_caseForm true _ _ (⟨.word "AS" none, place⟩ :: us) _ _ _ _ _ _ h hne
      hd.takesDefault p₈ hbody
  rw [List.append_assoc] at hcase
  obtain ⟨w, p₃, l₃, rfl⟩ := exists_word_of_branches h hne h₃
  have hchoice : choiceExpr branches d =
      .cases none (branches.map (·.1)) (branches.map (·.2)) (some d) := by
    cases h with
    | nil => exact absurd rfl hne
    | cons =>
      cases hbranches
      rfl
  refine ⟨choiceExpr branches d, by rw [hchoice]; rfl, rfl, ?_, branches, d, rfl, hbranches, hq⟩
  have hread := takes_expressionIn (n := 0)
    (takes_operandIn_case (p := p₁) hcase (.taken_false rfl)) (Nat.le_refl 0)
  have hgrammar : columnGrammar.expr = expressionIn (grammarAt (maxDepth - 3)) 0 := rfl
  simpa [hgrammar, hchoice] using hread

/-- The clauses and the default of a condition, as they stand in a list of columns. -/
theorem exists_takes_value {mss : List (List μ)}
    (h : List.Forall₂ (SpellsBranches R) clauses mss) (d : Literal) :
    ∃ ts, Spells (SqlStep.valueText clauses d.sql).toList ts ∧
      TakesItem (fun e => ∃ branches default, e = choiceExpr branches default ∧
        List.Forall₂ (fun m b => R m b.1 b.2) mss.flatten branches ∧
        ∀ s : Scope, s.formula default = d.sqlReading) ts := by
  obtain ⟨ds, hspell, hvalue⟩ := exists_reads_sql d
  by_cases hclauses : clauses = []
  · subst hclauses
    cases h
    exact ⟨ds, hspell, TakesItem.mono hvalue.takesItem fun e he => ⟨[], e, rfl, .nil, he⟩⟩
  obtain ⟨tsss, hspells, hne, htakes⟩ := exists_tokens h
  refine ⟨_, ?_, takesItem_choice htakes (hne hclauses) hvalue⟩
  have hcase : Spells "CASE".toList [.word "CASE" none] := spells_capitals rfl
  have helse : Spells "ELSE".toList [.word "ELSE" none] := spells_capitals rfl
  have hend : Spells "END".toList [.word "END" none] := spells_capitals rfl
  have hlist : (SqlStep.valueText clauses d.sql).toList =
      "CASE".toList ++ ' ' :: ((String.intercalate " " clauses).toList ++ ' ' ::
        ("ELSE".toList ++ ' ' :: (d.sql.toList ++ ' ' :: "END".toList))) := by
    simp [SqlStep.valueText, hclauses]
  have hflatten : tsss.flatten.flatten = (tsss.map List.flatten).flatten :=
    List.flatten_flatten
  rw [hlist, hflatten]
  exact hcase.append ((Spells.intercalate hclauses hspells).append
    (helse.append (hspell.append hend)))

/-- The label of the column that the statement of a condition fills. -/
def conditionLabel (columns : List String) (output : String) : String :=
  if columns.contains output then SqlStep.stagingColumn else output

/-- The label where the columns of the table may not be known. -/
def renderedLabel (columns : Option (List String)) (output : String) : String :=
  columns.elim output (conditionLabel · output)

/-- The name of the table, with which a text ends. -/
theorem tokensFrom_tableName (n : Nat) (p : Place) (hn : 2 ≤ n) :
    ∃ l : Located, l.token = .word tableName none ∧
      tokensFrom n p false tableName.toList = some [l] := by
  obtain ⟨n, rfl⟩ := Nat.exists_eq_add_of_le' hn
  exact ⟨_, rfl, rfl⟩

/-- The statement of a condition is cut into the tokens of its value and those around it. -/
theorem tokens?_render {columns : Option (List String)} {o default : String} {ts : List Token}
    (hspell : Spells (SqlStep.valueText (SqlStep.liveClauses columns clauses)
      default).toList ts) :
    ∃ p₁ p₂ p₃ p₄ p₅ p₆ p₇ ls, ls.map Located.token = ts ∧
      tokens? ((SqlStep.condition o clauses default).render columns) =
        some (⟨.word "SELECT" none, p₁⟩ :: ⟨.sign "*", p₂⟩ :: ⟨.sign ",", p₃⟩ :: (ls ++
          [⟨.word "AS" none, p₄⟩, ⟨.word (renderedLabel columns o) (some '"'), p₅⟩,
            ⟨.word "FROM" none, p₆⟩, ⟨.word tableName none, p₇⟩])) := by
  have hselect : Spells "SELECT".toList [.word "SELECT" none] := spells_capitals rfl
  have hstar : Spells "*,".toList [.sign "*", .sign ","] :=
    .cons rfl (by decide) (by decide) rfl (fun rest => rfl)
      (.token rfl (by decide) (by decide) fun rest => rfl)
  have has : Spells "AS".toList [.word "AS" none] := spells_capitals rfl
  have hfrom : Spells "FROM".toList [.word "FROM" none] := spells_capitals rfl
  have hlabel := spells_quoteIdentifier (renderedLabel columns o)
  have hpieces := hselect.append (hstar.append (hspell.append (has.append (hlabel.append hfrom))))
  have htext : ((SqlStep.condition o clauses default).render columns).toList =
      ("SELECT".toList ++ ' ' :: ("*,".toList ++ ' ' :: ((SqlStep.valueText
        (SqlStep.liveClauses columns clauses) default).toList ++ ' ' :: ("AS".toList ++ ' ' ::
          ((quoteIdentifier (renderedLabel columns o)).toList ++ ' ' :: "FROM".toList))))) ++
        ' ' :: tableName.toList := by
    cases columns <;> simp [SqlStep.render, renderedLabel, conditionLabel]
  obtain ⟨ls, hls, htokens⟩ := tokens?_of_spells htext hpieces tokensFrom_tableName (by decide)
  -- the tokens of each piece, and where they stand
  obtain ⟨l₀, l₁, rfl, h₀, h₁⟩ := List.map_eq_append_iff.1 hls
  obtain ⟨l₂, l₃, rfl, h₂, h₃⟩ := List.map_eq_append_iff.1 h₀
  obtain ⟨l₄, l₅, rfl, h₄, h₅⟩ := List.map_eq_append_iff.1 h₃
  obtain ⟨l₆, l₇, rfl, h₆, h₇⟩ := List.map_eq_append_iff.1 h₅
  obtain ⟨⟨_, p₇⟩, rfl, rfl⟩ := List.map_eq_singleton_iff.1 h₁
  obtain ⟨⟨_, p₁⟩, rfl, rfl⟩ := List.map_eq_singleton_iff.1 h₂
  obtain ⟨⟨_, p₂⟩, l₈, rfl, rfl, h₈⟩ := List.map_eq_cons_iff.1 h₄
  obtain ⟨⟨_, p₃⟩, rfl, rfl⟩ := List.map_eq_singleton_iff.1 h₈
  obtain ⟨⟨_, p₄⟩, l₉, rfl, rfl, h₉⟩ := List.map_eq_cons_iff.1 h₇
  obtain ⟨⟨_, p₅⟩, l, rfl, rfl, hl⟩ := List.map_eq_cons_iff.1 h₉
  obtain ⟨⟨_, p₆⟩, rfl, rfl⟩ := List.map_eq_singleton_iff.1 hl
  refine ⟨p₁, p₂, p₃, p₄, p₅, p₆, p₇, l₆, h₆, htokens.trans (congrArg some ?_)⟩
  simp

/-- **The statement of a condition is read back as a `SELECT` of all columns and of a choice between
the branches of its live clauses and its default.** -/
theorem exists_parse_render {columns : List String} {mss : List (List μ)}
    (h : List.Forall₂ (SpellsBranches R) (clauses.filter (SqlStep.isLive columns)) mss)
    (o : String) (d : Literal) :
    ∃ branches default label place, label.text = conditionLabel columns o ∧
      parse? true ((SqlStep.condition o clauses d.sql).render (some columns)) =
        some [.query (.ofBody (.select (selectBeside (choiceExpr branches default) label
          ⟨tableName, none, place⟩)))] ∧
      List.Forall₂ (fun m b => R m b.1 b.2) mss.flatten branches ∧
      ∀ s : Scope, s.formula default = d.sqlReading := by
  obtain ⟨ts, hspell, hitem⟩ := exists_takes_value h d
  obtain ⟨p₁, p₂, p₃, p₄, p₅, p₆, p₇, ls, hls, htokens⟩ :=
    @tokens?_render clauses (some columns) o d.sql ts hspell
  obtain ⟨_, hisItem, hopens, hreads, branches, default, rfl, hbranches, hd⟩ := @hitem ls p₄
    [⟨.word (conditionLabel columns o) (some '"'), p₅⟩, ⟨.word "FROM" none, p₆⟩,
      ⟨.word tableName none, p₇⟩] hls
  refine ⟨branches, default, ⟨conditionLabel columns o, some '"', p₅⟩, p₇, rfl, ?_, hbranches, hd⟩
  exact parse?_of_takes htokens (takes_statement_beside hopens hisItem hreads)

/-- The same for clauses whose branches have a property. -/
theorem exists_parse_branches {Q : Expr → Expr → Prop} {columns : List String}
    (h : ∀ clause ∈ clauses.filter (SqlStep.isLive columns),
      ∃ ms : List Unit, SpellsBranches (fun _ c v => Q c v) clause ms) (o : String) (d : Literal) :
    ∃ branches default label place, label.text = conditionLabel columns o ∧
      parse? true ((SqlStep.condition o clauses d.sql).render (some columns)) =
        some [.query (.ofBody (.select (selectBeside (choiceExpr branches default) label
          ⟨tableName, none, place⟩)))] ∧
      (∀ b ∈ branches, Q b.1 b.2) ∧ ∀ s : Scope, s.formula default = d.sqlReading := by
  obtain ⟨mss, hmss⟩ : ∃ mss, List.Forall₂ (SpellsBranches fun (_ : Unit) c v => Q c v)
      (clauses.filter (SqlStep.isLive columns)) mss := by
    generalize clauses.filter (SqlStep.isLive columns) = live at h
    induction live with
    | nil => exact ⟨[], .nil⟩
    | cons clause live ih =>
      obtain ⟨ms, hms⟩ := h clause List.mem_cons_self
      obtain ⟨mss, hmss⟩ := ih fun clause hc => h clause (List.mem_cons_of_mem _ hc)
      exact ⟨ms :: mss, .cons hms hmss⟩
  obtain ⟨branches, default, label, place, hlabel, htext, hbranches, hd⟩ :=
    exists_parse_render hmss o d
  refine ⟨branches, default, label, place, hlabel, htext, fun b hb => ?_, hd⟩
  clear htext
  generalize mss.flatten = ms at hbranches
  induction hbranches with
  | nil => cases hb
  | cons hm _ ih =>
    rcases List.mem_cons.1 hb with rfl | hb
    · exact hm
    · exact ih hb

/-- Where the clauses of a condition and its default mean something, so does the choice between
them. -/
theorem exists_parse_render_of_reads {s : Scope} {columns : List String} {o : String} {d : Literal}
    {D : Formula} {ms : List (Formula × Formula)}
    (h : List.Forall₂ (ReadsClause s) (clauses.filter (SqlStep.isLive columns)) ms)
    (hd : d.sqlFormula? = some D) :
    ∃ e label place, label.text = conditionLabel columns o ∧
      parse? true ((SqlStep.condition o clauses d.sql).render (some columns)) =
        some [.query (.ofBody (.select (selectBeside e label ⟨tableName, none, place⟩)))] ∧
      s.formula e = .ok (choiceFormula ms D) := by
  have hspells : List.Forall₂ (SpellsBranches fun (m : Formula × Formula) c v =>
      s.formula c = .ok m.1 ∧ s.formula v = .ok m.2) (clauses.filter (SqlStep.isLive columns))
        (ms.map fun m => [m]) := by
    rw [List.forall₂_map_right_iff]
    refine h.imp fun clause m hm => ?_
    obtain ⟨ts, hts, hreads⟩ := hm
    exact ⟨[ts], by simp, by simpa using hts, .cons hreads .nil⟩
  obtain ⟨branches, default, label, place, hlabel, htext, hbranches, hdefault⟩ :=
    exists_parse_render hspells o d
  refine ⟨_, label, place, hlabel, htext, ?_⟩
  have hms : (ms.map fun m => [m]).flatten = ms := by
    rw [← List.flatMap_def, List.flatMap_singleton']
  rw [hms] at hbranches
  have hformulas : s.formulas (branches.map (·.1)) = .ok (ms.map (·.1)) ∧
      s.formulas (branches.map (·.2)) = .ok (ms.map (·.2)) := by
    clear * - hbranches
    induction hbranches with
    | nil => exact ⟨rfl, rfl⟩
    | cons hm _ ih =>
      simp only [List.map_cons, Scope.formulas, hm.1, hm.2, ih.1, ih.2]
      exact ⟨rfl, rfl⟩
  rw [formula_choiceExpr, hdefault, sqlReading_of_sqlFormula hd, hformulas.1, hformulas.2]
  rfl

end Value

end Sql

end FocusBilling
