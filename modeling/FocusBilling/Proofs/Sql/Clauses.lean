import FocusBilling.Proofs.Sql.Rendering

/-!
# Clauses that compare columns with texts

* `takes_operandIn_text`, `takes_operandIn_quoted` : texts and quoted names as operands;
* `Equation`, `equationsClause` : columns and the texts that they are to be equal to, and a clause
  that gives a text where all of them are;
* `takes_conjoined`, `takes_conjunction` : such equations are read one by one;
* `exists_takesBranchIn_conjunction` : **the clause is one branch of a choice, whatever characters
  its names and its texts have**;
* `readsClause_equation` : what a clause with one equation means.
-/

namespace FocusBilling

namespace Sql

open Parse

/-- A choice goes on or ends with a keyword, which is no operator. -/
theorem exists_word_of_endsBranch {ls : List Located} (h : endsBranch ls = true) :
    ∃ w p us, ls = ⟨.word w none, p⟩ :: us ∧ Token.isKeyword "COLLATE" (.word w none) = false ∧
      precedence ls = 0 := by
  match ls with
  | ⟨.word w none, p⟩ :: us =>
    refine ⟨w, p, us, rfl, ?_⟩
    simp only [endsBranch, List.any_cons, List.any_nil, Token.isKeyword, Bool.or_false,
      Bool.or_eq_true, beq_iff_eq] at h
    have hkeyword : (Text.upper w = "WHEN" ∨ Text.upper w = "ELSE" ∨ Text.upper w = "END") := by
      simpa only [Text.upper, ← String.toList_inj, String.toList_ofList] using h
    simp only [Token.isKeyword, precedence, wordPrecedence, Token.keyword?]
    refine ⟨?_, ?_⟩
    · rcases h with h | h | h <;> rw [h] <;> decide
    · rcases hkeyword with h | h | h <;> rw [h] <;> rfl

section Operand

variable {commas : Bool} {g : Grammar} {v w n : String} {p q r : Span} {us : List Located}

theorem takes_operandIn_text (hw : Token.isKeyword "COLLATE" (.word w none) = false) :
    Takes commas (operandIn g) (⟨.text .plain v, p⟩ :: ⟨.word w none, q⟩ :: us)
      (.value (.text .plain v)) (⟨.word w none, q⟩ :: us) := by
  unfold operandIn
  refine .bind (fun heard => ⟨heard, rfl⟩) ?_
  unfold operandFrom
  refine .bind (a := none) (r := ⟨.text .plain v, p⟩ :: ⟨.word w none, q⟩ :: us)
    (fun heard => ⟨heard, rfl⟩) ?_
  refine .bind (fun heard => ⟨heard, rfl⟩) (.bind (fun heard => ⟨heard, rfl⟩) ?_)
  refine .bind (a := .value (.text .plain v)) (r := ⟨.word w none, q⟩ :: us)
    (fun heard => ⟨heard, rfl⟩) ?_
  exact .bind (.taken_false hw) .pure

theorem takes_operandIn_quoted :
    Takes commas (operandIn g) (⟨.word n (some '"'), p⟩ :: ⟨.sign "=", q⟩ :: us)
      (.column [⟨n, some '"', p⟩]) (⟨.sign "=", q⟩ :: us) := by
  unfold operandIn
  refine .bind (fun heard => ⟨heard, rfl⟩) ?_
  unfold operandFrom
  refine .bind (a := none) (r := ⟨.word n (some '"'), p⟩ :: ⟨.sign "=", q⟩ :: us)
    (fun heard => ⟨heard, rfl⟩) ?_
  refine .bind (fun heard => ⟨heard, rfl⟩) (.bind (fun heard => ⟨heard, rfl⟩) ?_)
  exact fun heard => ⟨heard, rfl⟩

/-- The sign of equality with a text behind it. -/
theorem takes_operator_equal {k : Nat} {e : Expr}
    (hw : Token.isKeyword "COLLATE" (.word w none) = false)
    (hp : precedence (⟨.word w none, r⟩ :: us) ≤ 20) :
    Takes commas (operator (grammarAt (k + 1)) e 20)
      (⟨.sign "=", p⟩ :: ⟨.text .plain v, q⟩ :: ⟨.word w none, r⟩ :: us)
      (.binary .eq e (.value (.text .plain v))) (⟨.word w none, r⟩ :: us) := by
  have htext : Takes commas ((grammarAt (k + 1)).subexpr 20) (⟨.text .plain v, q⟩ ::
      ⟨.word w none, r⟩ :: us) (.value (.text .plain v)) (⟨.word w none, r⟩ :: us) :=
    takes_expressionIn (takes_operandIn_text hw) hp
  unfold operator binaryForm
  refine .bind (fun heard => ⟨heard, rfl⟩) (.bind (fun heard => ⟨heard, rfl⟩) ?_)
  refine .bind (a := some .eq) (fun heard => ⟨heard, rfl⟩) ?_
  exact .bind (a := none) (fun heard => ⟨heard, rfl⟩) (.bind htext .pure)

end Operand

/-! ### Equations -/

/-- A column and a text that are to be equal. -/
structure Equation where
  /-- The name of the column. -/
  column : String
  /-- The text. -/
  text : String

namespace Equation

/-- An equation as SQL spells it. -/
def sql (e : Equation) : String := quoteIdentifier e.column ++ " = " ++ (Literal.text e.text).sql

/-- The tokens of an equation. -/
def tokens (e : Equation) : List Token :=
  [.word e.column (some '"'), .sign "=", .text .plain e.text]

/-- The expression of an equation, whose name stands in some place. -/
def expr (e : Equation) (p : Span) : Expr :=
  .binary .eq (.column [⟨e.column, some '"', p⟩]) (.value (.text .plain e.text))

/-- An expression that is read from an equation. -/
def IsRead (e : Equation) (c : Expr) : Prop := ∃ p, c = e.expr p

/-- The tokens of an equation, where they stand. -/
theorem exists_of_tokens {e : Equation} {ls : List Located} {ts : List Token}
    (h : ls.map Located.token = e.tokens ++ ts) :
    ∃ p q r l, ls = ⟨.word e.column (some '"'), p⟩ :: ⟨.sign "=", q⟩ ::
      ⟨.text .plain e.text, r⟩ :: l ∧ l.map Located.token = ts := by
  obtain ⟨⟨_, p⟩, l₁, rfl, rfl, h₁⟩ := List.map_eq_cons_iff.1 h
  obtain ⟨⟨_, q⟩, l₂, rfl, rfl, h₂⟩ := List.map_eq_cons_iff.1 h₁
  obtain ⟨⟨_, r⟩, l, rfl, rfl, hl⟩ := List.map_eq_cons_iff.1 h₂
  exact ⟨p, q, r, l, rfl, hl⟩

theorem spells_sql (e : Equation) : Spells e.sql.toList e.tokens := by
  have hequal : Spells "=".toList [.sign "="] :=
    .token rfl (by decide) (by decide) fun rest => rfl
  have hpieces := (spells_quoteIdentifier e.column).append (hequal.append (spells_quotedSql e.text))
  simpa [sql, tokens, Literal.sql] using hpieces

end Equation

/-- Equations that are all to hold, as SQL spells them. -/
def conjunctionText (es : List Equation) : String :=
  String.intercalate " AND " (es.map Equation.sql)

/-- A clause that gives a text where equations hold. -/
def equationsClause (es : List Equation) (w : String) : String :=
  "WHEN " ++ conjunctionText es ++ " THEN " ++ (Literal.text w).sql

/-- The tokens of equations behind the first one. -/
def conjoinedTokens (es : List Equation) : List Token :=
  es.flatMap fun e => .word "AND" none :: e.tokens

/-- Conditions that are all to hold, of which the first two are put together first. -/
def conjunction (first : Expr) (others : List Expr) : Expr := others.foldl (.binary .and) first

theorem spells_conjunctionText (e : Equation) (es : List Equation) :
    Spells (conjunctionText (e :: es)).toList (e.tokens ++ conjoinedTokens es) := by
  have hand : Spells "AND".toList [.word "AND" none] := spells_capitals rfl
  induction es generalizing e with
  | nil => simpa [conjunctionText, conjoinedTokens] using e.spells_sql
  | cons e' es ih =>
    have htext : (conjunctionText (e :: e' :: es)).toList =
        e.sql.toList ++ ' ' :: ("AND".toList ++ ' ' :: (conjunctionText (e' :: es)).toList) := by
      simp [conjunctionText, String.intercalate_cons_cons]
    rw [htext]
    exact e.spells_sql.append (hand.append (ih e'))

section Conjunction

variable {commas : Bool} {k n : Nat} {e : Equation} {es : List Equation} {c : Expr} {st : Span}
  {ls us : List Located}

/-- Behind an equation stands `AND` or `THEN`. -/
theorem exists_word_of_conjoined (st : Span) (us : List Located)
    (hls : ls.map Located.token = conjoinedTokens es) :
    ∃ w p vs, ls ++ ⟨.word "THEN" none, st⟩ :: us = ⟨.word w none, p⟩ :: vs ∧
      Token.isKeyword "COLLATE" (.word w none) = false ∧
      precedence (⟨.word w none, p⟩ :: vs) ≤ 10 := by
  cases es with
  | nil =>
    obtain rfl := List.map_eq_nil_iff.1 hls
    exact ⟨"THEN", st, us, rfl, rfl, Nat.zero_le 10⟩
  | cons e es =>
    obtain ⟨⟨_, p⟩, l, rfl, rfl, -⟩ := List.map_eq_cons_iff.1 hls
    exact ⟨"AND", p, l ++ ⟨.word "THEN" none, st⟩ :: us, rfl, rfl, Nat.le_refl 10⟩

/-- The operator of an equation, with what stands behind it up to `AND` or `THEN`. -/
theorem takes_equal_conjoined {p q : Span} (hls : ls.map Located.token = conjoinedTokens es) :
    Takes commas (operator (grammarAt (k + 1)) c 20)
      (⟨.sign "=", p⟩ :: ⟨.text .plain e.text, q⟩ :: (ls ++ ⟨.word "THEN" none, st⟩ :: us))
      (.binary .eq c (.value (.text .plain e.text))) (ls ++ ⟨.word "THEN" none, st⟩ :: us) := by
  obtain ⟨w, r, vs, hvs, hw, hp⟩ := exists_word_of_conjoined st us hls
  rw [hvs]
  exact takes_operator_equal hw (Nat.le_trans hp (by decide))

theorem length_le_length_conjoinedTokens (es : List Equation) :
    es.length ≤ (conjoinedTokens es).length := by
  induction es with
  | nil => exact Nat.le_refl 0
  | cons e es ih =>
    simp only [conjoinedTokens, List.flatMap_cons, List.length_append, List.length_cons] at ih ⊢
    omega

/-- Equations behind the first one are read one by one, up to `THEN`. -/
theorem takes_conjoined (hls : ls.map Located.token = conjoinedTokens es) (hn : es.length < n) :
    ∃ cs, List.Forall₂ Equation.IsRead es cs ∧
      Takes commas (iterate.go (operatorStep (grammarAt (k + 3)) 0) n c)
        (ls ++ ⟨.word "THEN" none, st⟩ :: us) (conjunction c cs)
        (⟨.word "THEN" none, st⟩ :: us) := by
  induction es generalizing ls n c with
  | nil =>
    obtain ⟨n, rfl⟩ := Nat.exists_eq_succ_of_ne_zero (Nat.ne_of_gt hn)
    obtain rfl := List.map_eq_nil_iff.1 hls
    exact ⟨[], .nil, .bind (takes_operatorStep_none (Nat.le_refl 0)) .pure⟩
  | cons e es ih =>
    obtain ⟨n, rfl⟩ := Nat.exists_eq_succ_of_ne_zero (Nat.ne_of_gt (Nat.zero_lt_of_lt hn))
    obtain ⟨⟨_, p₁⟩, l₁, rfl, rfl, h₁⟩ := List.map_eq_cons_iff.1 hls
    obtain ⟨p₂, p₃, p₄, l, rfl, hl⟩ := Equation.exists_of_tokens h₁
    have hright : Takes commas ((grammarAt (k + 3)).subexpr 10)
        (⟨.word e.column (some '"'), p₂⟩ :: ⟨.sign "=", p₃⟩ :: ⟨.text .plain e.text, p₄⟩ ::
          (l ++ ⟨.word "THEN" none, st⟩ :: us))
        (e.expr p₂) (l ++ ⟨.word "THEN" none, st⟩ :: us) := by
      obtain ⟨w, r, vs, hvs, -, hp⟩ := exists_word_of_conjoined st us hl
      exact takes_expressionIn_operator takes_operandIn_quoted (by decide : 10 < 20)
        (takes_equal_conjoined hl) (hvs ▸ hp)
    have hoperator : Takes commas (operator (grammarAt (k + 3)) c 10) (⟨.word "AND" none, p₁⟩ ::
        ⟨.word e.column (some '"'), p₂⟩ :: ⟨.sign "=", p₃⟩ :: ⟨.text .plain e.text, p₄⟩ ::
          (l ++ ⟨.word "THEN" none, st⟩ :: us))
        (.binary .and c (e.expr p₂)) (l ++ ⟨.word "THEN" none, st⟩ :: us) := by
      unfold operator binaryForm
      refine .bind (fun heard => ⟨heard, rfl⟩) (.bind (fun heard => ⟨heard, rfl⟩) ?_)
      refine .bind (a := some .and) (fun heard => ⟨heard, rfl⟩) ?_
      exact .bind (a := none) (fun heard => ⟨heard, rfl⟩) (.bind hright .pure)
    obtain ⟨cs, hcs, hgo⟩ := ih hl (Nat.lt_of_succ_lt_succ hn)
    exact ⟨e.expr p₂ :: cs, .cons ⟨p₂, rfl⟩ hcs,
      .bind (takes_operatorStep_some (Nat.succ_pos 9) hoperator) hgo⟩

/-- Equations are read as the conditions that they are. -/
theorem takes_conjunction (hls : ls.map Located.token = e.tokens ++ conjoinedTokens es) :
    ∃ c cs, e.IsRead c ∧ List.Forall₂ Equation.IsRead es cs ∧
      Takes commas (expressionIn (grammarAt (k + 3)) 0) (ls ++ ⟨.word "THEN" none, st⟩ :: us)
        (conjunction c cs) (⟨.word "THEN" none, st⟩ :: us) := by
  obtain ⟨p₁, p₂, p₃, l, rfl, hl⟩ := Equation.exists_of_tokens hls
  have hlen : es.length ≤ l.length := by
    have hle := length_le_length_conjoinedTokens es
    rwa [← hl, List.length_map] at hle
  obtain ⟨cs, hcs, hgo⟩ := @takes_conjoined commas k
    ((⟨.text .plain e.text, p₃⟩ :: (l ++ ⟨.word "THEN" none, st⟩ :: us)).length + 1) es (e.expr p₁)
    st l us hl (by simp only [List.length_cons, List.length_append]; omega)
  refine ⟨e.expr p₁, cs, ⟨p₁, rfl⟩, hcs, ?_⟩
  unfold expressionIn iterate
  refine .bind (fun heard => ⟨_, rfl⟩) (.bind takes_operandIn_quoted ?_)
  refine .bind (fun heard => ⟨_, rfl⟩) (.bind (fun heard => ⟨_, rfl⟩) ?_)
  exact .bind (takes_operatorStep_some (Nat.succ_pos 19) (takes_equal_conjoined hl)) hgo

end Conjunction

/-- **A clause that gives a text where equations hold is one branch of a choice**, whatever
characters its names and its texts have. -/
theorem exists_takesBranchIn_conjunction {P : Expr → Expr → Prop} (commas : Bool) (e : Equation)
    (es : List Equation) (w : String)
    (hP : ∀ c cs, e.IsRead c → List.Forall₂ Equation.IsRead es cs →
      P (conjunction c cs) (.value (.text .plain w))) :
    ∃ ts, Spells (equationsClause (e :: es) w).toList ts ∧
      TakesBranchIn commas (grammarAt (maxDepth - 3)) P ts := by
  have hwhen : Spells "WHEN".toList [.word "WHEN" none] := spells_capitals rfl
  have hthen : Spells "THEN".toList [.word "THEN" none] := spells_capitals rfl
  have hpieces := hwhen.append ((spells_conjunctionText e es).append
    (hthen.append (spells_quotedSql w)))
  have htext : (equationsClause (e :: es) w).toList =
      "WHEN".toList ++ ' ' :: ((conjunctionText (e :: es)).toList ++ ' ' ::
        ("THEN".toList ++ ' ' :: (Literal.quotedSql w).toList)) := by
    simp [equationsClause, Literal.sql]
  refine ⟨_, htext ▸ hpieces, "WHEN", _, rfl, rfl, fun ls rest hls hrest => ?_⟩
  -- the tokens of the equations, the two behind them, and where they stand
  replace hls : ls.map Located.token = (e.tokens ++ conjoinedTokens es) ++
      [.word "THEN" none, .text .plain w] := hls
  obtain ⟨l, l₁, rfl, hl, h₁⟩ := List.map_eq_append_iff.1 hls
  obtain ⟨⟨_, p₁⟩, l₂, rfl, rfl, h₂⟩ := List.map_eq_cons_iff.1 h₁
  obtain ⟨⟨_, p₂⟩, l₃, rfl, rfl, h₃⟩ := List.map_eq_cons_iff.1 h₂
  obtain rfl := List.map_eq_nil_iff.1 h₃
  obtain ⟨k, p, us, rfl, hfree, hprecedence⟩ := exists_word_of_endsBranch hrest
  obtain ⟨c, cs, hc, hcs, hread⟩ := @takes_conjunction commas (maxDepth - 7) e es p₁ l
    (⟨.text .plain w, p₂⟩ :: ⟨.word k none, p⟩ :: us) hl
  refine ⟨conjunction c cs, .value (.text .plain w), ?_, hP c cs hc hcs⟩
  unfold branchForm
  rw [List.append_assoc]
  refine .bind hread (.bind (fun heard => ⟨heard, rfl⟩) (.bind ?_ .pure))
  exact takes_expressionIn (takes_operandIn_text hfree) (Nat.le_of_eq hprecedence)

/-- The same for one equation. -/
theorem exists_takesBranchIn_equation {P : Expr → Expr → Prop} (commas : Bool) (n v w : String)
    (hP : ∀ p, P (.binary .eq (.column [⟨n, some '"', p⟩]) (.value (.text .plain v)))
      (.value (.text .plain w))) :
    ∃ ts, Spells ("WHEN " ++ quoteIdentifier n ++ " = " ++ Literal.quotedSql v ++ " THEN " ++
        Literal.quotedSql w).toList ts ∧ TakesBranchIn commas (grammarAt (maxDepth - 3)) P ts := by
  have hone : ∀ c cs, Equation.IsRead ⟨n, v⟩ c → List.Forall₂ Equation.IsRead [] cs →
      P (conjunction c cs) (.value (.text .plain w)) := by
    rintro c cs ⟨p, rfl⟩ hcs
    cases hcs
    exact hP p
  obtain ⟨ts, hts, htakes⟩ := exists_takesBranchIn_conjunction commas ⟨n, v⟩ [] w hone
  refine ⟨ts, ?_, htakes⟩
  simpa [equationsClause, conjunctionText, Equation.sql, Literal.sql] using hts

theorem exists_takesBranch_equation {P : Expr → Expr → Prop} (n v w : String)
    (hP : ∀ p, P (.binary .eq (.column [⟨n, some '"', p⟩]) (.value (.text .plain v)))
      (.value (.text .plain w))) :
    ∃ ts, Spells ("WHEN " ++ quoteIdentifier n ++ " = " ++ Literal.quotedSql v ++ " THEN " ++
        Literal.quotedSql w).toList ts ∧ TakesBranch (grammarAt (maxDepth - 3)) P ts :=
  exists_takesBranchIn_equation true n v w hP

/-- What such a clause means. -/
theorem readsClause_equation (s : Scope) (n v w : String) :
    ReadsClause s ("WHEN " ++ quoteIdentifier n ++ " = " ++ Literal.quotedSql v ++ " THEN " ++
        Literal.quotedSql w)
      (.compare .eq (.column n) (s.asInstant (.column n) (.ofText v)), .ofText w) :=
  exists_takesBranch_equation n v w fun _ => ⟨rfl, rfl⟩

end Sql

end FocusBilling
