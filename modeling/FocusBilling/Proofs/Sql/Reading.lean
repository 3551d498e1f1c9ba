import FocusBilling.Sql.Elaborate
import FocusBilling.Sql.Statement
import Mathlib.Data.List.Forall2

/-!
# What readers take

A reader that succeeds takes tokens from the front and gives a value.  What it has heard on the way
is left open here, so that a form can be read part by part.

* `Parse.Takes` : a step takes the tokens up to some others and gives a value;
* `TakesBranch`, `ReadsBranch` : tokens that are read as one branch of a choice, wherever a choice
  goes on or ends behind them;
* `TakesDefaultIn` : tokens that are read as the default of a choice, if it has one;
* `takes_caseForm` : a choice is read branch by branch, with a default or without one;
* `takes_expressionIn`, `takes_expressionIn_operator` : operands, alone and with an operator;
* `takes_statement_beside` : a statement that puts one more column beside all columns of a table;
* `takes_statement_alone` : a statement that asks for one column only.
-/

namespace FocusBilling

namespace Sql

namespace Parse

variable {α β : Type} {commas : Bool}

/-- A step of a reader takes the tokens up to some others and gives a value. -/
def Takes (commas : Bool) (p : Parse α) (ts : List Located) (a : α) (rest : List Located) : Prop :=
  ∀ heard, ∃ heard', p.run.run ⟨ts, commas, false, heard⟩ =
    (.ok a, ⟨rest, commas, false, heard'⟩)

namespace Takes

variable {p : Parse α} {f : α → Parse β} {ts r vs : List Located} {a : α} {b : β}

theorem bind (hp : Takes commas p ts a r) (hf : Takes commas (f a) r b vs) :
    Takes commas (p >>= f) ts b vs := by
  intro heard
  obtain ⟨heard₁, h₁⟩ := hp heard
  obtain ⟨heard₂, h₂⟩ := hf heard₁
  refine ⟨heard₂, ?_⟩
  simp only [ExceptT.run_bind, StateT.run_bind, h₁]
  exact h₂

/-- A step that succeeds is not tried again. -/
theorem tryCatch {h : ParseFailure → Parse α} (hp : Takes commas p ts a r) :
    Takes commas (tryCatch p h) ts a r := by
  intro heard
  obtain ⟨heard₁, h₁⟩ := hp heard
  have heq : (MonadExcept.tryCatch p h : Parse α) = ExceptT.tryCatch p h := rfl
  have hrun : StateT.run p ⟨ts, commas, false, heard⟩ = _ := h₁
  refine ⟨heard₁, ?_⟩
  rw [heq, ExceptT.tryCatch, ExceptT.run_mk, StateT.run_bind, hrun]
  rfl

theorem pure : Takes commas (pure a : Parse α) ts a ts :=
  fun heard => ⟨heard, rfl⟩

theorem taken {test : Token → Bool} {t : Located} (h : test t.token = true) :
    Takes commas (taken test) (t :: ts) true ts := by
  intro heard
  have hrun : (Parse.taken test).run.run ⟨t :: ts, commas, false, heard⟩ =
      (if test t.token then (do goTo ts; Pure.pure true : Parse Bool)
        else Pure.pure false).run.run ⟨t :: ts, commas, false, heard⟩ := rfl
  exact ⟨heard, by rw [hrun, h]; rfl⟩

theorem taken_false {test : Token → Bool} {t : Located} (h : test t.token = false) :
    Takes commas (Parse.taken test) (t :: ts) false (t :: ts) := by
  intro heard
  have hrun : (Parse.taken test).run.run ⟨t :: ts, commas, false, heard⟩ =
      (if test t.token then (do goTo ts; Pure.pure true : Parse Bool)
        else Pure.pure false).run.run ⟨t :: ts, commas, false, heard⟩ := rfl
  exact ⟨heard, by rw [hrun, h]; rfl⟩

theorem givenThat {c : Parse Bool} (hc : Takes commas c ts true r) (hp : Takes commas p r a vs) :
    Takes commas (givenThat c p) ts (some a) vs :=
  hc.bind (hp.bind .pure)

/-- A list goes on. -/
theorem go_some {step : Parse (Option α)} {n : Nat} {acc found : List α}
    (hs : Takes commas step ts (some a) r)
    (h : Takes commas (whileSome.go step n (a :: acc)) r found vs) :
    Takes commas (whileSome.go step (n + 1) acc) ts found vs :=
  hs.bind h

/-- A list ends. -/
theorem go_none {step : Parse (Option α)} {n : Nat} {acc : List α}
    (hs : Takes commas step ts none r) :
    Takes commas (whileSome.go step (n + 1) acc) ts acc.reverse r :=
  hs.bind .pure

end Takes

end Parse

open Parse

/-! ### Choices -/

/-- One branch of a choice, behind `WHEN`. -/
def branchForm (g : Grammar) : Parse (Expr × Expr) := do
  let c ← g.expr
  expectKeyword "THEN"
  pure (c, ← g.expr)

/-- Whether a choice goes on or ends in front of some tokens. -/
def endsBranch : List Located → Bool
  | t :: _ => ["WHEN", "ELSE", "END"].any fun k => t.token.isKeyword k
  | [] => false

/-- Tokens that are read as one branch of a choice, wherever a choice goes on or ends behind them;
its condition and its result have a property. -/
def TakesBranch (g : Grammar) (P : Expr → Expr → Prop) (ts : List Token) : Prop :=
  ∃ w us, ts = .word w none :: us ∧ Token.isKeyword "WHEN" (.word w none) = true ∧
    ∀ ls rest, ls.map Located.token = us → endsBranch rest = true →
      ∃ c v, Takes true (branchForm g) (ls ++ rest) (c, v) rest ∧ P c v

/-- Tokens that are read as one branch of a choice, wherever a choice goes on or ends behind them,
with what its condition and its result mean. -/
def ReadsBranch (g : Grammar) (s : Scope) (ts : List Token) (meaning : Formula × Formula) : Prop :=
  ∃ w us, ts = .word w none :: us ∧ Token.isKeyword "WHEN" (.word w none) = true ∧
    ∀ ls rest, ls.map Located.token = us → endsBranch rest = true →
      ∃ c v, Takes true (branchForm g) (ls ++ rest) (c, v) rest ∧
        s.formula c = .ok meaning.1 ∧ s.formula v = .ok meaning.2

/-- Tokens that are read as one branch of a choice by a reader that lets a comma stand behind the
last entry of a list, or by one that does not. -/
def TakesBranchIn (commas : Bool) (g : Grammar) (P : Expr → Expr → Prop) (ts : List Token) : Prop :=
  ∃ w us, ts = .word w none :: us ∧ Token.isKeyword "WHEN" (.word w none) = true ∧
    ∀ ls rest, ls.map Located.token = us → endsBranch rest = true →
      ∃ c v, Takes commas (branchForm g) (ls ++ rest) (c, v) rest ∧ P c v

section Choice

variable {commas : Bool} {g : Grammar} {ls rest : List Located}

section

variable {P Q : Expr → Expr → Prop} {ts : List Token}

theorem TakesBranch.mono (h : TakesBranch g P ts) (hPQ : ∀ c v, P c v → Q c v) :
    TakesBranch g Q ts := by
  obtain ⟨w, us, hts, hw, hbranch⟩ := h
  refine ⟨w, us, hts, hw, fun ls rest hls hrest => ?_⟩
  obtain ⟨c, v, hcv, hp⟩ := hbranch ls rest hls hrest
  exact ⟨c, v, hcv, hPQ c v hp⟩

namespace TakesBranchIn

/-- A branch starts with `WHEN`, behind which its condition and its result are read. -/
theorem takes (h : TakesBranchIn commas g P ts) (hls : ls.map Located.token = ts)
    (hrest : endsBranch rest = true) :
    ∃ l us c v, ls = l :: us ∧ l.token.isKeyword "WHEN" = true ∧
      Takes commas (branchForm g) (us ++ rest) (c, v) rest ∧ P c v := by
  obtain ⟨w, us, rfl, hw, hbranch⟩ := h
  obtain ⟨l, us, rfl, hl, hus⟩ := List.map_eq_cons_iff.1 hls
  obtain ⟨c, v, hcv, hp⟩ := hbranch us rest hus hrest
  exact ⟨l, us, c, v, rfl, hl ▸ hw, hcv, hp⟩

theorem endsBranch_append (h : TakesBranchIn commas g P ts) (hls : ls.map Located.token = ts) :
    endsBranch (ls ++ rest) = true := by
  obtain ⟨w, us, rfl, hw, _⟩ := h
  obtain ⟨l, ls, rfl, hl, _⟩ := List.map_eq_cons_iff.1 hls
  simp [endsBranch, hl, hw]

end TakesBranchIn

end

variable {μ : Type} {R : μ → Expr → Expr → Prop} {tss : List (List Token)} {ms : List μ}

theorem endsBranch_branches (h : List.Forall₂ (fun ts m => TakesBranchIn commas g (R m) ts) tss ms)
    (hls : ls.map Located.token = tss.flatten) (hrest : endsBranch rest = true) :
    endsBranch (ls ++ rest) = true := by
  cases h with
  | nil =>
    obtain rfl : ls = [] := List.map_eq_nil_iff.1 hls
    exact hrest
  | cons hm _ =>
    obtain ⟨l₁, l₂, rfl, h₁, _⟩ := List.map_eq_append_iff.1 hls
    rw [List.append_assoc]
    exact hm.endsBranch_append h₁

theorem length_le_length_flatten
    (h : List.Forall₂ (fun ts m => TakesBranchIn commas g (R m) ts) tss ms) :
    tss.length ≤ tss.flatten.length := by
  induction h with
  | nil => exact Nat.le_refl 0
  | cons hm _ ih =>
    obtain ⟨w, us, rfl, _⟩ := hm
    simp only [List.length_cons, List.flatten_cons, List.length_append]
    omega

/-- Branches start with a word. -/
theorem exists_word_of_branches
    (h : List.Forall₂ (fun ts m => TakesBranchIn commas g (R m) ts) tss ms) (hne : tss ≠ [])
    (hls : ls.map Located.token = tss.flatten) : ∃ w p us, ls = ⟨.word w none, p⟩ :: us := by
  cases h with
  | nil => exact absurd rfl hne
  | cons hm _ =>
    obtain ⟨w, us, rfl, _⟩ := hm
    obtain ⟨⟨_, p⟩, us, rfl, rfl, _⟩ := List.map_eq_cons_iff.1 hls
    exact ⟨w, p, us, rfl⟩

/-- The branches behind the first one are read one by one, up to where the choice ends. -/
theorem takes_branches (h : List.Forall₂ (fun ts m => TakesBranchIn commas g (R m) ts) tss ms)
    (hends : endsBranch rest = true) (hstop : Takes commas (keyword "WHEN") rest false rest) :
    ∀ {ls n acc}, ls.map Located.token = tss.flatten → tss.length < n →
      ∃ branches, Takes commas (whileSome.go (givenThat (keyword "WHEN") (branchForm g)) n acc)
          (ls ++ rest) (acc.reverse ++ branches) rest ∧
        List.Forall₂ (fun m b => R m b.1 b.2) ms branches := by
  induction h with
  | nil =>
    intro ls n acc hls hn
    obtain ⟨n, rfl⟩ := Nat.exists_eq_succ_of_ne_zero (Nat.ne_of_gt hn)
    obtain rfl : ls = [] := List.map_eq_nil_iff.1 hls
    refine ⟨[], ?_, .nil⟩
    rw [List.append_nil]
    exact .go_none (hstop.bind .pure)
  | @cons ts m tss ms hm hrest ih =>
    intro ls n acc hls hn
    obtain ⟨n, rfl⟩ := Nat.exists_eq_succ_of_ne_zero (Nat.ne_of_gt (Nat.zero_lt_of_lt hn))
    obtain ⟨l₁, l₂, rfl, h₁, h₂⟩ := List.map_eq_append_iff.1 hls
    obtain ⟨l, us, c, v, rfl, hl, hcv, hp⟩ := hm.takes h₁ (endsBranch_branches hrest h₂ hends)
    obtain ⟨branches, hgo, hbranches⟩ := @ih l₂ n ((c, v) :: acc) h₂ (by simpa using hn)
    refine ⟨(c, v) :: branches, ?_, .cons hp hbranches⟩
    rw [List.append_assoc]
    refine .go_some (.givenThat (.taken hl) hcv) ?_
    simpa using hgo

/-- A choice behind `CASE` is read branch by branch; behind them comes what is left to be read of
it. -/
theorem takes_caseForm_branches
    (h : List.Forall₂ (fun ts m => TakesBranchIn commas g (R m) ts) tss ms) (hne : tss ≠ [])
    (hls : ls.map Located.token = tss.flatten) (hends : endsBranch rest = true)
    (hstop : Takes commas (keyword "WHEN") rest false rest) :
    ∃ branches : List (Expr × Expr), List.Forall₂ (fun m b => R m b.1 b.2) ms branches ∧
      ∀ {d us vs}, Takes commas (givenThat (keyword "ELSE") g.expr) rest d us →
        Takes commas (expectKeyword "END") us () vs →
        Takes commas (caseForm g) (ls ++ rest)
          (.cases none (branches.map (·.1)) (branches.map (·.2)) d) vs := by
  cases h with
  | nil => exact absurd rfl hne
  | @cons ts m tss ms hm hrest =>
    obtain ⟨l₁, l₂, rfl, h₁, h₂⟩ := List.map_eq_append_iff.1 hls
    obtain ⟨l, us, c, v, rfl, hl, hcv, hp⟩ := hm.takes h₁ (endsBranch_branches hrest h₂ hends)
    -- each branch takes a token at least, so that the loop goes on long enough
    have hlen : tss.length < (l₂ ++ rest).length + 1 := by
      have hle := length_le_length_flatten hrest
      rw [← h₂, List.length_map] at hle
      rw [List.length_append]
      omega
    obtain ⟨branches, hgo, hbranches⟩ :=
      @takes_branches _ _ _ _ _ _ _ hrest hends hstop l₂ _ [] h₂ hlen
    refine ⟨(c, v) :: branches, .cons hp hbranches, fun hd hend => ?_⟩
    unfold caseForm
    rw [List.append_assoc]
    -- the first branch is read on its own, the others in a loop
    refine .bind (.taken hl) ?_
    rw [if_pos rfl]
    refine .bind .pure (.bind hcv ?_)
    refine .bind (a := branches) (.bind (fun heard => ⟨heard, rfl⟩) hgo) ?_
    exact .bind hd (.bind hend .pure)

/-- Tokens between the branches of a choice and its end: none, or a default behind `ELSE`; the
default, if there is one, has a property. -/
inductive TakesDefaultIn (commas : Bool) (g : Grammar) (P : Option Expr → Prop) :
    List Token → Prop
  | absent : P none → TakesDefaultIn commas g P []
  | given {w : String} {ts : List Token} :
    Token.isKeyword "ELSE" (.word w none) = true →
    (∀ ls stop rest, ls.map Located.token = ts →
      ∃ d, Takes commas g.expr (ls ++ ⟨.word "END" none, stop⟩ :: rest) d
        (⟨.word "END" none, stop⟩ :: rest) ∧ P (some d)) →
    TakesDefaultIn commas g P (.word w none :: ts)

/-- Where `ELSE` stands, a choice ends, and no other branch follows. -/
theorem endsBranch_else {w : String} {p : Span}
    (h : Token.isKeyword "ELSE" (.word w none) = true) :
    endsBranch (⟨.word w none, p⟩ :: ls) = true ∧
      Token.isKeyword "WHEN" (.word w none) = false := by
  refine ⟨by simp [endsBranch, h], ?_⟩
  simp only [Token.isKeyword, beq_iff_eq] at h ⊢
  rw [h]
  decide

/-- What stands between the branches of a choice and its end. -/
theorem TakesDefaultIn.takes {P : Option Expr → Prop} {ts : List Token}
    (h : TakesDefaultIn commas g P ts) (hls : ls.map Located.token = ts) (stop : Span)
    (rest : List Located) :
    endsBranch (ls ++ ⟨.word "END" none, stop⟩ :: rest) = true ∧
      Takes commas (keyword "WHEN") (ls ++ ⟨.word "END" none, stop⟩ :: rest) false
        (ls ++ ⟨.word "END" none, stop⟩ :: rest) ∧
      ∃ d, Takes commas (givenThat (keyword "ELSE") g.expr) (ls ++ ⟨.word "END" none, stop⟩ :: rest)
        d (⟨.word "END" none, stop⟩ :: rest) ∧ P d := by
  cases h with
  | absent hp =>
    obtain rfl := List.map_eq_nil_iff.1 hls
    exact ⟨rfl, .taken_false rfl, none, fun heard => ⟨heard, rfl⟩, hp⟩
  | given hw hd =>
    obtain ⟨⟨_, p⟩, l, rfl, rfl, hl⟩ := List.map_eq_cons_iff.1 hls
    obtain ⟨d, hd, hp⟩ := hd l stop rest hl
    obtain ⟨hends, hwhen⟩ := endsBranch_else hw
    exact ⟨hends, .taken_false hwhen, some d, .givenThat (.taken hw) hd, hp⟩

/-- A choice with a default or without one. -/
theorem takes_caseForm {P : Option Expr → Prop} {ds : List Token}
    (h : List.Forall₂ (fun ts m => TakesBranchIn commas g (R m) ts) tss ms) (hne : tss ≠ [])
    (hd : TakesDefaultIn commas g P ds) {stop : Span}
    (hls : ls.map Located.token = tss.flatten ++ ds) :
    ∃ (branches : List (Expr × Expr)) (d : Option Expr), Takes commas (caseForm g)
        (ls ++ ⟨.word "END" none, stop⟩ :: rest)
        (.cases none (branches.map (·.1)) (branches.map (·.2)) d) rest ∧
      List.Forall₂ (fun m b => R m b.1 b.2) ms branches ∧ P d := by
  obtain ⟨l₁, l₂, rfl, h₁, h₂⟩ := List.map_eq_append_iff.1 hls
  obtain ⟨hends, hstop, d, hread, hp⟩ := hd.takes h₂ stop rest
  obtain ⟨branches, hbranches, hcase⟩ := takes_caseForm_branches h hne h₁ hends hstop
  refine ⟨branches, d, ?_, hbranches, hp⟩
  rw [List.append_assoc]
  exact hcase hread fun heard => ⟨heard, rfl⟩

end Choice

/-! ### Expressions and columns -/

section Item

variable {g : Grammar} {commas : Bool} {ts rest : List Located} {e : Expr} {n : Nat}

/-- A choice is an operand. -/
theorem takes_operandIn_case {w : String} {p sw : Span} {us : List Located}
    (h : Takes commas (caseForm g) (⟨.word w none, sw⟩ :: us) e rest)
    (hrest : Takes commas (keyword "COLLATE") rest false rest) :
    Takes commas (operandIn g) (⟨.word "CASE" none, p⟩ :: ⟨.word w none, sw⟩ :: us) e rest := by
  unfold operandIn
  refine .bind (fun heard => ⟨heard, rfl⟩) ?_
  unfold operandFrom
  refine .bind (a := none) (r := ⟨.word "CASE" none, p⟩ :: ⟨.word w none, sw⟩ :: us)
    (fun heard => ⟨heard, rfl⟩) ?_
  refine .bind (fun heard => ⟨heard, rfl⟩) ?_
  refine .bind (fun heard => ⟨heard, rfl⟩) ?_
  refine .bind (a := e) (r := rest) ?_ (.bind hrest .pure)
  refine .bind (fun heard => ⟨heard, rfl⟩) ?_
  exact .bind (a := some e) (.tryCatch (.bind h .pure)) .pure

/-- One more operator behind an expression, if one binds tighter than a bound. -/
def operatorStep (g : Grammar) (bound : Nat) (left : Expr) : Parse (Option Expr) := do
  let p := precedence (← Parse.rest)
  tell (.ahead (← peekLocated))
  tell (.strength p)
  if bound ≥ p then pure none else pure (some (← operator g left p))

theorem takes_operatorStep_none (hp : precedence rest ≤ n) :
    Takes commas (operatorStep g n e) rest none rest := by
  unfold operatorStep
  refine .bind (fun heard => ⟨_, rfl⟩) ?_
  refine .bind (a := rest.head?) (r := rest) (fun heard => ⟨heard, rfl⟩) ?_
  refine .bind (fun heard => ⟨_, rfl⟩) (.bind (fun heard => ⟨_, rfl⟩) ?_)
  rw [if_pos hp]
  exact .pure

theorem takes_operatorStep_some {x : Expr} (hp : n < precedence ts)
    (h : Takes commas (operator g e (precedence ts)) ts x rest) :
    Takes commas (operatorStep g n e) ts (some x) rest := by
  unfold operatorStep
  refine .bind (fun heard => ⟨_, rfl⟩) ?_
  refine .bind (a := ts.head?) (r := ts) (fun heard => ⟨heard, rfl⟩) ?_
  refine .bind (fun heard => ⟨_, rfl⟩) (.bind (fun heard => ⟨_, rfl⟩) ?_)
  rw [if_neg (Nat.not_le.2 hp)]
  exact .bind h .pure

/-- An operand behind which no operator binds tighter is an expression. -/
theorem takes_expressionIn (h : Takes commas (operandIn g) ts e rest) (hp : precedence rest ≤ n) :
    Takes commas (expressionIn g n) ts e rest := by
  unfold expressionIn iterate
  refine .bind (fun heard => ⟨_, rfl⟩) (.bind h (.bind (fun heard => ⟨_, rfl⟩) ?_))
  refine .bind (fun heard => ⟨_, rfl⟩) ?_
  exact .bind (takes_operatorStep_none hp) .pure

/-- An operand with one operator behind it, behind which no other binds tighter. -/
theorem takes_expressionIn_operator {x : Expr} {us : List Located}
    (h : Takes commas (operandIn g) ts e us) (hp : n < precedence us)
    (hx : Takes commas (operator g e (precedence us)) us x rest) (hrest : precedence rest ≤ n) :
    Takes commas (expressionIn g n) ts x rest := by
  unfold expressionIn iterate
  refine .bind (fun heard => ⟨_, rfl⟩) (.bind h (.bind (fun heard => ⟨_, rfl⟩) ?_))
  refine .bind (fun heard => ⟨_, rfl⟩) ?_
  refine .bind (takes_operatorStep_some hp hx) ?_
  -- there is a token for the second step, as the first operator is spelled by one
  cases us with
  | nil => cases hp
  | cons u us => exact .bind (takes_operatorStep_none hrest) .pure

/-- Whether tokens may start an entry of a list of columns that is no star. -/
def opensItem : List Located → Bool
  | t :: us => !t.token.isSign "*" && !endsList (t :: us) &&
    !(us.head?.any fun u => u.token.isSign ".")
  | [] => false

/-- Whether an expression may be an entry of a list of columns in front of its label: no star, and
no column that looks like the end of the list. -/
def Expr.isItem : Expr → Bool
  | .star | .starOf _ => false
  | e => e.name?.all fun n => !(n.quote.isNone && Text.lower n.text = "from")

theorem takes_starOrExpr (ho : opensItem ts = true) (h : Takes commas g.expr ts e rest) :
    Takes commas (starOrExpr g) ts e rest := by
  cases ts with
  | nil => cases ho
  | cons t us =>
    simp only [opensItem, Bool.and_eq_true, Bool.not_eq_true'] at ho
    obtain ⟨⟨hstar, _⟩, hpoint⟩ := ho
    unfold starOrExpr
    refine .bind (fun heard => ⟨heard, rfl⟩) (.bind (fun heard => ⟨heard, rfl⟩) ?_)
    simp only [hstar, Bool.false_eq_true, if_false]
    -- a name is tried as the start of a star, and given back
    have hback : Takes commas (goTo (t :: us) >>= fun _ => g.expr) us e rest :=
      .bind (r := t :: us) (fun heard => ⟨heard, rfl⟩) h
    cases nameOf t with
    | none => exact .bind .pure hback
    | some first =>
      refine .bind (a := none) (r := us) ?_ hback
      cases us with
      | nil => exact fun heard => ⟨heard, rfl⟩
      | cons u us =>
        have hsign : u.token.isSign "." = false := by simpa using hpoint
        exact .bind (.taken_false hsign) .pure

/-- An entry of a list of columns, with its label if it has one. -/
theorem takes_selectItem {label : Option Name} {us vs : List Located}
    (ho : opensItem ts = true) (he : e.isItem = true) (h : Takes commas g.expr ts e us)
    (hlabel : Takes commas (optionalAlias reservedForColumn) us label vs) :
    Takes commas (selectItem g) ts (.expr e label) vs := by
  have halias : Takes commas (optionalAlias reservedForColumn >>= fun n => Pure.pure (.expr e n))
      us (SelectItem.expr e label) vs := .bind hlabel .pure
  unfold selectItem
  refine .bind (takes_starOrExpr ho h) ?_
  unfold Expr.isItem at he
  split
  next => cases he
  next => cases he
  next =>
    cases hname : e.name? with
    | none => exact halias
    | some n =>
      simp only [hname, Option.all_some, Bool.not_eq_true'] at he
      simp only [he]
      exact halias

end Item

/-! ### Statements -/

section Statement

variable {commas : Bool} {ts us : List Located} {e : Expr} {items : List SelectItem}

/-- A `SELECT` of some columns of a table. -/
def selectFrom (items : List SelectItem) (table : Name) : Select :=
  ⟨.keepAll, [], none, items, [⟨.listed, .table [table] none, .none, []⟩], [], none, none, false,
    false, [], [], none, [], none, []⟩

/-- A `SELECT` of all columns of the table and one more. -/
def selectBeside (e : Expr) (label table : Name) : Select :=
  ⟨.keepAll, [], none, [.wildcard ⟨[], none, [], [], [], []⟩ [], .expr e (some label)],
    [⟨.listed, .table [table] none, .none, []⟩], [], none, none, false, false, [], [], none, [],
    none, []⟩

/-- A `SELECT` of columns of a table, behind which nothing stands. -/
theorem takes_selectForm {g : Grammar} {ss sf st : Span}
    (hmerging : Takes commas (distinctForm g) ts (.keepAll, []) ts)
    (htop : Takes commas (topForm g) ts none ts)
    (hitems : Takes commas (selectItems g) ts items
      [⟨.word "FROM" none, sf⟩, ⟨.word "TABLE_NAME" none, st⟩]) :
    Takes commas (selectForm g) (⟨.word "SELECT" none, ss⟩ :: ts)
      (selectFrom items ⟨"TABLE_NAME", none, st⟩) [] := by
  unfold selectForm
  refine .bind (fun heard => ⟨heard, rfl⟩) (.bind hmerging (.bind htop (.bind hitems ?_)))
  refine .bind (a := false) (fun heard => ⟨heard, rfl⟩) ?_
  simp only [Bool.false_eq_true, if_false]
  refine .bind (a := [[⟨.listed, .table [⟨"TABLE_NAME", none, st⟩] none, .none, []⟩]]) (r := [])
    (fun heard => ⟨heard, rfl⟩) ?_
  exact fun heard => ⟨heard, rfl⟩

/-- The grammar by which the columns of a statement that is a query are read. -/
def columnGrammar : Grammar := grammarAt (maxDepth - 2)

/-- A `SELECT` is read as a statement from the outside: a query, its body, and the `SELECT` in
it. -/
theorem takes_statement {ss : Span} {q : Select}
    (hselect : Takes commas (selectForm columnGrammar) (⟨.word "SELECT" none, ss⟩ :: ts) q [])
    (n : Nat) :
    Takes commas (statementsFrom (grammarAt maxDepth) (n + 2) false)
      (⟨.word "SELECT" none, ss⟩ :: ts) [.query (.ofBody (.select q))] [] := by
  have hbody : Takes commas (bodyFrom columnGrammar 4 0) (⟨.word "SELECT" none, ss⟩ :: ts)
      (.select q) [] := by
    refine .bind (a := .select q) (r := []) ?_ fun heard => ⟨heard, rfl⟩
    refine .bind (fun heard => ⟨heard, rfl⟩) ?_
    exact .bind hselect .pure
  have hquery : Takes commas (queryIn columnGrammar) (⟨.word "SELECT" none, ss⟩ :: ts)
      (.ofBody (.select q)) [] := by
    unfold queryIn
    refine .bind (a := false) (fun heard => ⟨heard, rfl⟩) ?_
    refine .bind (a := (false, [])) (fun heard => ⟨heard, rfl⟩) ?_
    refine .bind (a := false) (fun heard => ⟨heard, rfl⟩) ?_
    refine .bind (a := false) (fun heard => ⟨heard, rfl⟩) ?_
    exact .bind hbody fun heard => ⟨heard, rfl⟩
  unfold statementsFrom
  refine .bind (a := false) (fun heard => ⟨heard, rfl⟩) ?_
  refine .bind (a := some (.word "SELECT" none)) (fun heard => ⟨heard, rfl⟩) ?_
  refine .bind (a := .query (.ofBody (.select q))) (r := []) ?_
    (.bind (a := []) (r := []) (fun heard => ⟨heard, rfl⟩) .pure)
  refine .bind (a := false) (fun heard => ⟨heard, rfl⟩) ?_
  refine .bind (a := true) (fun heard => ⟨heard, rfl⟩) ?_
  exact .bind hquery .pure

/-- A text is read as what its tokens are taken for, however long the reader may go on. -/
theorem parse?_of_takes {text : String} {l : Located} {statements : List Statement}
    (htokens : tokens? text = some (l :: ts))
    (h : ∀ n, Takes commas (statementsFrom (grammarAt maxDepth) (n + 2) false) (l :: ts)
      statements []) : parse? commas text = some statements := by
  -- the reader may go on for so many steps as there are tokens, of which there are some
  have hfuel : 2 * (l :: ts).length + 1 = 2 * ts.length + 1 + 2 := by
    simp only [List.length_cons]
    omega
  obtain ⟨heard, hrun⟩ := h (2 * ts.length + 1) []
  simp only [parse?, parseWith, htokens]
  rw [hfuel, hrun]
  rfl

/-- A statement that asks for all columns of the table and one more. -/
theorem takes_statement_beside {ss s₁ s₂ sa sl sf st : Span} {label : String}
    (ho : opensItem ts = true) (he : e.isItem = true)
    (h : Takes commas columnGrammar.expr ts e [⟨.word "AS" none, sa⟩,
      ⟨.word label (some '"'), sl⟩, ⟨.word "FROM" none, sf⟩, ⟨.word "TABLE_NAME" none, st⟩])
    (n : Nat) :
    Takes commas (statementsFrom (grammarAt maxDepth) (n + 2) false)
      (⟨.word "SELECT" none, ss⟩ :: ⟨.sign "*", s₁⟩ :: ⟨.sign ",", s₂⟩ :: ts)
      [.query (.ofBody (.select (selectBeside e ⟨label, some '"', sl⟩ ⟨"TABLE_NAME", none, st⟩)))]
      [] := by
  have hlist : endsList ts = false := by
    cases ts with
    | nil => cases ho
    | cons t us =>
      simp only [opensItem, Bool.and_eq_true, Bool.not_eq_true'] at ho
      exact ho.1.2
  have hmore : Takes commas moreEntries (⟨.sign ",", s₂⟩ :: ts) true ts := by
    unfold moreEntries
    refine .bind (.taken rfl) ?_
    rw [if_pos rfl]
    intro heard
    refine ⟨heard, ?_⟩
    change (Except.ok (!(commas && endsList ts)), _) = _
    rw [hlist, Bool.and_false]
    rfl
  have hlabel : Takes commas (optionalAlias reservedForColumn) [⟨.word "AS" none, sa⟩,
      ⟨.word label (some '"'), sl⟩, ⟨.word "FROM" none, sf⟩, ⟨.word "TABLE_NAME" none, st⟩]
      (some ⟨label, some '"', sl⟩) [⟨.word "FROM" none, sf⟩, ⟨.word "TABLE_NAME" none, st⟩] :=
    fun heard => ⟨heard, rfl⟩
  have hitems : Takes commas (selectItems columnGrammar) (⟨.sign "*", s₁⟩ :: ⟨.sign ",", s₂⟩ :: ts)
      [.wildcard ⟨[], none, [], [], [], []⟩ [], .expr e (some ⟨label, some '"', sl⟩)]
      [⟨.word "FROM" none, sf⟩, ⟨.word "TABLE_NAME" none, st⟩] := by
    refine .bind (a := .wildcard ⟨[], none, [], [], [], []⟩ []) (r := ⟨.sign ",", s₂⟩ :: ts)
      (fun heard => ⟨heard, rfl⟩) ?_
    refine .bind (a := [.expr e (some ⟨label, some '"', sl⟩)]) ?_ .pure
    refine .bind (fun heard => ⟨heard, rfl⟩) ?_
    refine .go_some (.givenThat hmore (takes_selectItem ho he h hlabel)) ?_
    exact fun heard => ⟨heard, rfl⟩
  exact takes_statement (takes_selectForm (fun heard => ⟨heard, rfl⟩) (fun heard => ⟨heard, rfl⟩)
    hitems) n

/-- A statement that asks for one column only, which a choice fills. -/
theorem takes_statement_alone {ss sc sf st : Span} (he : e.isItem = true)
    (ho : opensItem (⟨.word "CASE" none, sc⟩ :: us) = true)
    (h : Takes commas columnGrammar.expr (⟨.word "CASE" none, sc⟩ :: us) e
      [⟨.word "FROM" none, sf⟩, ⟨.word "TABLE_NAME" none, st⟩]) (n : Nat) :
    Takes commas (statementsFrom (grammarAt maxDepth) (n + 2) false)
      (⟨.word "SELECT" none, ss⟩ :: ⟨.word "CASE" none, sc⟩ :: us)
      [.query (.ofBody (.select (selectFrom [.expr e none] ⟨"TABLE_NAME", none, st⟩)))] [] := by
  have hlabel : Takes commas (optionalAlias reservedForColumn) [⟨.word "FROM" none, sf⟩,
      ⟨.word "TABLE_NAME" none, st⟩] none _ := fun heard => ⟨heard, rfl⟩
  have hitems : Takes commas (selectItems columnGrammar) (⟨.word "CASE" none, sc⟩ :: us)
      [.expr e none] [⟨.word "FROM" none, sf⟩, ⟨.word "TABLE_NAME" none, st⟩] :=
    .bind (takes_selectItem ho he h hlabel) (.bind (a := []) (fun heard => ⟨heard, rfl⟩) .pure)
  exact takes_statement (takes_selectForm (fun heard => ⟨heard, rfl⟩) (fun heard => ⟨heard, rfl⟩)
    hitems) n

end Statement

end Sql

end FocusBilling
