import FocusBilling.Sql.References
import FocusBilling.Proofs.Temporaries
import FocusBilling.Proofs.Sql.Clauses

/-!
# Columns that clauses report

The columns that clauses read are looked for in a statement of their own, whose reader does not let
a comma stand behind the last entry of a list.

* `SpellsChoice` : a text is one or more branches of a choice for such a reader, perhaps with a
  default behind them;
* `exists_parse_conditionText` : **the text is read back as one choice**;
* `exists_conditionColumns_eq`, `mem_conditionColumns_iff` : it reports what each of its branches
  and its default name;
* `ReadTogether.mem_conditionColumns` : **clauses that are read together as they are read alone
  report together what each reports alone**;
* `TellsColumns`, `mem_conditionColumns_joined` : what one clause without a default reports all
  clauses of a condition report.
-/

namespace FocusBilling

namespace Sql

open Parse

variable {μ : Type} {R : μ → Expr → Expr → Prop} {clauses : List String} {clause n : String}

theorem mem_distinctNames {names : List String} : n ∈ distinctNames names ↔ n ∈ names :=
  Expanded.mem_foldl_addOnce.trans (by simp)

theorem lastNames_pathsAll (es : List Expr) : lastNames (pathsAll es) = es.flatMap Expr.reads := by
  induction es with
  | nil => rfl
  | cons e es ih =>
    rw [pathsAll, lastNames, List.filterMap_append, List.flatMap_cons, ← ih]
    rfl

/-- The text that is read in place of clauses is cut into their tokens and those around them. -/
theorem tokens?_conditionText {text : String} {ts : List Token} (hspell : Spells text.toList ts) :
    ∃ p₁ p₂ p₃ p₄ p₅ ls, ls.map Located.token = ts ∧
      tokens? (conditionText text) =
        some (⟨.word "SELECT" none, p₁⟩ :: ⟨.word "CASE" none, p₂⟩ :: (ls ++
          [⟨.word "END" none, p₃⟩, ⟨.word "FROM" none, p₄⟩, ⟨.word tableName none, p₅⟩])) := by
  have hselect : Spells "SELECT".toList [.word "SELECT" none] := spells_capitals rfl
  have hcase : Spells "CASE".toList [.word "CASE" none] := spells_capitals rfl
  have hend : Spells "END".toList [.word "END" none] := spells_capitals rfl
  have hfrom : Spells "FROM".toList [.word "FROM" none] := spells_capitals rfl
  have hpieces := hselect.append (hcase.append (hspell.append (hend.append hfrom)))
  have htext : (conditionText text).toList =
      ("SELECT".toList ++ ' ' :: ("CASE".toList ++ ' ' :: (text.toList ++ ' ' ::
        ("END".toList ++ ' ' :: "FROM".toList)))) ++ ' ' :: tableName.toList := by
    simp [conditionText]
  obtain ⟨ls, hls, htokens⟩ := tokens?_of_spells htext hpieces tokensFrom_tableName (by decide)
  -- the tokens of each piece, and where they stand
  obtain ⟨l₀, l₁, rfl, h₀, h₁⟩ := List.map_eq_append_iff.1 hls
  obtain ⟨l₂, l₃, rfl, h₂, h₃⟩ := List.map_eq_append_iff.1 h₀
  obtain ⟨l₄, l₅, rfl, h₄, h₅⟩ := List.map_eq_append_iff.1 h₃
  obtain ⟨l₆, l₇, rfl, h₆, h₇⟩ := List.map_eq_append_iff.1 h₅
  obtain ⟨⟨_, p₅⟩, rfl, rfl⟩ := List.map_eq_singleton_iff.1 h₁
  obtain ⟨⟨_, p₁⟩, rfl, rfl⟩ := List.map_eq_singleton_iff.1 h₂
  obtain ⟨⟨_, p₂⟩, rfl, rfl⟩ := List.map_eq_singleton_iff.1 h₄
  obtain ⟨⟨_, p₃⟩, l₈, rfl, rfl, h₈⟩ := List.map_eq_cons_iff.1 h₇
  obtain ⟨⟨_, p₄⟩, rfl, rfl⟩ := List.map_eq_singleton_iff.1 h₈
  exact ⟨p₁, p₂, p₃, p₄, p₅, l₆, h₆, by simpa using htokens⟩

/-- A text is what stands between `CASE` and `END`: one or more branches of a choice, and behind
them a default, if there is one. -/
def SpellsChoice (R : μ → Expr → Expr → Prop) (P : Option Expr → Prop) (text : String)
    (ms : List μ) : Prop :=
  ∃ tss ≠ [], ∃ ds, Spells text.toList (tss.flatten ++ ds) ∧
    List.Forall₂ (fun ts m => TakesBranchIn false (grammarAt (maxDepth - 3)) (R m) ts) tss ms ∧
    TakesDefaultIn false (grammarAt (maxDepth - 3)) P ds

theorem SpellsBranchesIn.choice {P : Option Expr → Prop} {ms : List μ}
    (h : SpellsBranchesIn false R clause ms) (hnone : P none) : SpellsChoice R P clause ms := by
  obtain ⟨tss, hne, hspells, htakes⟩ := h
  exact ⟨tss, hne, [], by rwa [List.append_nil], htakes, .absent hnone⟩

/-- Branches stand in front of a choice as in front of its own. -/
theorem SpellsBranchesIn.append {P : Option Expr → Prop} {ms ns : List μ} {text : String}
    (h : SpellsBranchesIn false R clause ms) (hrest : SpellsChoice R P text ns) :
    SpellsChoice R P (clause ++ " " ++ text) (ms ++ ns) := by
  obtain ⟨tss, hne, hspells, htakes⟩ := h
  obtain ⟨uss, -, ds, hspells', htakes', hd⟩ := hrest
  refine ⟨tss ++ uss, by simp [hne], ds, ?_, List.rel_append htakes htakes', hd⟩
  simpa using hspells.append hspells'

/-- **A choice is read back from the text of its branches.** -/
theorem exists_parse_conditionText {P : Option Expr → Prop} {text : String} {ms : List μ}
    (h : SpellsChoice R P text ms) :
    ∃ (branches : List (Expr × Expr)) (d : Option Expr) (place : Span),
      parse? false (conditionText text) =
        some [.query (.ofBody (.select (selectFrom
          [.expr (.cases none (branches.map (·.1)) (branches.map (·.2)) d) none]
          ⟨tableName, none, place⟩)))] ∧
      List.Forall₂ (fun m b => R m b.1 b.2) ms branches ∧ P d := by
  obtain ⟨tss, hne, ds, hspells, htakes, hdefault⟩ := h
  obtain ⟨p₁, p₂, p₃, p₄, p₅, ls, hls, htokens⟩ := tokens?_conditionText hspells
  obtain ⟨w, p, us, rfl⟩ : ∃ w p us, ls = ⟨.word w none, p⟩ :: us := by
    obtain ⟨l₁, l₂, rfl, h₁, -⟩ := List.map_eq_append_iff.1 hls
    obtain ⟨w, p, us, rfl⟩ := exists_word_of_branches htakes hne h₁
    exact ⟨w, p, us ++ l₂, rfl⟩
  obtain ⟨branches, d, hchoice, hbranches, hd⟩ := @takes_caseForm false _ _
    [⟨.word "FROM" none, p₄⟩, ⟨.word tableName none, p₅⟩] _ _ _ _ _ _ htakes hne hdefault p₃ hls
  have hread := takes_expressionIn (n := 0) (takes_operandIn_case (p := p₂) hchoice
    (.taken_false rfl)) (Nat.le_refl 0)
  exact ⟨branches, d, p₅, parse?_of_takes htokens (takes_statement_alone rfl rfl hread), hbranches,
    hd⟩

/-- A branch names columns in its condition and in its result. -/
def Names (names : List String) (condition result : Expr) : Prop :=
  condition.reads ++ result.reads = names

/-- A default, or its absence, names columns. -/
def NamesPerhaps (names : List String) (default : Option Expr) : Prop :=
  lastNames (pathsOption default) = names

/-- A statement that asks for one choice only reads what its conditions, its results and its default
read. -/
theorem reads_statement_alone {cs vs : List Expr} {d : Option Expr} {table : Name} :
    Statement.reads (.query (.ofBody (.select (selectFrom
        [.expr (.cases none cs vs d) none] table)))) =
      cs.flatMap Expr.reads ++ (vs.flatMap Expr.reads ++ lastNames (pathsOption d)) := by
  have hpaths : Statement.paths (.query (.ofBody (.select (selectFrom
      [.expr (.cases none cs vs d) none] table)))) =
        pathsAll cs ++ (pathsAll vs ++ pathsOption d) := by
    simp [Statement.paths, Query.ofBody, Query.paths, Body.paths, selectFrom, Select.paths,
      pathsItems, Expr.paths, pathsOption, pathsAll, pathsKeys, pathsQueries, pathsJoins,
      Relation.paths]
  rw [Statement.reads, hpaths, ← lastNames_pathsAll, ← lastNames_pathsAll]
  simp only [lastNames, List.filterMap_append]

/-- **A choice reports what its conditions read, then what its results and its default read**, each
once. -/
theorem exists_conditionColumns_eq {names : List String} {text : String} {ms : List μ}
    (h : SpellsChoice R (NamesPerhaps names) text ms) :
    ∃ branches : List (Expr × Expr), List.Forall₂ (fun m b => R m b.1 b.2) ms branches ∧
      conditionColumns text = distinctNames
        (branches.flatMap (·.1.reads) ++ (branches.flatMap (·.2.reads) ++ names)) := by
  obtain ⟨branches, d, place, hparse, hbranches, hd⟩ := exists_parse_conditionText h
  refine ⟨branches, hbranches, ?_⟩
  rw [conditionColumns, referencedColumns, hparse]
  refine congrArg distinctNames ?_
  rw [List.flatMap_singleton, reads_statement_alone, List.flatMap_map, List.flatMap_map, hd]

/-- A choice reports what each of its branches and its default name. -/
theorem mem_conditionColumns_iff {names : List (List String)} {others : List String} {text : String}
    (h : SpellsChoice Names (NamesPerhaps others) text names) :
    n ∈ conditionColumns text ↔ (∃ ns ∈ names, n ∈ ns) ∨ n ∈ others := by
  obtain ⟨branches, hbranches, hreads⟩ := exists_conditionColumns_eq h
  have hmem : n ∈ conditionColumns text ↔
      (∃ b ∈ branches, n ∈ b.1.reads ∨ n ∈ b.2.reads) ∨ n ∈ others := by
    rw [hreads, mem_distinctNames, List.mem_append, List.mem_append, List.mem_flatMap,
      List.mem_flatMap, ← or_assoc]
    simp only [← exists_or, and_or_left]
  rw [hmem]
  clear hmem hreads h
  refine or_congr_left ?_
  induction hbranches with
  | nil => simp
  | cons hm _ ih =>
    rw [List.exists_mem_cons_iff, List.exists_mem_cons_iff, ← hm, List.mem_append]
    exact or_congr_right ih

/-! ### Clauses one behind the other -/

/-- Clauses are read one behind the other as one choice, as each of them is read alone: all are
branches, and behind those of the last there may be a default.  The branches name columns, and so
does the default. -/
inductive ReadTogether : List String → List (List (List String)) → List String → Prop
  | last {clause : String} {names : List (List String)} {others : List String} :
    SpellsChoice Names (NamesPerhaps others) clause names → ReadTogether [clause] [names] others
  | cons {clause : String} {clauses : List String} {names : List (List String)}
      {rest : List (List (List String))} {others : List String} :
    SpellsBranchesIn false Names clause names → ReadTogether clauses rest others →
    ReadTogether (clause :: clauses) (names :: rest) others

namespace ReadTogether

variable {names : List (List (List String))} {others : List String}

theorem choice (h : ReadTogether clauses names others) :
    SpellsChoice Names (NamesPerhaps others) (String.intercalate " " clauses) names.flatten := by
  induction h with
  | last hlast => simpa using hlast
  | @cons clause clauses ms rest others hclause hrest ih =>
    have htext : String.intercalate " " (clause :: clauses) =
        clause ++ " " ++ String.intercalate " " clauses := by
      cases hrest <;> rw [String.intercalate_cons_cons]
    rw [htext, List.flatten_cons]
    exact hclause.append ih

/-- Together the clauses report what each of them reports alone. -/
theorem mem_conditionColumns (h : ReadTogether clauses names others) :
    n ∈ conditionColumns (String.intercalate " " clauses) ↔
      ∃ clause ∈ clauses, n ∈ conditionColumns clause := by
  rw [mem_conditionColumns_iff h.choice]
  induction h with
  | last hlast => simp [mem_conditionColumns_iff hlast]
  | cons hclause _ ih =>
    have halone := mem_conditionColumns_iff (n := n) (hclause.choice (P := NamesPerhaps []) rfl)
    rw [List.exists_mem_cons_iff, ← ih, halone, List.flatten_cons]
    simp only [List.mem_append, or_and_right, exists_or, List.not_mem_nil, or_false, or_assoc]

end ReadTogether

/-- A text is one or more branches of a choice also for a reader that does not let a comma stand
behind the last entry of a list, with the blanks around it as without them. -/
def TellsColumns (clause : String) : Prop :=
  ∃ names, SpellsBranchesIn false Names clause names ∧
    SpellsBranchesIn false Names (Text.trim clause) names

theorem TellsColumns.mem_trim_iff (h : TellsColumns clause) :
    n ∈ conditionColumns (Text.trim clause) ↔ n ∈ conditionColumns clause := by
  obtain ⟨names, hspells, htrimmed⟩ := h
  rw [mem_conditionColumns_iff (htrimmed.choice (P := NamesPerhaps []) rfl),
    mem_conditionColumns_iff (hspells.choice (P := NamesPerhaps []) rfl)]

theorem exists_readTogether (hne : clauses ≠ []) (h : ∀ clause ∈ clauses, TellsColumns clause) :
    ∃ names, ReadTogether clauses names [] := by
  induction clauses with
  | nil => exact absurd rfl hne
  | cons clause clauses ih =>
    obtain ⟨names, hspells, -⟩ := h clause List.mem_cons_self
    by_cases hclauses : clauses = []
    · subst hclauses
      exact ⟨[names], .last (hspells.choice rfl)⟩
    · obtain ⟨rest, hrest⟩ := ih hclauses fun c hc => h c (List.mem_cons_of_mem _ hc)
      exact ⟨names :: rest, .cons hspells hrest⟩

/-- **What one clause of a condition reports all of them report together.** -/
theorem mem_conditionColumns_joined (h : ∀ clause ∈ clauses, TellsColumns clause)
    (hclause : clause ∈ clauses) (hn : n ∈ conditionColumns (Text.trim clause)) :
    n ∈ conditionColumns (String.intercalate " " clauses) := by
  obtain ⟨names, hnames⟩ := exists_readTogether (List.ne_nil_of_mem hclause) h
  exact hnames.mem_conditionColumns.2 ⟨clause, hclause, (h clause hclause).mem_trim_iff.1 hn⟩

/-- A clause that gives a text where a column equals another one names the column. -/
theorem spellsBranches_equation (n v w : String)
    (hclause : clause.toList = ("WHEN " ++ quoteIdentifier n ++ " = " ++ Literal.quotedSql v ++
      " THEN " ++ Literal.quotedSql w).toList) : SpellsBranchesIn false Names clause [[n]] := by
  obtain ⟨ts, hts, htakes⟩ := exists_takesBranchIn_equation (P := Names [n]) false n v w
    fun _ => rfl
  exact ⟨[ts], List.cons_ne_nil _ _, by rwa [List.flatten_singleton, hclause], .cons htakes .nil⟩

theorem tellsColumns_equation (n v w : String)
    (hclause : clause.toList = ("WHEN " ++ quoteIdentifier n ++ " = " ++ Literal.quotedSql v ++
      " THEN " ++ Literal.quotedSql w).toList)
    (htrim : Text.trim clause = clause) : TellsColumns clause := by
  have hspells := spellsBranches_equation n v w hclause
  exact ⟨[[n]], hspells, htrim.symm ▸ hspells⟩

/-- The same with a text behind `ELSE`. -/
theorem spellsChoice_equation (n v w u : String)
    (hclause : clause.toList = ("WHEN " ++ quoteIdentifier n ++ " = " ++ Literal.quotedSql v ++
      " THEN " ++ Literal.quotedSql w ++ " ELSE " ++ Literal.quotedSql u).toList) :
    SpellsChoice Names (NamesPerhaps []) clause [[n]] := by
  obtain ⟨ts, hts, htakes⟩ := exists_takesBranchIn_equation (P := Names [n]) false n v w
    fun _ => rfl
  have helse : Spells "ELSE".toList [.word "ELSE" none] := spells_capitals rfl
  have hspells := hts.append (helse.append (spells_quotedSql u))
  refine ⟨[ts], List.cons_ne_nil _ _, [.word "ELSE" none, .text .plain u], ?_, .cons htakes .nil,
    .given rfl fun ls stop rest hls => ⟨.value (.text .plain u), ?_, rfl⟩⟩
  · rw [hclause, List.flatten_singleton]
    simpa using hspells
  · obtain ⟨⟨_, p⟩, rfl, rfl⟩ := List.map_eq_singleton_iff.1 hls
    exact takes_expressionIn (takes_operandIn_text rfl) (Nat.le_refl 0)

end Sql

end FocusBilling
