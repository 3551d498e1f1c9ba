import FocusBilling.Proofs.Steps
import FocusBilling.Sql.Combining

/-!
# What choices come to

A choice between results is nested: each branch meets what is chosen behind it, in a type that holds
both.  Row by row this is a search for the first branch whose condition is true.

* `Outcome.Gives` : the cells that an outcome has in the rows of a table;
* `Outcome.rowwise_gives` : a function of the cells of each row;
* `Branch`, `choiceTypes`, `choiceCell` : the branches of a choice over a table, the types in which
  they meet, and the cell that a row takes;
* `eval_choiceFormula` : **a choice gives each row the result of the first branch whose condition is
  true there, and the default where there is none.**
-/

namespace FocusBilling

mutual

@[simp] theorem DType.same_self : ∀ t : DType, t.same t = true
  | .null | .bool | .int _ | .float32 | .float64 | .text | .date | .datetime .. => by
    simp [DType.same]
  | .struct fs => by
    rw [DType.same]
    exact DType.sameFields_self fs

@[simp] theorem DType.sameFields_self : ∀ fs : List (String × DType), DType.sameFields fs fs = true
  | [] => rfl
  | (n, t) :: fs => by
    simp [DType.sameFields, DType.same_self t, DType.sameFields_self fs]

end

namespace Scalar

/-- The rows of columns, each of which a function gives. -/
theorem rowsOf_map_range (fs : List (Nat → Cell)) (n : Nat) :
    rowsOf n (fs.map fun f => (List.range n).map f) = (List.range n).map fun i => fs.map (· i) := by
  induction n generalizing fs with
  | zero => rfl
  | succ n ih =>
    rw [rowsOf, List.range_succ_eq_map, List.map_map, List.map_map, List.map_cons, List.map_map]
    have htail := ih (fs.map fun f i => f (i + 1))
    simp only [List.map_map, Function.comp_def] at htail ⊢
    simp only [List.map_cons, List.tail_cons, List.headD_cons, List.map_map, Function.comp_def]
    rw [htail]

end Scalar

namespace Sql

/-! ### Cells in rows -/

/-- The type in which a value is held of whose type so much is known. -/
def Typing.held : Typing → DType
  | .known t => t
  | .whole _ => .i64
  | .fraction _ => .float64

/-- A cell in another type. -/
def inType (held target : DType) (c : Cell) : Cell :=
  if held.same target then c else c.cast held target

namespace Outcome

variable {n : Nat} {f g p : Nat → Cell} {o : Outcome} {t : DType}

@[simp] theorem held_eq (o : Outcome) : o.held = o.typing.held := by
  rfl

/-- The cells of an outcome over a table of so many rows are given by a function; one cell stands
for all rows. -/
def Gives (o : Outcome) (n : Nat) (f : Nat → Cell) : Prop :=
  (o.isScalar = true → ∀ i, f i = f 0) ∧
    o.cells = .ok ((List.range (if o.isScalar then 1 else n)).map f)

theorem Gives.toType (h : o.Gives n f) (t : DType) :
    (o.toType t).Gives n fun i => inType o.typing.held t (f i) := by
  obtain ⟨hf, hcells⟩ := h
  unfold Outcome.toType inType
  rw [held_eq]
  split
  next => exact ⟨hf, hcells⟩
  next =>
    refine ⟨fun hs i => congrArg _ (hf hs i), ?_⟩
    simp [hcells, Except.map]

/-- Cells with whether one stands for all rows, as a function gives them. -/
def Lists (n : Nat) (c : Bool × List Cell) (f : Nat → Cell) : Prop :=
  (c.1 = true → ∀ i, f i = f 0) ∧ c.2 = (List.range (if c.1 then 1 else n)).map f

section Columns

variable {columns : List (Bool × List Cell)} {fs : List (Nat → Cell)}

/-- The number of rows, as one column with a cell for each of them tells it. -/
def rowCount (columns : List (Bool × List Cell)) : Nat :=
  match columns.find? fun c => !c.1 with
  | some c => c.2.length
  | none => 1

theorem rowCount_eq (h : List.Forall₂ (Lists n) columns fs) :
    rowCount columns = if columns.all (·.1) then 1 else n := by
  induction h with
  | nil => rfl
  | @cons c f columns fs hc _ ih =>
    obtain ⟨isScalar, cells⟩ := c
    cases isScalar with
    | false =>
      have hcells : cells = (List.range n).map f := hc.2
      simp [rowCount, hcells]
    | true => simpa only [rowCount, List.find?_cons, List.all_cons, Bool.not_true, Bool.true_and]
        using ih

/-- A cell that stands for all rows is put into each of them. -/
theorem filled_eq (h : List.Forall₂ (Lists n) columns fs) {rows : Nat}
    (hrows : columns.any (!·.1) = true → rows = n) :
    (columns.map fun (isScalar, cells) =>
      if isScalar then List.replicate rows (cells.headD .null) else cells) =
        fs.map fun f => (List.range rows).map f := by
  induction h with
  | nil => rfl
  | @cons c f columns fs hc _ ih =>
    obtain ⟨isScalar, cells⟩ := c
    obtain ⟨hf, hcells⟩ := hc
    rw [List.map_cons, List.map_cons, ih fun hany => hrows (by simp [hany])]
    cases isScalar with
    | false =>
      obtain rfl := hrows (by simp)
      simp_all
    | true =>
      have hconst : (List.range rows).map f = List.replicate rows (f 0) := by
        rw [List.eq_replicate_iff]
        simp [hf rfl]
      simp_all

end Columns

/-- The cells of outcomes side by side. -/
theorem sideBySide_gives {os : List Outcome} {fs : List (Nat → Cell)}
    (h : List.Forall₂ (fun o f => o.Gives n f) os fs) :
    sideBySide os = .ok ((List.range (if os.all (·.isScalar) then 1 else n)).map
      fun i => fs.map (· i)) := by
  obtain ⟨columns, hcolumns, hlists, hscalars⟩ : ∃ columns,
      (os.mapM fun o => do pure (o.isScalar, ← o.cells)) = Except.ok columns ∧
        List.Forall₂ (Lists n) columns fs ∧ columns.map (·.1) = os.map (·.isScalar) := by
    induction h with
    | nil => exact ⟨[], rfl, .nil, rfl⟩
    | @cons o f os fs ho _ ih =>
      obtain ⟨columns, hcolumns, hlists, hscalars⟩ := ih
      refine ⟨(o.isScalar, (List.range (if o.isScalar then 1 else n)).map f) :: columns, ?_,
        .cons ⟨ho.1, rfl⟩ hlists, by simp [hscalars]⟩
      rw [List.mapM_cons, hcolumns, ho.2]
      rfl
  -- a column with a cell for each row tells how many there are
  have hall : columns.all (·.1) = os.all (·.isScalar) := by
    have hboth := congrArg (fun bs => bs.all id) hscalars
    simpa [List.all_map, Function.comp_def] using hboth
  have hrows : sideBySide os = .ok (Scalar.rowsOf (rowCount columns)
      (columns.map fun (isScalar, cells) =>
        if isScalar then List.replicate (rowCount columns) (cells.headD .null) else cells)) := by
    simp only [sideBySide, hcolumns]
    rfl
  rw [hrows, rowCount_eq hlists, hall, filled_eq hlists, Scalar.rowsOf_map_range]
  intro hany
  have hnot : os.all (·.isScalar) = false := by
    rw [← hall]
    simpa using hany
  simp [hnot]

/-- An outcome as a column of a table. -/
theorem spread_gives (h : o.Gives n f) : Grid.spread (.ok n) o =
    ⟨o.dtype, .ok ((List.range n).map fun i => inType o.typing.held o.dtype (f i))⟩ := by
  obtain ⟨hconst, hcells⟩ : o.settled.Gives n fun i => inType o.typing.held o.dtype (f i) :=
    h.toType o.dtype
  have htype : o.settled.dtype = o.dtype := by
    unfold settled Outcome.toType
    split <;> rfl
  simp only [Grid.spread, htype, hcells]
  split
  next hs =>
    have hreplicate : (List.range n).map (fun i => inType o.typing.held o.dtype (f i)) =
        List.replicate n (inType o.typing.held o.dtype (f 0)) := by
      rw [List.eq_replicate_iff]
      simpa using fun i _ => hconst hs i
    rw [hreplicate]
    rfl
  next => rfl

/-- A function of the cells of each row. -/
theorem rowwise_gives {os : List Outcome} {fs : List (Nat → Cell)} {k : List Cell → Cell}
    (h : List.Forall₂ (fun o f => o.Gives n f) os fs) :
    (rowwise t k os).Gives n fun i => k (fs.map (· i)) := by
  refine ⟨fun hs i => ?_, ?_⟩
  · have hconst : fs.map (· i) = fs.map (· 0) := by
      have hs : os.all (·.isScalar) = true := hs
      clear * - h hs
      induction h with
      | nil => rfl
      | cons ho _ ih =>
        simp only [List.all_cons, Bool.and_eq_true] at hs
        rw [List.map_cons, List.map_cons, ho.1 hs.1 i, ih hs.2]
    exact congrArg k hconst
  · have hcells : (rowwise t k os).cells = (do (← sideBySide os).mapM fun cs => .ok (k cs)) := rfl
    have hpure : ∀ rows : List (List Cell),
        (rows.mapM fun cs => (.ok (k cs) : Except FrameError Cell)) = .ok (rows.map k) := by
      intro rows
      exact List.mapM_pure
    rw [hcells, sideBySide_gives h]
    change (List.mapM _ _ : Except FrameError _) = _
    rw [hpure, List.map_map]
    rfl

end Outcome

/-! ### Choices -/

/-- One of two outcomes, as a condition says in each row. -/
theorem chosen_gives {yes no condition : Outcome} {n : Nat} {f g p : Nat → Cell} {t : DType}
    (hyes : yes.Gives n f) (hno : no.Gives n g) (hcondition : condition.Gives n p)
    (hbool : condition.dtype.same .bool = true) (ht : yes.typing.common no.typing = some t) :
    ∃ o, chosen yes no condition = .ok o ∧ o.typing = .known t ∧ o.Gives n fun i =>
      if (p i).isTrue then inType yes.typing.held t (f i)
      else inType no.typing.held t (g i) := by
  have hpaired : Outcome.paired yes no = .ok (yes.toType t, no.toType t, t) := by
    rw [Outcome.paired, ht]
  refine ⟨_, by rw [chosen, hpaired]; exact if_pos hbool, rfl, ?_⟩
  exact Outcome.rowwise_gives (.cons (hyes.toType t) (.cons (hno.toType t) (.cons hcondition .nil)))

/-- The choice between branches, given as their conditions and their results, and a default. -/
def choiceFormula (ms : List (Formula × Formula)) (default : Formula) : Formula :=
  casesOf none (ms.map (·.1)) (ms.map (·.2)) default

/-- One branch of a choice over a table: its condition and its result in each row, and what is
known of the type of the latter. -/
structure Branch where
  /-- The condition. -/
  condition : Nat → Cell
  /-- What is known of the type of the result. -/
  typing : Typing
  /-- The result. -/
  result : Nat → Cell

namespace Branch

/-- Formulas of a condition and a result come to a branch over a table: the condition is a truth
value, and both have a cell for each row. -/
structure Of (g : Grid) (n : Nat) (m : Formula × Formula) (b : Branch) : Prop where
  /-- The condition. -/
  condition : ∃ o, m.1.eval false g = .ok o ∧ o.dtype.same .bool = true ∧ o.Gives n b.condition
  /-- The result. -/
  result : ∃ o, m.2.eval false g = .ok o ∧ o.typing = b.typing ∧ o.Gives n b.result

end Branch

/-- What is known of the type of a choice that starts with given types. -/
def choiceTyping : List DType → Typing → Typing
  | t :: _, _ => .known t
  | [], d => d

/-- The types in which the branches of a choice meet, each with what is chosen behind it. -/
def choiceTypes : List Branch → Typing → Option (List DType)
  | [], _ => some []
  | b :: bs, d => do
    let types ← choiceTypes bs d
    let t ← b.typing.common (choiceTyping types d)
    pure (t :: types)

/-- A cell brought to one type after another. -/
def brought (held : DType) : List DType → Cell → Cell
  | [], c => c
  | t :: ts, c => brought t ts (inType held t c)

/-- The cell that a row takes from a choice: the result of the first branch whose condition is true
there, else the default; a result is brought to the types in which its branch and those in front of
it meet. -/
def choiceCell (bs : List Branch) (types : List DType) (d : Typing) (default : Cell) (i : Nat) :
    Cell :=
  match bs.findIdx? fun b => (b.condition i).isTrue with
  | some k =>
    match bs[k]? with
    | some b => brought b.typing.held (types.take (k + 1)).reverse (b.result i)
    | none => default
  | none => brought d.held types.reverse default

/-- The column that a choice fills. -/
def choiceColumn (n : Nat) (bs : List Branch) (types : List DType) (d : Typing) (default : Cell) :
    Deferred :=
  let t := choiceTyping types d
  ⟨t.dtype, .ok ((List.range n).map fun i =>
    inType t.held t.dtype (choiceCell bs types d default i))⟩

section Choice

variable {g : Grid} {n : Nat} {bs : List Branch} {types : List DType} {d : Typing} {c : Cell}

theorem brought_append (held t : DType) (ts : List DType) (c : Cell) :
    brought held (ts ++ [t]) c = inType (ts.getLast?.getD held) t (brought held ts c) := by
  induction ts generalizing held c with
  | nil => rfl
  | cons u ts ih =>
    rw [List.cons_append, brought, brought, ih, List.getLast?_cons]
    rfl

theorem length_choiceTypes (h : choiceTypes bs d = some types) : types.length = bs.length := by
  induction bs generalizing types with
  | nil => cases h; rfl
  | cons b bs ih =>
    simp only [choiceTypes, Option.bind_eq_bind, Option.bind_eq_some_iff] at h
    obtain ⟨ts, hts, t, _, h⟩ := h
    cases h
    simp [ih hts]

/-- The cell of a row in a choice with one branch more. -/
theorem choiceCell_cons {b : Branch} {t : DType} (h : choiceTypes bs d = some types) (i : Nat) :
    choiceCell (b :: bs) (t :: types) d c i =
      if (b.condition i).isTrue then inType b.typing.held t (b.result i)
      else inType (choiceTyping types d).held t (choiceCell bs types d c i) := by
  unfold choiceCell
  rw [List.findIdx?_cons]
  by_cases hb : (b.condition i).isTrue = true
  · simp [hb, brought]
  · simp only [hb, Bool.false_eq_true, if_false]
    cases hk : bs.findIdx? fun b => (b.condition i).isTrue with
    | none =>
      -- the default goes through one type more
      simp only [Option.map_none, List.reverse_cons, brought_append]
      cases types <;> simp [choiceTyping, Typing.held]
    | some k =>
      -- so does the result of a branch behind the first one
      have hlt : k < bs.length := List.findIdx?_eq_some_iff_findIdx_eq.1 hk |>.1
      have hlen := length_choiceTypes h
      have hbranch : bs[k]? = some bs[k] := List.getElem?_eq_getElem hlt
      simp only [Option.map_some, List.getElem?_cons_succ, hbranch]
      rw [List.take_succ_cons, List.reverse_cons, brought_append]
      cases types with
      | nil =>
        rw [List.length_nil] at hlen
        omega
      | cons u us =>
        rw [List.take_succ_cons, List.reverse_cons, List.getLast?_append]
        rfl

/-- A choice gives each row the result of the first branch whose condition is true there, and the
default where there is none. -/
theorem eval_choiceFormula {ms : List (Formula × Formula)} {D : Formula} {o : Outcome}
    (hms : List.Forall₂ (Branch.Of g n) ms bs) (hD : D.eval false g = .ok o)
    (ho : o.Gives n fun _ => c) (ht : choiceTypes bs o.typing = some types) :
    ∃ u, (choiceFormula ms D).eval false g = .ok u ∧
      u.typing = choiceTyping types o.typing ∧ u.Gives n (choiceCell bs types o.typing c) := by
  induction hms generalizing types with
  | nil =>
    cases ht
    exact ⟨o, hD, rfl, ho⟩
  | @cons m b ms bs hm _ ih =>
    simp only [choiceTypes, Option.bind_eq_bind, Option.bind_eq_some_iff] at ht
    obtain ⟨ts, hts, t, ht, heq⟩ := ht
    cases heq
    obtain ⟨u, hu, htyping, hgives⟩ := ih hts
    obtain ⟨condition, hc, hbool, hcells⟩ := hm.condition
    obtain ⟨result, hr, hresult, hresults⟩ := hm.result
    -- the first branch meets what is chosen behind it
    rw [← hresult, ← htyping] at ht
    obtain ⟨v, hv, hvt, hvg⟩ := chosen_gives hresults hgives hcells hbool ht
    refine ⟨v, ?_, hvt, ?_⟩
    · simp only [choiceFormula] at hu
      simp only [choiceFormula, List.map_cons, casesOf, Formula.choose, Formula.eval,
        Formula.evalAll, hc, hr, hu]
      exact hv
    · have hcell : choiceCell (b :: bs) (t :: ts) o.typing c = fun i =>
          if (b.condition i).isTrue then inType result.typing.held t (b.result i)
          else inType u.typing.held t (choiceCell bs ts o.typing c i) := by
        funext i
        rw [choiceCell_cons hts, hresult, htyping]
      rw [hcell]
      exact hvg

/-- A choice fills a column. -/
theorem exists_choiceColumn {ms : List (Formula × Formula)} {D : Formula} {o : Outcome}
    (hms : List.Forall₂ (Branch.Of g n) ms bs) (hD : D.eval false g = .ok o)
    (ho : o.Gives n fun _ => c) (ht : choiceTypes bs o.typing = some types) :
    ∃ u, (choiceFormula ms D).eval false g = .ok u ∧
      Grid.spread (.ok n) u = choiceColumn n bs types o.typing c := by
  obtain ⟨u, hu, htyping, hgives⟩ := eval_choiceFormula hms hD ho ht
  refine ⟨u, hu, ?_⟩
  rw [Outcome.spread_gives hgives, choiceColumn, ← htyping]
  rfl

/-- A choice reads what its conditions, its results and its default read. -/
theorem mem_reads_choiceFormula {ms : List (Formula × Formula)} {D : Formula} {name : String} :
    name ∈ (choiceFormula ms D).reads ↔
      (∃ m ∈ ms, name ∈ m.1.reads ++ m.2.reads) ∨ name ∈ D.reads := by
  induction ms with
  | nil => simp [choiceFormula, casesOf]
  | cons m ms ih =>
    simp only [choiceFormula] at ih
    simp only [choiceFormula, List.map_cons, casesOf, Formula.choose, Formula.reads,
      Formula.readsAll, List.mem_append, ih, List.mem_cons, List.not_mem_nil, or_false,
      exists_eq_or_imp]
    grind

end Choice

end Sql

end FocusBilling
