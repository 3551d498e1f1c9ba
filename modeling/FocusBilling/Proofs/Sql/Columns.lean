import FocusBilling.Sql.Formula

/-!
# Formulas over tables that agree

What a formula comes to is a matter of the columns that it reads and of the number of rows.

* `Grid.Agree` : tables of one height that agree on some columns;
* `Formula.eval_congr` : **a formula comes to the same over tables that agree on what it reads.**
-/

namespace FocusBilling

namespace Sql

namespace Grid

/-- Tables of one height that agree on some columns. -/
structure Agree (names : List String) (g h : Grid) : Prop where
  count : g.count = h.count
  lookup : ∀ n ∈ names, g.columns.lookup n = h.columns.lookup n

variable {g h : Grid} {names others : List String}

theorem Agree.mono (hgh : Agree names g h) (hsub : ∀ n ∈ others, n ∈ names) : Agree others g h :=
  ⟨hgh.count, fun n hn => hgh.lookup n (hsub n hn)⟩

theorem lookup_map (f : Deferred → Deferred) (columns : List (String × Deferred)) (n : String) :
    (columns.map fun c => (c.1, f c.2)).lookup n = (columns.lookup n).map f := by
  induction columns with
  | nil => rfl
  | cons c columns ih =>
    rw [List.map_cons, List.lookup_cons, List.lookup_cons, ih]
    cases n == c.1 <;> rfl

/-- Some rows of tables that agree. -/
theorem Agree.pick (hgh : Agree names g h) (positions : Except FrameError (List Nat)) :
    Agree names (g.pick positions) (h.pick positions) := by
  refine ⟨rfl, fun n hn => ?_⟩
  have hchosen := lookup_map fun d => ⟨d.dtype, do
    let ps ← positions.map fun ps => ps.map some
    pure (picked ps (← d.cells))⟩
  exact (hchosen _ n).trans ((congrArg _ (hgh.lookup n hn)).trans (hchosen _ n).symm)

theorem rowsOf_congr (hcount : g.count = h.count) : g.rowsOf = h.rowsOf := by
  funext keys
  rw [rowsOf, rowsOf, hcount]

end Grid

namespace Formula

theorem sortedCells_congr {g h : Grid} (hcount : g.count = h.count) :
    sortedCells g = sortedCells h := by
  funext descending a keys
  rw [sortedCells, sortedCells, Grid.rowsOf_congr hcount]

mutual

/-- **A formula comes to the same over tables that agree on what it reads.** -/
theorem eval_congr : (F : Formula) → ∀ {g h : Grid} (isGroup : Bool), Grid.Agree F.reads g h →
    F.eval isGroup g = F.eval isGroup h
  | column n, _, _, _, hgh => by
    rw [eval, eval, Grid.column, Grid.column, hgh.lookup n (List.mem_singleton_self n)]
  | constant .., _, _, _, _ | whole _, _, _, _, _ | fraction _, _, _, _, _
  | listed _, _, _, _, _ => by simp only [eval]
  | apply f args, g, h, isGroup, hgh => by
    rw [eval, eval, evalAll_congr args isGroup hgh]
  | total f args, g, h, isGroup, hgh => by
    rw [eval, eval, evalAll_congr args isGroup hgh, hgh.count]
  | rowCount, g, h, isGroup, hgh => by
    rw [eval, eval, hgh.count]
  | windowed a keys, g, h, isGroup, hgh => by
    have ha : Grid.Agree a.reads g h := hgh.mono fun n hn => List.mem_append_left _ hn
    have hkeys : Grid.Agree (readsAll keys) g h := hgh.mono fun n hn => List.mem_append_right _ hn
    have hpart : ∀ rows, a.eval true (g.pick (.ok rows)) = a.eval true (h.pick (.ok rows)) :=
      fun rows => eval_congr a true (ha.pick _)
    rw [eval, eval, eval_congr a isGroup ha, evalAll_congr keys isGroup hkeys]
    simp only [hpart, Grid.rowsOf_congr hgh.count]
  | sorted a keys ds, g, h, isGroup, hgh => by
    have ha : Grid.Agree a.reads g h := hgh.mono fun n hn => List.mem_append_left _ hn
    have hkeys : Grid.Agree (readsAll keys) g h := hgh.mono fun n hn => List.mem_append_right _ hn
    rw [eval, eval, eval_congr a isGroup ha, evalAll_congr keys isGroup hkeys]
    simp only [sortedCells_congr hgh.count]
  | running f a, g, h, isGroup, hgh => by
    rw [eval, eval, eval_congr a isGroup hgh]
  | named a _, g, h, isGroup, hgh => by
    rw [eval, eval, eval_congr a isGroup hgh]

theorem evalAll_congr : (Fs : List Formula) → ∀ {g h : Grid} (isGroup : Bool),
    Grid.Agree (readsAll Fs) g h → evalAll isGroup g Fs = evalAll isGroup h Fs
  | [], _, _, _, _ => by rw [evalAll, evalAll]
  | F :: Fs, g, h, isGroup, hgh => by
    have hF : Grid.Agree F.reads g h := hgh.mono fun n hn => List.mem_append_left _ hn
    have hFs : Grid.Agree (readsAll Fs) g h := hgh.mono fun n hn => List.mem_append_right _ hn
    rw [evalAll, evalAll, eval_congr F isGroup hF, evalAll_congr Fs isGroup hFs]

end

end Formula

end Sql

end FocusBilling
