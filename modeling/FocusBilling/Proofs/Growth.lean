import FocusBilling.Proofs.Sql.Lists
import FocusBilling.Proofs.Unmentioned

/-!
# What steps add to a table

Steps take no column away, and leave none behind whose cells fail for want of a column.

* `Table.Holds` : a table none of whose cells fails for want of a column;
* `Table.Grows` : a table that steps have left of another;
* `SqlStep.FillsOwn` : a condition that fills its own column only;
* `Working.grows_foldlM_assign`, `SqlStep.grows_foldlM_run` : **steps only add columns.**
-/

namespace FocusBilling

open Sql (NeverLacks neverLacks_ok neverLacks_mapM)

/-! ### Cells that lack no column -/

namespace Operation

variable {op : Operation} {types : List DType} {cs : List Cell}

theorem neverLacks_obstacle : NeverLacks (op.obstacle types) := by
  unfold obstacle
  repeat' split
  all_goals simp

theorem neverLacks_run : NeverLacks (op.run types cs) := by
  unfold run
  split
  case h_1 => exact Sql.neverLacks_castTo
  case h_6 => exact Sql.neverLacks_label.bind fun _ => neverLacks_ok _
  case h_8 => exact Sql.neverLacks_map.2 Sql.neverLacks_read
  all_goals exact neverLacks_ok _

end Operation

namespace Table

variable {t u : Table} {n : String} {d : Deferred} {columns filled : List (String × Deferred)}

/-- A table none of whose cells fails for want of a column. -/
def Holds (t : Table) : Prop := ∀ c ∈ t.columns, NeverLacks c.2.cells

theorem holds_toTable (f : Frame) : f.toTable.Holds := by
  intro c hc
  obtain ⟨d, _, rfl⟩ := List.mem_map.1 hc
  exact neverLacks_ok _

theorem Holds.get (h : t.Holds) (hd : t.get n = .ok d) : NeverLacks d.cells :=
  h _ (mem_columns_of_get hd)

theorem mem_of_mem_putIn {c : String × Deferred} (h : c ∈ putIn n d columns) :
    c ∈ columns ∨ c = (n, d) := by
  induction columns with
  | nil => exact .inr (List.mem_singleton.1 h)
  | cons e columns ih =>
    rw [putIn] at h
    split at h
    next heq =>
      rcases List.mem_cons.1 h with rfl | h
      · exact .inr (heq ▸ rfl)
      · exact .inl (List.mem_cons_of_mem _ h)
    next =>
      rcases List.mem_cons.1 h with rfl | h
      · exact .inl List.mem_cons_self
      · exact (ih h).imp_left (List.mem_cons_of_mem _)

theorem mem_of_mem_putEach {c : String × Deferred} (h : c ∈ putEach columns filled) :
    c ∈ columns ∨ c ∈ filled := by
  induction filled generalizing columns with
  | nil => exact .inl h
  | cons d filled ih =>
    rcases ih h with hc | hc
    · rcases mem_of_mem_putIn hc with hold | rfl
      · exact .inl hold
      · exact .inr List.mem_cons_self
    · exact .inr (List.mem_cons_of_mem _ hc)

/-! ### Tables that grow -/

/-- A table that steps have left of another: it has all columns of the other, and if these have
names of their own and cells that lack no column, so have its columns. -/
structure Grows (t u : Table) : Prop where
  names : ∀ n ∈ t.names, n ∈ u.names
  distinct : t.names.Nodup → u.names.Nodup
  holds : t.Holds → u.Holds

namespace Grows

theorem refl (t : Table) : Grows t t := ⟨fun _ => id, id, id⟩

theorem trans {v : Table} (h : Grows t u) (k : Grows u v) : Grows t v :=
  ⟨fun n hn => k.names n (h.names n hn), k.distinct ∘ h.distinct, k.holds ∘ h.holds⟩

/-- Columns that are put over a table, or behind its columns. -/
theorem of_putEach (hcolumns : u.columns = putEach t.columns filled)
    (hfilled : t.Holds → ∀ c ∈ filled, NeverLacks c.2.cells) : Grows t u := by
  have hnames : u.names = (filled.map (·.1)).foldl CompiledPlan.addOnce t.names := by
    rw [Table.names, hcolumns, names_putEach]
    rfl
  refine ⟨fun n hn => ?_, fun ht => hnames ▸ nodup_foldl_addOnce ht, fun ht c hc => ?_⟩
  · exact hnames ▸ Expanded.mem_foldl_addOnce.2 (.inl hn)
  · rw [hcolumns] at hc
    exact (mem_of_mem_putEach hc).elim (ht c) (hfilled ht c)

end Grows

/-- Columns put over a table one after another, whether it has any yet or not. -/
theorem columns_of_putAll (h : t.putAll filled = .ok u) :
    u.columns = putEach t.columns filled := by
  have hfold : ∀ t : Table, (filled.foldl (fun t c => t.put c.1 c.2) t).columns =
      putEach t.columns filled := by
    clear h
    induction filled with
    | nil => exact fun _ => rfl
    | cons c filled ih => exact fun t => ih (t.put c.1 c.2)
  unfold putAll at h
  split at h <;> cases h
  exact hfold t

end Table

namespace Scalar

variable {t : Table} {rows : Nat}

theorem neverLacks_inferCells {p : InferredDatetime} {d : Deferred} (hd : NeverLacks d.cells) :
    NeverLacks (inferCells p d) := by
  unfold inferCells
  split
  · exact hd.bind fun _ => Sql.neverLacks_readAll.bind fun _ => neverLacks_ok _
  · simp

mutual

/-- The cells of an expression over columns that lack none lack none either. -/
theorem neverLacks_eval (ht : t.Holds) : (e : Scalar) → ∀ {d}, e.eval t rows = .ok d →
    NeverLacks d.cells
  | .column n, d, h => by
    rw [eval] at h
    exact ht.get h
  | .constant value dtype, d, h => by
    rw [eval] at h
    cases h
    exact neverLacks_ok _
  | .apply op args, d, h => by
    rw [eval] at h
    obtain ⟨ds, hds, h⟩ := bind_eq_ok.1 h
    obtain ⟨dtype, _, ⟨⟩⟩ := bind_eq_ok.1 h
    refine Operation.neverLacks_obstacle.bind fun _ => ?_
    refine (neverLacks_mapM (neverLacks_evalAll ht args hds)).bind fun _ => ?_
    exact neverLacks_mapM fun _ _ => Operation.neverLacks_run
  | .inferred p arg, d, h => by
    rw [eval] at h
    obtain ⟨e, he, ⟨⟩⟩ := bind_eq_ok.1 h
    exact neverLacks_inferCells (neverLacks_eval ht arg he)

theorem neverLacks_evalAll (ht : t.Holds) : (es : List Scalar) → ∀ {ds},
    evalAll t rows es = .ok ds → ∀ d ∈ ds, NeverLacks d.cells
  | [], ds, h => by
    rw [evalAll] at h
    cases h
    exact nofun
  | e :: es, ds, h => by
    rw [evalAll] at h
    obtain ⟨d, hd, h⟩ := bind_eq_ok.1 h
    obtain ⟨ds, hds, ⟨⟩⟩ := bind_eq_ok.1 h
    exact List.forall_mem_cons.2 ⟨neverLacks_eval ht e hd, neverLacks_evalAll ht es hds⟩

end

end Scalar

/-! ### Steps that fill columns -/

namespace Assignment

variable {t u : Table} {a : Assignment} {named : List (String × Scalar)}

/-- A step puts what it names over a table, whether it has any columns yet or not. -/
theorem grows_run (hnamed : a.columns t = .ok named) (h : a.run t = .ok u) :
    Table.Grows t u ∧ ∀ n ∈ named.map (·.1), n ∈ u.names := by
  simp only [run, hnamed, bind_eq_ok] at h
  obtain ⟨_, ⟨⟩, filled, hfilled, h⟩ := h
  have hcolumns := Table.columns_of_putAll h
  refine ⟨.of_putEach hcolumns fun ht c hc => ?_, fun n hn => ?_⟩
  · obtain ⟨v, _, hv⟩ := exists_of_mem_of_mapM hfilled hc
    obtain ⟨d, hd, ⟨⟩⟩ := bind_eq_ok.1 hv
    exact Scalar.neverLacks_eval ht v.2 hd
  · rw [Table.names, hcolumns, Table.names_putEach, Expanded.mem_foldl_addOnce]
    obtain ⟨v, hv, rfl⟩ := List.mem_map.1 hn
    obtain ⟨c, hc, hv⟩ := exists_of_mem_mapM hfilled hv
    obtain ⟨d, _, ⟨⟩⟩ := bind_eq_ok.1 hv
    exact .inr (List.mem_map_of_mem hc)

end Assignment

namespace Working

variable {steps : List Assignment} {w w' : Working}

/-- **Steps that fill columns only add some.** -/
theorem grows_foldlM_assign (h : steps.foldlM assign w = .ok w') :
    Table.Grows w.table w'.table ∧ ∀ a ∈ steps, ∃ t named, a.columns t = .ok named ∧
      ∀ n ∈ named.map (·.1), n ∈ w'.table.names := by
  induction steps generalizing w with
  | nil =>
    cases h
    exact ⟨.refl _, nofun⟩
  | cons step steps ih =>
    obtain ⟨w₁, h₁, h⟩ := foldlM_cons_eq_ok.1 h
    obtain ⟨named, hnamed, hrun, _⟩ := assign_eq_ok.1 h₁
    obtain ⟨hfirst, hwritten⟩ := Assignment.grows_run hnamed hrun
    obtain ⟨hrest, hothers⟩ := ih h
    refine ⟨hfirst.trans hrest, List.forall_mem_cons.2 ⟨?_, hothers⟩⟩
    -- what the first step has filled is still there behind the others
    exact ⟨w.table, named, hnamed, fun n hn => hrest.names n (hwritten n hn)⟩

end Working

/-! ### Conditions -/

namespace SqlStep

variable {t : Table} {c : Sql.Catalog} {steps : List SqlStep}

/-- A condition whose statement on a table, if it can be read, asks for all columns of the table and
for the column of the condition, and for nothing else. -/
def FillsOwn (t : Table) : SqlStep → Prop
  | condition o clauses text => ∀ statements,
      Sql.parse? true ((condition o clauses text).render (some t.names)) = some statements →
        ∃ e label place, label.text = Sql.conditionLabel t.names o ∧
          statements = [.query (.ofBody (.select
            (Sql.selectBeside e label ⟨Sql.tableName, none, place⟩)))]
  | query _ => True

theorem IsConfinedTo.fillsOwn {s : SqlStep} {others : List String} (h : s.IsConfinedTo others)
    (t : Table) : s.FillsOwn t := by
  match s, h with
  | query _, _ => trivial
  | condition o clauses text, h =>
    intro statements hparse
    obtain ⟨e, label, place, hlabel, hstatements, _⟩ := h t.names statements hparse
    exact ⟨e, label, place, hlabel, hstatements⟩

theorem grows_run {o text : String} {clauses : List String} {r : Table × Sql.Catalog}
    (hs : (condition o clauses text).FillsOwn t) (ht : t.columns ≠ []) (hdistinct : t.names.Nodup)
    (h : (condition o clauses text).run t c = .ok r) : Table.Grows t r.1 ∧ o ∈ r.1.names := by
  cases hparse : Sql.parse? true ((condition o clauses text).render (some t.names)) with
  | none =>
    obtain ⟨e, he⟩ := run_of_unreadable (c := c) hparse
    cases he.symm.trans h
  | some statements =>
    obtain ⟨e, label, place, hlabel, rfl⟩ := hs statements hparse
    obtain ⟨_, _, F, found, hF, _, hfound, hr, _⟩ :=
      (run_condition_eq_ok ht hdistinct hlabel hparse).1 h
    have hcolumns : r.1.columns =
        Table.putEach t.columns [(o, Sql.Grid.spread (.ok t.height) found)] := by
      rw [hr]
      rfl
    -- queries inside the statement are not supported, so its lists of values are written out
    have hatHand := Sql.Scope.gives_formula (fun _ => Sql.gives_unsupported) e F hF
    refine ⟨.of_putEach hcolumns fun hholds d hd => ?_, ?_⟩
    · obtain rfl := List.mem_singleton.1 hd
      exact Sql.Grid.neverLacks_spread (neverLacks_ok _)
        (Sql.Formula.neverLacks_cells (g := .ofTable t) ⟨neverLacks_ok _, hholds⟩ hatHand hfound)
    · rw [Table.names, hcolumns, Table.names_putEach, Expanded.mem_foldl_addOnce]
      simp

/-- **Conditions that fill their own columns only add some.** -/
theorem grows_foldlM_run {r r' : Table × Sql.Catalog} (ht : r.1.columns ≠ [])
    (hdistinct : r.1.names.Nodup)
    (hconditions : ∀ s ∈ steps, ∃ o clauses text, s = condition o clauses text)
    (hfills : ∀ s t c, Reaches steps r.1 r.2 s t c → s.FillsOwn t)
    (h : steps.foldlM (fun r s => s.run r.1 r.2) r = .ok r') :
    Table.Grows r.1 r'.1 ∧
      ∀ o clauses text, condition o clauses text ∈ steps → o ∈ r'.1.names := by
  induction steps generalizing r with
  | nil =>
    cases h
    exact ⟨.refl _, nofun⟩
  | cons s steps ih =>
    obtain ⟨r₁, h₁, hlast⟩ := foldlM_cons_eq_ok.1 h
    obtain ⟨o, clauses, text, rfl⟩ := hconditions s List.mem_cons_self
    obtain ⟨hfirst, ho⟩ := grows_run (hfills _ _ _ .here) ht hdistinct h₁
    -- the first condition leaves its column, so the next one finds some
    have hne : r₁.1.columns ≠ [] := fun hempty => by simp [Table.names, hempty] at ho
    obtain ⟨hrest, hothers⟩ := ih hne (hfirst.distinct hdistinct)
      (fun s hs => hconditions s (List.mem_cons_of_mem _ hs))
      (fun s t c hs => hfills s t c (.later h₁ hs)) hlast
    refine ⟨hfirst.trans hrest, fun o' clauses' text' hmem => ?_⟩
    rcases List.mem_cons.1 hmem with heq | hmem
    · cases heq
      exact hrest.names o ho
    · exact hothers o' clauses' text' hmem

end SqlStep

end FocusBilling
