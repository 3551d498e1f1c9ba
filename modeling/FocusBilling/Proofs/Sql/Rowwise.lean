import FocusBilling.Proofs.Parts
import FocusBilling.Proofs.Sql.Choices

/-!
# Functions of rows, over two parts and over the whole

* `Outcome.Joined` : an outcome over the rows of two tables that is made of those over each of them;
* `Outcome.joined_rowwise?` : functions of the cells of each row;
* `Function.IsLocal` : functions that look at no other row: where many floating-point numbers are
  divided by one, where the greatest or the least of such numbers is sought, and where the layout of
  dates is inferred, the rest of the column counts;
* `Function.joined_eval` : **a local function makes of the whole what it makes of the parts.**
-/

namespace FocusBilling

namespace Sql

variable {h₁ h₂ : Nat}

namespace Outcome

/-- Outcomes over two parts and over the whole. -/
inductive Joined (h₁ h₂ : Nat) : Outcome → Outcome → Outcome → Prop
  /-- One cell for all rows, if any. -/
  | same (o : Outcome) : (∀ cs, o.cells = .ok cs → o.isScalar ∧ cs.length = 1) → Joined h₁ h₂ o o o
  | rows {t x₁ x₂ x} : Both (Appended h₁ h₂) x₁ x₂ x →
      Joined h₁ h₂ ⟨t, false, x₁⟩ ⟨t, false, x₂⟩ ⟨t, false, x⟩

variable {o₁ o₂ o : Outcome} {os₁ os₂ os : List Outcome}

theorem joined_scalar (t : DType) (c : Cell) :
    Joined h₁ h₂ (.scalar t c) (.scalar t c) (.scalar t c) :=
  .same _ fun cs hcs => by
    cases hcs
    exact ⟨rfl, rfl⟩

theorem joined_whole (n : Int) : Joined h₁ h₂ (.whole n) (.whole n) (.whole n) :=
  .same _ fun cs hcs => by
    cases hcs
    exact ⟨rfl, rfl⟩

theorem joined_fraction (x : Binary) : Joined h₁ h₂ (.fraction x) (.fraction x) (.fraction x) :=
  .same _ fun cs hcs => by
    cases hcs
    exact ⟨rfl, rfl⟩

theorem joined_failing (t : DType) (e : FrameError) :
    Joined h₁ h₂ (.failing t e) (.failing t e) (.failing t e) :=
  .same _ fun _ hcs => nomatch hcs

theorem joined_ofColumn {d₁ d₂ d : Deferred} (h : Deferred.Joined h₁ h₂ d₁ d₂ d) :
    Joined h₁ h₂ (.ofColumn d₁) (.ofColumn d₂) (.ofColumn d) := by
  obtain ⟨hx⟩ := h
  exact .rows hx

namespace Joined

theorem typing_eq (h : Joined h₁ h₂ o₁ o₂ o) : o₁.typing = o.typing ∧ o₂.typing = o.typing := by
  cases h <;> exact ⟨rfl, rfl⟩

theorem isScalar_eq (h : Joined h₁ h₂ o₁ o₂ o) :
    o₁.isScalar = o.isScalar ∧ o₂.isScalar = o.isScalar := by
  cases h <;> exact ⟨rfl, rfl⟩

theorem dtype_eq (h : Joined h₁ h₂ o₁ o₂ o) : o₁.dtype = o.dtype ∧ o₂.dtype = o.dtype := by
  cases h <;> exact ⟨rfl, rfl⟩

theorem isText_eq (h : Joined h₁ h₂ o₁ o₂ o) : o₁.isText = o.isText ∧ o₂.isText = o.isText := by
  cases h <;> exact ⟨rfl, rfl⟩

theorem eq_of_isScalar (h : Joined h₁ h₂ o₁ o₂ o) (hs : o.isScalar = true) : o₁ = o ∧ o₂ = o := by
  cases h with
  | same => exact ⟨rfl, rfl⟩
  | rows => cases hs

/-- A step on the cells that keeps their number, and of both parts makes what it makes of each. -/
theorem mapCellsM (h : Joined h₁ h₂ o₁ o₂ o) (t : DType)
    {f : List Cell → Except FrameError (List Cell)}
    (hlen : ∀ c d, f c = .ok d → d.length = c.length)
    (hf : o.isScalar = false → ∀ c₁ c₂ c, Appended h₁ h₂ c₁ c₂ c →
      Both (Appended h₁ h₂) (f c₁) (f c₂) (f c)) :
    Joined h₁ h₂ ⟨.known t, o₁.isScalar, o₁.cells >>= f⟩ ⟨.known t, o₂.isScalar, o₂.cells >>= f⟩
      ⟨.known t, o.isScalar, o.cells >>= f⟩ := by
  cases h with
  | same _ hone =>
    refine .same _ fun cs hcs => ?_
    obtain ⟨c, hc, hd⟩ := bind_eq_ok.1 hcs
    obtain ⟨hscalar, hlength⟩ := hone c hc
    exact ⟨hscalar, (hlen c cs hd).trans hlength⟩
  | rows hx => exact .rows (hx.bind (hf rfl))

theorem mapCells (h : Joined h₁ h₂ o₁ o₂ o) (t : DType) (f : Cell → Cell) :
    Joined h₁ h₂ (o₁.mapCells t f) (o₂.mapCells t f) (o.mapCells t f) := by
  have hbind : ∀ o : Outcome, o.mapCells t f =
      ⟨.known t, o.isScalar, o.cells >>= fun cs => .ok (cs.map f)⟩ := fun o => by
    rw [Outcome.mapCells]
    cases o.cells <;> rfl
  rw [hbind, hbind, hbind]
  refine h.mapCellsM t (fun c d hd => ?_) fun _ _ _ _ hc => .ok (hc.map f)
  cases hd
  exact List.length_map _

theorem toType (h : Joined h₁ h₂ o₁ o₂ o) (t : DType) :
    Joined h₁ h₂ (o₁.toType t) (o₂.toType t) (o.toType t) := by
  have hheld : o₁.held = o.held ∧ o₂.held = o.held := by
    cases h <;> exact ⟨rfl, rfl⟩
  simp only [Outcome.toType, hheld]
  split
  · cases h with
    | same _ hone => exact .same _ hone
    | rows hx => exact .rows hx
  · exact h.mapCells t _

theorem settled (h : Joined h₁ h₂ o₁ o₂ o) : Joined h₁ h₂ o₁.settled o₂.settled o.settled := by
  simp only [Outcome.settled, h.dtype_eq]
  exact h.toType _

end Joined

@[simp] theorem isScalar_toType (o : Outcome) (t : DType) : (o.toType t).isScalar = o.isScalar := by
  rw [toType]
  split <;> rfl

/-! ### Cells side by side -/

/-- The cells of an outcome over two parts and over the whole, where one cell may stand for all
rows. -/
def CellsJoined (h₁ h₂ : Nat) (isScalar : Bool) (c₁ c₂ c : List Cell) : Prop :=
  (isScalar = true ∧ c₁ = c ∧ c₂ = c ∧ c.length = 1) ∨
    (isScalar = false ∧ Appended h₁ h₂ c₁ c₂ c)

theorem Joined.cells (h : Joined h₁ h₂ o₁ o₂ o) :
    Both (CellsJoined h₁ h₂ o.isScalar) o₁.cells o₂.cells o.cells := by
  cases h with
  | same _ hone =>
    cases hc : o₁.cells with
    | error e => exact .error e e e
    | ok cs =>
      obtain ⟨hscalar, hlen⟩ := hone cs hc
      exact .ok (.inl ⟨hscalar, rfl, rfl, hlen⟩)
  | rows hx => exact hx.imp fun _ _ _ hc => .inr ⟨rfl, hc⟩

/-- Cells that stand for all rows are put into each of them. -/
theorem CellsJoined.beside {isScalar : Bool} {c₁ c₂ c : List Cell}
    (h : CellsJoined h₁ h₂ isScalar c₁ c₂ c) :
    Appended h₁ h₂ (besideCells isScalar h₁ c₁) (besideCells isScalar h₂ c₂)
      (besideCells isScalar (h₁ + h₂) c) := by
  rcases h with ⟨rfl, rfl, rfl, _⟩ | ⟨rfl, hcells⟩
  · exact .replicate h₁ h₂ _
  · exact hcells

theorem all_isScalar_eq (h : Each (Joined h₁ h₂) os₁ os₂ os) :
    os₁.all (·.isScalar) = os.all (·.isScalar) ∧ os₂.all (·.isScalar) = os.all (·.isScalar) := by
  induction h with
  | nil => exact ⟨rfl, rfl⟩
  | cons ho _ ih => simp only [List.all_cons, ho.isScalar_eq, ih, and_self]

theorem eq_of_all_isScalar (h : Each (Joined h₁ h₂) os₁ os₂ os)
    (hs : os.all (·.isScalar) = true) : os₁ = os ∧ os₂ = os := by
  induction h with
  | nil => exact ⟨rfl, rfl⟩
  | cons ho _ ih =>
    rw [List.all_cons, Bool.and_eq_true] at hs
    obtain ⟨rfl, rfl⟩ := ho.eq_of_isScalar hs.1
    obtain ⟨rfl, rfl⟩ := ih hs.2
    exact ⟨rfl, rfl⟩

theorem CellsJoined.eq_of_empty {isScalar : Bool} {c₁ c₂ c : List Cell}
    (h : CellsJoined h₁ h₂ isScalar c₁ c₂ c) : (h₁ = 0 → c₂ = c) ∧ (h₂ = 0 → c₁ = c) := by
  rcases h with ⟨_, rfl, rfl, _⟩ | ⟨_, hcells⟩
  · exact ⟨fun _ => rfl, fun _ => rfl⟩
  · constructor
    · intro h
      rw [hcells.whole, List.length_eq_zero_iff.1 (hcells.first.trans h), List.nil_append]
    · intro h
      rw [hcells.whole, List.length_eq_zero_iff.1 (hcells.second.trans h), List.append_nil]

/-- Columns with whether one cell stands for all rows. -/
abbrev ColumnsJoined (h₁ h₂ : Nat) (cs₁ cs₂ cs : List (Bool × List Cell)) : Prop :=
  Each (fun c₁ c₂ c => (c₁.1 = c.1 ∧ c₂.1 = c.1) ∧ CellsJoined h₁ h₂ c.1 c₁.2 c₂.2 c.2) cs₁ cs₂ cs

/-- The number of rows of outcomes that stand side by side. -/
theorem rowCount_joined {cs₁ cs₂ cs : List (Bool × List Cell)} (h : ColumnsJoined h₁ h₂ cs₁ cs₂ cs)
    (hs : cs.all (·.1) = false) :
    rowCount cs₁ = h₁ ∧ rowCount cs₂ = h₂ ∧ rowCount cs = h₁ + h₂ := by
  induction h with
  | nil => cases hs
  | cons hc _ ih =>
    obtain ⟨⟨hs₁, hs₂⟩, ⟨hscalar, _⟩ | ⟨hscalar, hcells⟩⟩ := hc
    · rw [List.all_cons, hscalar, Bool.true_and] at hs
      simpa [rowCount, List.find?_cons, hs₁, hs₂, hscalar] using ih hs
    · simp [rowCount, hs₁, hs₂, hscalar, hcells.first, hcells.second, hcells.whole]

/-- Outcomes that stand side by side, some of which have a cell for each row. -/
theorem joined_sideBySide (h : Each (Joined h₁ h₂) os₁ os₂ os)
    (hs : os.all (·.isScalar) = false) :
    Both (Appended h₁ h₂) (sideBySide os₁) (sideBySide os₂) (sideBySide os) := by
  have hcolumns : Both (ColumnsJoined h₁ h₂)
      (os₁.mapM fun o => do pure (o.isScalar, ← o.cells))
      (os₂.mapM fun o => do pure (o.isScalar, ← o.cells))
      (os.mapM fun o => do pure (o.isScalar, ← o.cells)) :=
    .mapM h fun _ _ _ ho => ho.cells.bind fun _ _ _ hc => .ok ⟨ho.isScalar_eq, hc⟩
  refine hcolumns.found.bind fun cs₁ cs₂ cs hcs => .ok ?_
  obtain ⟨⟨_, _, hfound⟩, hcs⟩ := hcs
  have hscalars : cs.all (·.1) = false := by
    have hmap := map_eq_of_mapM (g := (·.1)) (k := (·.isScalar)) hfound fun o c hc => by
      simp only [bind_eq_ok, pure_eq_ok] at hc
      obtain ⟨_, _, rfl⟩ := hc
      rfl
    have hall := congrArg (fun bs => bs.all id) hmap
    simp only [List.all_map] at hall
    exact hall.trans hs
  obtain ⟨hrows₁, hrows₂, hrows⟩ := rowCount_joined hcs hscalars
  have hfilled : Each (Appended h₁ h₂) (cs₁.map fun c => besideCells c.1 h₁ c.2)
      (cs₂.map fun c => besideCells c.1 h₂ c.2)
      (cs.map fun c => besideCells c.1 (h₁ + h₂) c.2) := by
    refine hcs.map fun c₁ c₂ c hc => ?_
    rw [hc.1.1, hc.1.2]
    exact hc.2.beside
  have hsides : ∀ {n₁ n₂ n : Nat}, n₁ = h₁ → n₂ = h₂ → n = h₁ + h₂ → Appended h₁ h₂
      (Scalar.rowsOf n₁ (cs₁.map fun c => besideCells c.1 n₁ c.2))
      (Scalar.rowsOf n₂ (cs₂.map fun c => besideCells c.1 n₂ c.2))
      (Scalar.rowsOf n (cs.map fun c => besideCells c.1 n c.2)) := by
    rintro _ _ _ rfl rfl rfl
    exact Scalar.appended_rowsOf hfilled
  exact hsides hrows₁ hrows₂ hrows

/-- A function of the cells of each row, which may differ where there is no row at all or where
cells are missing. -/
theorem joined_rowwise?_of {f₁ f₂ f : List Cell → Except FrameError Cell} (t : DType)
    (h : Each (Joined h₁ h₂) os₁ os₂ os) (hscalar : os.all (·.isScalar) = true → f₁ = f ∧ f₂ = f)
    (hf : ∀ rs₁ rs₂ rs, sideBySide os₁ = .ok rs₁ → sideBySide os₂ = .ok rs₂ →
      sideBySide os = .ok rs → (h₁ ≠ 0 → f₁ = f) ∧ (h₂ ≠ 0 → f₂ = f)) :
    Joined h₁ h₂ (rowwise? t f₁ os₁) (rowwise? t f₂ os₂) (rowwise? t f os) := by
  cases hs : os.all (·.isScalar) with
  | false =>
    simp only [rowwise?, (all_isScalar_eq h).1, (all_isScalar_eq h).2, hs]
    refine .rows ((joined_sideBySide h hs).found.bind fun rs₁ rs₂ rs hrs => ?_)
    obtain ⟨⟨hrs₁, hrs₂, hrs⟩, happended⟩ := hrs
    obtain ⟨hf₁, hf₂⟩ := hf rs₁ rs₂ rs hrs₁ hrs₂ hrs
    exact happended.mapM hf₁ hf₂
  | true =>
    obtain ⟨rfl, rfl⟩ := eq_of_all_isScalar h hs
    obtain ⟨rfl, rfl⟩ := hscalar hs
    refine .same _ fun cs hcs => ⟨hs, ?_⟩
    obtain ⟨rows, hrows, hcs⟩ := bind_eq_ok.1 hcs
    obtain ⟨columns, hcolumns, hrows⟩ := bind_eq_ok.1 hrows
    have hscalars : columns.find? (fun c => !c.1) = none := by
      rw [List.find?_eq_none]
      intro c hc
      obtain ⟨o, ho, hfound⟩ := exists_of_mem_of_mapM hcolumns hc
      simp only [bind_eq_ok, pure_eq_ok] at hfound
      obtain ⟨_, _, rfl⟩ := hfound
      simpa using List.all_eq_true.1 hs o ho
    rw [length_of_mapM hcs, ← pure_eq_ok.1 hrows, hscalars, Scalar.length_rowsOf]

theorem joined_rowwise? (t : DType) (f : List Cell → Except FrameError Cell)
    (h : Each (Joined h₁ h₂) os₁ os₂ os) :
    Joined h₁ h₂ (rowwise? t f os₁) (rowwise? t f os₂) (rowwise? t f os) :=
  joined_rowwise?_of t h (fun _ => ⟨rfl, rfl⟩) fun _ _ _ _ _ _ => ⟨fun _ => rfl, fun _ => rfl⟩

theorem joined_rowwise (t : DType) (f : List Cell → Cell) (h : Each (Joined h₁ h₂) os₁ os₂ os) :
    Joined h₁ h₂ (rowwise t f os₁) (rowwise t f os₂) (rowwise t f os) :=
  joined_rowwise? t _ h

/-! ### Common types -/

/-- Outcomes in a common type. -/
inductive PairJoined (h₁ h₂ : Nat) : (p₁ p₂ p : Outcome × Outcome × DType) → Prop
  | mk {x₁ x₂ x y₁ y₂ y t} : Joined h₁ h₂ x₁ x₂ x → Joined h₁ h₂ y₁ y₂ y →
      PairJoined h₁ h₂ (x₁, y₁, t) (x₂, y₂, t) (x, y, t)

theorem joined_paired {a₁ a₂ a b₁ b₂ b : Outcome} (ha : Joined h₁ h₂ a₁ a₂ a)
    (hb : Joined h₁ h₂ b₁ b₂ b) :
    Lifted (PairJoined h₁ h₂) (paired a₁ b₁) (paired a₂ b₂) (paired a b) := by
  simp only [paired, ha.typing_eq, hb.typing_eq]
  cases a.typing.common b.typing with
  | none => exact .error _ _ _
  | some t => exact .ok (.mk (ha.toType t) (hb.toType t))

theorem commonTyping_joined (h : Each (Joined h₁ h₂) os₁ os₂ os) (t : Typing) :
    commonTyping t os₁ = commonTyping t os ∧ commonTyping t os₂ = commonTyping t os := by
  induction h generalizing t with
  | nil => exact ⟨rfl, rfl⟩
  | cons ho _ ih =>
    simp only [commonTyping, ho.typing_eq]
    split
    · exact ih _
    · exact ⟨rfl, rfl⟩

/-- Outcomes in the type that holds all of them. -/
inductive ListJoined (h₁ h₂ : Nat) : (p₁ p₂ p : List Outcome × DType) → Prop
  | mk {xs₁ xs₂ xs t} : Each (Joined h₁ h₂) xs₁ xs₂ xs → ListJoined h₁ h₂ (xs₁, t) (xs₂, t) (xs, t)

theorem joined_unified (h : Each (Joined h₁ h₂) os₁ os₂ os) :
    Lifted (ListJoined h₁ h₂) (unified os₁) (unified os₂) (unified os) := by
  have htypes := h
  cases h with
  | nil => exact .error _ _ _
  | cons ho hos =>
    simp only [unified, ho.typing_eq, commonTyping_joined hos]
    exact .bind_same fun _ _ => .ok (.mk (htypes.map fun _ _ _ h => h.toType _))

end Outcome

/-! ### Operators -/

open Outcome

variable {a₁ a₂ a b₁ b₂ b : Outcome} {os₁ os₂ os : List Outcome}

theorem joined_tested (test : Cell → Cell → Cell) (ha : Outcome.Joined h₁ h₂ a₁ a₂ a)
    (hb : Outcome.Joined h₁ h₂ b₁ b₂ b) :
    Lifted (Outcome.Joined h₁ h₂) (tested test a₁ b₁) (tested test a₂ b₂) (tested test a b) := by
  simp only [tested, ha.dtype_eq, hb.dtype_eq]
  split
  · exact .error _ _ _
  · refine (joined_paired ha hb).bind fun _ _ _ hp => .ok ?_
    obtain ⟨hx, hy⟩ := hp
    exact joined_rowwise _ _ (.cons hx (.cons hy .nil))

theorem Connective.joined_eval (c : Connective) (ha : Outcome.Joined h₁ h₂ a₁ a₂ a)
    (hb : Outcome.Joined h₁ h₂ b₁ b₂ b) :
    Lifted (Outcome.Joined h₁ h₂) (c.eval a₁ b₁) (c.eval a₂ b₂) (c.eval a b) := by
  refine (joined_paired ha hb).bind fun _ _ _ hp => ?_
  obtain ⟨hx, hy⟩ := hp
  dsimp only
  split
  · exact .ok (joined_rowwise _ _ (.cons hx (.cons hy .nil)))
  · exact .ok (joined_rowwise _ _ (.cons hx (.cons hy .nil)))
  · exact .ok (joined_failing _ _)

theorem joined_opposite (ha : Outcome.Joined h₁ h₂ a₁ a₂ a) :
    Lifted (Outcome.Joined h₁ h₂) (opposite a₁) (opposite a₂) (opposite a) := by
  simp only [opposite, ha.dtype_eq]
  split
  · exact .ok (ha.mapCells _ _)
  · exact .ok (ha.settled.mapCells _ _)
  · exact .error _ _ _

/-- Values beside those among which they are looked for, which are the same for all rows. -/
inductive MatchJoined (h₁ h₂ : Nat) : (p₁ p₂ p : Outcome × Outcome) → Prop
  | mk {x₁ x₂ x y} : Outcome.Joined h₁ h₂ x₁ x₂ x → MatchJoined h₁ h₂ (x₁, y) (x₂, y) (x, y)

theorem joined_matchable (ha : Outcome.Joined h₁ h₂ a₁ a₂ a) (items : Outcome) :
    Lifted (MatchJoined h₁ h₂) (matchable a₁ items) (matchable a₂ items) (matchable a items) := by
  simp only [matchable, ha.dtype_eq]
  split
  · exact .ok (.mk ha.settled)
  · split
    · split
      · exact .ok (.mk (ha.toType _))
      · exact .error _ _ _
    · exact .error _ _ _

/-- Whether values are among some that are the same for all rows. -/
theorem joined_among (ha : Outcome.Joined h₁ h₂ a₁ a₂ a) (items : Outcome) :
    Lifted (Outcome.Joined h₁ h₂) (among a₁ items) (among a₂ items) (among a items) := by
  refine (joined_matchable ha items).bind fun _ _ _ hp => .ok ?_
  obtain @⟨x₁, x₂, x, y, hx⟩ := hp
  dsimp only
  cases hfound : y.cells with
  | error e =>
    cases hx with
    | same => exact .same _ fun _ hcs => nomatch hcs
    | rows => exact .rows (.error e e e)
  | ok found =>
    have htest := hx.mapCells .bool fun c =>
      if c.isNull then .null else .bool (found.any fun d => Cell.order c d == .eq)
    have hcells : ∀ x : Outcome, (⟨.known .bool, x.isScalar, do
          pure ((← x.cells).map fun c =>
            if c.isNull then .null else .bool (found.any fun d => Cell.order c d == .eq))⟩ :
              Outcome) =
        x.mapCells .bool fun c =>
          if c.isNull then .null else .bool (found.any fun d => Cell.order c d == .eq) := by
      intro x
      rw [Outcome.mapCells]
      cases x.cells <;> rfl
    rw [← hcells, ← hcells, ← hcells] at htest
    exact htest

theorem joined_chosen {c₁ c₂ c : Outcome} (ha : Outcome.Joined h₁ h₂ a₁ a₂ a)
    (hb : Outcome.Joined h₁ h₂ b₁ b₂ b) (hc : Outcome.Joined h₁ h₂ c₁ c₂ c) :
    Lifted (Outcome.Joined h₁ h₂) (chosen a₁ b₁ c₁) (chosen a₂ b₂ c₂) (chosen a b c) := by
  simp only [chosen, hc.dtype_eq]
  have hpair := joined_paired ha hb
  generalize paired a₁ b₁ = p₁, paired a₂ b₂ = p₂, paired a b = p at hpair
  cases hpair with
  | error => exact .error _ _ _
  | ok hp =>
    obtain ⟨hx, hy⟩ := hp
    dsimp only
    split
    · exact .ok (joined_rowwise _ _ (.cons hx (.cons hy (.cons hc .nil))))
    · exact .ok (joined_failing _ _)

theorem joined_firstPresent (h : Each (Outcome.Joined h₁ h₂) os₁ os₂ os) :
    Lifted (Outcome.Joined h₁ h₂) (firstPresent os₁) (firstPresent os₂) (firstPresent os) := by
  have hlist := joined_unified h
  simp only [firstPresent]
  generalize unified os₁ = p₁, unified os₂ = p₂, unified os = p at hlist
  cases hlist with
  | error => exact .error _ _ _
  | ok hp =>
    obtain ⟨hxs⟩ := hp
    exact .ok (joined_rowwise _ _ hxs)

theorem joined_castOutcome (target : DType) (strict : Bool) (ha : Outcome.Joined h₁ h₂ a₁ a₂ a) :
    Outcome.Joined h₁ h₂ (castOutcome target strict a₁) (castOutcome target strict a₂)
      (castOutcome target strict a) := by
  simp only [castOutcome, ha.settled.dtype_eq]
  exact joined_rowwise? _ _ (.cons ha.settled .nil)

theorem joined_fieldOf (name : String) (ha : Outcome.Joined h₁ h₂ a₁ a₂ a) :
    Lifted (Outcome.Joined h₁ h₂) (fieldOf name a₁) (fieldOf name a₂) (fieldOf name a) := by
  simp only [fieldOf, ha.dtype_eq]
  split
  · split
    · exact .ok (ha.mapCells _ _)
    · exact .error _ _ _
  · exact .error _ _ _

/-! ### Functions of numbers -/

namespace NumberFunction

theorem joined_real (f : NumberFunction) (ha : Outcome.Joined h₁ h₂ a₁ a₂ a) :
    Outcome.Joined h₁ h₂ (f.real a₁) (f.real a₂) (f.real a) := by
  simp only [real, ha.dtype_eq]
  split
  · exact (ha.settled.toType _).mapCells _ _
  · exact joined_failing _ _

theorem joined_arcTo (ha : Outcome.Joined h₁ h₂ a₁ a₂ a) (hb : Outcome.Joined h₁ h₂ b₁ b₂ b) :
    Outcome.Joined h₁ h₂ (arcTo a₁ b₁) (arcTo a₂ b₂) (arcTo a b) := by
  simp only [arcTo, ha.dtype_eq, hb.dtype_eq]
  split
  · exact joined_rowwise _ _ (.cons (ha.toType _) (.cons (hb.toType _) .nil))
  · exact joined_failing _ _

theorem joined_raised (ha : Outcome.Joined h₁ h₂ a₁ a₂ a) (hb : Outcome.Joined h₁ h₂ b₁ b₂ b) :
    Outcome.Joined h₁ h₂ (raised a₁ b₁) (raised a₂ b₂) (raised a b) := by
  simp only [raised, ha.dtype_eq, hb.dtype_eq]
  split
  · split
    · have hexponent := hb.toType (powerType a.dtype b.dtype)
      simp only [hexponent.isScalar_eq]
      exact joined_rowwise? _ _ (.cons (ha.toType _) (.cons hexponent .nil))
    · have hexponent := hb.settled
      simp only [hexponent.isScalar_eq]
      exact joined_rowwise? _ _ (.cons (ha.toType _) (.cons hexponent .nil))
  · exact joined_failing _ _

theorem joined_eval (f : NumberFunction) (h : Each (Outcome.Joined h₁ h₂) os₁ os₂ os) :
    Lifted (Outcome.Joined h₁ h₂) (f.eval os₁) (f.eval os₂) (f.eval os) := by
  have hkept : ∀ {a₁ a₂ a}, Outcome.Joined h₁ h₂ a₁ a₂ a → Lifted (Outcome.Joined h₁ h₂)
      (if a₁.dtype.isNumeric then .ok (a₁.settled.mapCells a₁.dtype (f.keeping a₁.dtype))
        else if a₁.dtype.same .null then .ok a₁ else .ok (.failing a₁.dtype .wrongType))
      (if a₂.dtype.isNumeric then .ok (a₂.settled.mapCells a₂.dtype (f.keeping a₂.dtype))
        else if a₂.dtype.same .null then .ok a₂ else .ok (.failing a₂.dtype .wrongType))
      (if a.dtype.isNumeric then .ok (a.settled.mapCells a.dtype (f.keeping a.dtype))
        else if a.dtype.same .null then .ok a else .ok (.failing a.dtype .wrongType) :
          Except FrameError Outcome) := by
    intro a₁ a₂ a ha
    simp only [ha.dtype_eq]
    split
    · exact .ok (ha.settled.mapCells _ _)
    · split
      · exact .ok ha
      · exact .ok (joined_failing _ _)
  rcases h with _ | ⟨ha, _ | ⟨hb, _ | ⟨_, _⟩⟩⟩
  · cases f <;> exact .error _ _ _
  · cases f <;> first | exact hkept ha | exact .ok (joined_real _ ha)
  · cases f <;>
      first | exact .ok (joined_arcTo ha hb) | exact .ok (joined_raised ha hb) | exact .error _ _ _
  · cases f <;> exact .error _ _ _

end NumberFunction

/-! ### Functions of texts -/

namespace TextFunction

/-- Outcomes that are refused, or taken. -/
inductive TakenJoined (h₁ h₂ : Nat) : (o₁ o₂ o : Option (List Outcome)) → Prop
  | none : TakenJoined h₁ h₂ none none none
  | some {xs₁ xs₂ xs : List Outcome} : Each (Outcome.Joined h₁ h₂) xs₁ xs₂ xs →
      TakenJoined h₁ h₂ (some xs₁) (some xs₂) (some xs)

theorem joined_asTexts (h : Each (Outcome.Joined h₁ h₂) os₁ os₂ os) :
    TakenJoined h₁ h₂ (asTexts os₁) (asTexts os₂) (asTexts os) := by
  have hlist := joined_unified h
  simp only [asTexts]
  generalize unified os₁ = p₁, unified os₂ = p₂, unified os = p at hlist
  cases hlist with
  | error => exact .none
  | ok hp =>
    obtain ⟨hxs⟩ := hp
    dsimp only
    split
    · exact .some hxs
    · exact .none

/-- Texts are taken as they are. -/
theorem joined_texts (h : Each (Outcome.Joined h₁ h₂) os₁ os₂ os) :
    TakenJoined h₁ h₂ (if os₁.all (·.isText) then some os₁ else none)
      (if os₂.all (·.isText) then some os₂ else none)
      (if os.all (·.isText) then some os else none) := by
  have hall : os₁.all (·.isText) = os.all (·.isText) ∧ os₂.all (·.isText) = os.all (·.isText) := by
    induction h with
    | nil => exact ⟨rfl, rfl⟩
    | cons ho _ ih => simp only [List.all_cons, ho.isText_eq, ih, and_self]
  rw [hall.1, hall.2]
  split
  · exact .some h
  · exact .none

theorem joined_accepted (f : TextFunction) (h : Each (Outcome.Joined h₁ h₂) os₁ os₂ os) :
    TakenJoined h₁ h₂ (f.accepted os₁) (f.accepted os₂) (f.accepted os) := by
  have htexts := joined_texts h
  cases f with
  | concat => exact .some (h.map fun _ _ _ ho => ho.settled.toType _)
  | startsWith | endsWith | finds | place => exact joined_asTexts h
  | upper | lower | reverse | length | trim => exact htexts
  | slice =>
    rcases h with _ | ⟨ha, _ | ⟨hb, _ | ⟨hc, _ | ⟨_, _⟩⟩⟩⟩
    case cons.cons.cons.nil =>
      simp only [accepted, ha.isText_eq]
      split
      · exact .some (.cons ha (.cons (joined_castOutcome _ _ hb)
          (.cons (joined_castOutcome _ _ hc) .nil)))
      · exact .none
    all_goals exact htexts
  | piece =>
    rcases h with _ | ⟨ha, _ | ⟨hb, _ | ⟨hc, _ | ⟨_, _⟩⟩⟩⟩
    case cons.cons.cons.nil =>
      simp only [accepted, ha.isText_eq, hb.isText_eq]
      split
      · exact .some (.cons ha (.cons hb (.cons (joined_castOutcome _ _ hc) .nil)))
      · exact .none
    all_goals exact htexts
  | replaceAll =>
    rcases h with _ | ⟨ha, _ | ⟨hb, _ | ⟨hc, _ | ⟨_, _⟩⟩⟩⟩
    case cons.cons.cons.nil =>
      simp only [accepted, hb.isScalar_eq]
      split
      · exact joined_asTexts (.cons ha (.cons hb (.cons hc .nil)))
      · exact .none
    all_goals exact htexts

theorem joined_eval (f : TextFunction) (h : Each (Outcome.Joined h₁ h₂) os₁ os₂ os) :
    Outcome.Joined h₁ h₂ (f.eval os₁) (f.eval os₂) (f.eval os) := by
  have haccepted := joined_accepted f h
  simp only [eval]
  generalize f.accepted os₁ = x₁, f.accepted os₂ = x₂, f.accepted os = x at haccepted
  cases haccepted with
  | none => exact joined_failing _ _
  | some hxs => exact joined_rowwise? _ _ hxs

end TextFunction

/-! ### Functions of dates and times -/

theorem TimeField.joined_eval (f : TimeField) (ha : Outcome.Joined h₁ h₂ a₁ a₂ a) :
    Outcome.Joined h₁ h₂ (f.eval a₁) (f.eval a₂) (f.eval a) := by
  simp only [TimeField.eval, ha.dtype_eq]
  split
  · split
    · exact ha.mapCells _ _
    · exact joined_failing _ _
  · exact ha.mapCells _ _
  · exact joined_failing _ _

theorem length_daysOf (l : Layouts) (latest : String) (texts : List (Option String)) :
    (daysOf l latest texts).length = texts.length := by
  induction texts generalizing latest with
  | nil => rfl
  | cons text texts ih =>
    cases text with
    | none => simp [daysOf, ih]
    | some s =>
      rw [daysOf]
      split <;> simp [ih]

theorem length_inferDays {texts : List (Option String)} {days : List (Option Int)}
    (h : inferDays texts = .ok days) : days.length = texts.length := by
  rw [inferDays] at h
  split at h
  · cases h
    rw [List.length_map]
  · dsimp only at h
    split at h
    · cases h
      exact length_daysOf _ _ _
    · cases h

namespace TimeFunction

/-- Whether a function of texts infers their layout. -/
def infers : TimeFunction → Bool
  | readDay none | inferMoment .. => true
  | _ => false

theorem joined_reading (t : DType) {f : List (Option String) → Except FrameError (List Cell)}
    (hlen : ∀ texts cells, f texts = .ok cells → cells.length = texts.length)
    (hf : a.isScalar = false → ∀ c₁ c₂ c, Appended h₁ h₂ c₁ c₂ c →
      Both (Appended h₁ h₂) (f c₁) (f c₂) (f c)) (ha : Outcome.Joined h₁ h₂ a₁ a₂ a) :
    Outcome.Joined h₁ h₂ (reading t f a₁) (reading t f a₂) (reading t f a) := by
  simp only [reading, ha.isText_eq]
  split
  · refine ha.mapCellsM t (fun c d hd => ?_) fun hs _ _ _ hc => hf hs _ _ _ (hc.map _)
    rw [hlen _ _ hd, List.length_map]
  · exact joined_failing _ _

/-- Texts that are read one by one. -/
theorem joined_readingEach (t : DType) {f : List (Option String) → Except FrameError (List Cell)}
    {k : Option String → Except FrameError Cell} (hf : ∀ texts, f texts = texts.mapM k)
    (ha : Outcome.Joined h₁ h₂ a₁ a₂ a) :
    Outcome.Joined h₁ h₂ (reading t f a₁) (reading t f a₂) (reading t f a) := by
  refine joined_reading t (fun texts cells h => ?_) (fun _ c₁ c₂ c hc => ?_) ha
  · exact length_of_mapM (hf texts ▸ h)
  · rw [hf, hf, hf]
    exact hc.mapM (fun _ => rfl) fun _ => rfl

theorem present_map (g : Option String → Option Int) (texts : List (Option String)) :
    present texts (texts.map g) = texts.mapM fun s =>
      if s.isSome && (g s).isNone then .error .unreadable
      else .ok (Operation.instantCell (g s)) := by
  have hzip : texts.zip (texts.map g) = texts.map fun s => (s, g s) := by
    induction texts with
    | nil => rfl
    | cons s texts ih => rw [List.map_cons, List.zip_cons_cons, ih, List.map_cons]
  rw [present, hzip, List.mapM_map]
  rfl

/-- Texts whose layout is inferred from all of them. -/
theorem joined_readingAll (t : DType) {f : List (Option String) → Except FrameError (List Cell)}
    (hlen : ∀ texts cells, f texts = .ok cells → cells.length = texts.length) (hnil : f [] = .ok [])
    (hlocal : h₁ = 0 ∨ h₂ = 0 ∨ a.isScalar = true) (ha : Outcome.Joined h₁ h₂ a₁ a₂ a) :
    Outcome.Joined h₁ h₂ (reading t f a₁) (reading t f a₂) (reading t f a) := by
  refine joined_reading t hlen (fun hs c₁ c₂ c hc => ?_) ha
  have hempty : h₁ = 0 ∨ h₂ = 0 := by
    rcases hlocal with h | h | h
    · exact .inl h
    · exact .inr h
    · rw [hs] at h
      cases h
  exact hc.both_of_empty hnil (fun c d hd => hlen c d hd) hempty

theorem joined_eval (f : TimeFunction) (ha : Outcome.Joined h₁ h₂ a₁ a₂ a)
    (hlocal : h₁ = 0 ∨ h₂ = 0 ∨ (f.infers = true → a.isScalar = true)) :
    Outcome.Joined h₁ h₂ (f.eval a₁) (f.eval a₂) (f.eval a) := by
  cases f with
  | field g => exact TimeField.joined_eval g ha
  | shift d =>
    simp only [eval, shifted, ha.dtype_eq]
    split
    · exact ha.mapCells _ _
    · exact ha.mapCells _ _
    · exact joined_failing _ _
  | formatted pattern =>
    simp only [eval, ha.dtype_eq]
    split
    · exact joined_rowwise? _ _ (.cons ha .nil)
    · exact joined_failing _ _
  | readDay pattern =>
    cases pattern with
    | none =>
      refine joined_readingAll .date (f := fun texts => do present texts (← inferDays texts))
        (fun texts cells h => ?_) rfl (hlocal.imp_right (.imp_right fun h => h rfl)) ha
      obtain ⟨days, hdays, hcells⟩ := bind_eq_ok.1 h
      rw [length_of_mapM hcells, List.length_zip, length_inferDays hdays, Nat.min_self]
    | some pattern =>
      let day (s : Option String) : Option Int :=
        s.bind (dayBy? (String.ofList (DatetimePattern.expanded pattern.toList)))
      exact joined_readingEach .date (f := fun texts => present texts (texts.map day))
        (present_map day) ha
  | readMoment pattern =>
    simp only [eval]
    cases hp : DatetimePattern.isIncomplete pattern.toList with
    | false =>
      refine joined_readingEach _ (k := fun s => s.elim (.ok .null) fun s =>
        ((⟨pattern, none, .latest, true⟩ : DatetimePattern).read s).map Operation.instantCell)
        (fun texts => ?_) ha
      rw [readBy, hp]
      refine mapM_congr fun s _ => ?_
      cases s <;> rfl
    | true =>
      refine joined_reading _ (fun texts cells h => ?_) (fun _ c₁ c₂ c _ => ?_) ha
      · rw [readBy, hp] at h
        cases h
      · simp only [readBy, hp]
        exact .error _ _ _
  | inferMoment u zone =>
    refine joined_readingAll _ (f := fun texts => do
        pure ((← (InferredDatetime.mk zone .latest true).readAll texts).map fun n =>
          Operation.instantCell (n.map (ofMicros u))))
      (fun texts cells h => ?_) rfl (hlocal.imp_right (.imp_right fun h => h rfl)) ha
    simp only [bind_eq_ok, pure_eq_ok] at h
    obtain ⟨times, htimes, rfl⟩ := h
    rw [List.length_map, Scalar.length_readAll htimes]

end TimeFunction

/-! ### Arithmetic -/

namespace Arithmetic

/-- Whether arithmetic divides. -/
def divides : Arithmetic → Bool
  | add | sub | mul => false
  | divide | floorDivide | modulo => true

/-- Arithmetic that does not look at the number of rows: where many floating-point numbers are
divided by one, they are multiplied by its reciprocal. -/
def IsLocal (h₁ h₂ : Nat) (op : Arithmetic) (a b : Outcome) : Prop :=
  op.divides = true → a.isScalar = false → b.isScalar = true →
    (∀ t, a.typing.common b.typing = some t → t.format? = none) ∨ (h₁ ≠ 1 ∧ h₂ ≠ 1)

theorem onCells_of_not_divides {op : Arithmetic} (h : op.divides = false) (t : DType) (r s : Bool) :
    op.onCells t r = op.onCells t s := by
  have hbinary : ∀ fmt, op.onBinary fmt r = op.onBinary fmt s := fun fmt => by
    cases op with
    | add | sub | mul => rfl
    | divide | floorDivide | modulo => cases h
  funext c d
  cases c <;> cases d <;> simp only [onCells, hbinary]

/-- Arithmetic in the cells of a row, divided by a reciprocal or not. -/
theorem onRows_congr {op : Arithmetic} {t : DType} {r s : Bool} (h : r = s ∨ op.divides = false) :
    (fun cs : List Cell => (.ok (match cs with
      | [c, d] => op.onCells t r c d
      | _ => .null) : Except FrameError Cell)) = fun cs => .ok (match cs with
      | [c, d] => op.onCells t s c d
      | _ => .null) := by
  rcases h with rfl | h
  · rfl
  · rw [onCells_of_not_divides h t r s]

/-- Whether many numbers are divided by one. -/
def byReciprocal (t : DType) (isColumn isOne : Bool) (cells : List Cell) : Bool :=
  (t.format?.isSome && (isColumn && cells.length != 1)) && isOne

/-- Local arithmetic divides by a reciprocal in the whole if and only if it does so in the parts. -/
theorem byReciprocal_eq (op : Arithmetic) (t : DType) (isOne : Bool) {isScalar : Bool}
    {c₁ c₂ c : List Cell}
    (hlocal : h₁ = 0 ∨ h₂ = 0 ∨ (op.divides = true → isScalar = false → isOne = true →
      t.format? = none ∨ (h₁ ≠ 1 ∧ h₂ ≠ 1))) (hcells : CellsJoined h₁ h₂ isScalar c₁ c₂ c) :
    (h₁ ≠ 0 → byReciprocal t (!isScalar) isOne c₁ = byReciprocal t (!isScalar) isOne c ∨
      op.divides = false) ∧
    (h₂ ≠ 0 → byReciprocal t (!isScalar) isOne c₂ = byReciprocal t (!isScalar) isOne c ∨
      op.divides = false) := by
  obtain ⟨hfirst, hsecond⟩ := hcells.eq_of_empty
  rcases hcells with ⟨rfl, rfl, rfl, _⟩ | ⟨rfl, hcells⟩
  · exact ⟨fun _ => .inl rfl, fun _ => .inl rfl⟩
  rcases hlocal with h | h | hlocal
  · exact ⟨fun hne => absurd h hne, fun _ => .inl (by rw [hfirst h])⟩
  · exact ⟨fun _ => .inl (by rw [hsecond h]), fun hne => absurd h hne⟩
  cases hdivides : op.divides with
  | false => exact ⟨fun _ => .inr rfl, fun _ => .inr rfl⟩
  | true =>
    cases isOne with
    | false => simp [byReciprocal]
    | true =>
      rcases hlocal hdivides rfl rfl with h | ⟨hone₁, hone₂⟩
      · simp [byReciprocal, h]
      · have hlen₁ : (c₁.length != 1) = true := bne_iff_ne.2 (hcells.first ▸ hone₁)
        have hlen₂ : (c₂.length != 1) = true := bne_iff_ne.2 (hcells.second ▸ hone₂)
        have hlen : (c.length != 1) = true := by
          rw [hcells.whole, List.length_append, hcells.first, hcells.second, bne_iff_ne]
          omega
        simp only [byReciprocal, hlen₁, hlen₂, hlen]
        exact ⟨fun _ => .inl trivial, fun _ => .inl trivial⟩

theorem joined_folded (op : Arithmetic) (s t : Typing) :
    Outcome.Joined h₁ h₂ (op.folded s t) (op.folded s t) (op.folded s t) := by
  rw [folded.eq_def]
  split
  · exact joined_whole _
  · exact joined_fraction _

theorem joined_eval (op : Arithmetic) (ha : Outcome.Joined h₁ h₂ a₁ a₂ a)
    (hb : Outcome.Joined h₁ h₂ b₁ b₂ b) (hlocal : h₁ = 0 ∨ h₂ = 0 ∨ op.IsLocal h₁ h₂ a b) :
    Lifted (Outcome.Joined h₁ h₂) (op.eval a₁ b₁) (op.eval a₂ b₂) (op.eval a b) := by
  simp only [eval, paired, ha.typing_eq, hb.typing_eq, ha.dtype_eq, hb.dtype_eq]
  split
  · exact .ok (joined_folded op _ _)
  split
  · exact .error _ _ _
  split
  · exact .error _ _ _
  cases ht : a.typing.common b.typing with
  | none => exact .error _ _ _
  | some t =>
    simp only [bind, Except.bind]
    cases op.result? t with
    | none => exact .error _ _ _
    | some result =>
      have hx := ha.toType t
      have hy := hb.toType t
      refine .ok (joined_rowwise?_of result (.cons hx (.cons hy .nil)) (fun hs => ?_) ?_)
      · obtain ⟨hx₁, hx₂⟩ := hx.eq_of_isScalar (by simpa using hs : _ ∧ _).1
        obtain ⟨hy₁, hy₂⟩ := hy.eq_of_isScalar (by simpa using hs : _ ∧ _).2
        rw [hx₁, hx₂, hy₁, hy₂]
        exact ⟨rfl, rfl⟩
      · intro rs₁ rs₂ rs _ _ hrs
        obtain ⟨columns, hcolumns, _⟩ := bind_eq_ok.1 hrs
        obtain ⟨_, _, hcolumn⟩ := exists_of_mem_mapM hcolumns List.mem_cons_self
        obtain ⟨c, hc, _⟩ := bind_eq_ok.1 hcolumn
        obtain ⟨c₁, c₂, hc₁, hc₂, hcells⟩ := hx.cells.split c hc
        simp only [hc₁, hc₂, hc, hx.isScalar_eq, hy.isScalar_eq]
        have hsame := byReciprocal_eq op t (b.toType t).isScalar ?_ hcells
        · exact ⟨fun h => onRows_congr (hsame.1 h), fun h => onRows_congr (hsame.2 h)⟩
        · simp only [isScalar_toType]
          exact hlocal.imp_right fun h => h.imp_right fun h hdivides hcolumn hone =>
            (h hdivides hcolumn hone).imp_left fun h => h t ht

end Arithmetic

/-! ### The greatest and the least -/

theorem joined_pairExtreme (greatest : Bool) {t : DType}
    (hlocal : h₁ = 0 ∨ h₂ = 0 ∨ t.format? = none) (ha : Outcome.Joined h₁ h₂ a₁ a₂ a)
    (hb : Outcome.Joined h₁ h₂ b₁ b₂ b) :
    Outcome.Joined h₁ h₂ (pairExtreme greatest t a₁ b₁) (pairExtreme greatest t a₂ b₂)
      (pairExtreme greatest t a b) := by
  simp only [pairExtreme, ha.isScalar_eq, hb.isScalar_eq]
  cases hs : a.isScalar && b.isScalar with
  | true =>
    rw [Bool.and_eq_true] at hs
    obtain ⟨rfl, rfl⟩ := ha.eq_of_isScalar hs.1
    obtain ⟨rfl, rfl⟩ := hb.eq_of_isScalar hs.2
    refine .same _ fun cs hcs => ⟨rfl, ?_⟩
    simp only [bind_eq_ok, pure_eq_ok, hs] at hcs
    obtain ⟨x, _, y, hy, rfl⟩ := hcs
    obtain ⟨y₁, y₂, _, _, hy | hy⟩ := hb.cells.split y hy
    · simp [besideCells, hy.2.2.2]
    · rw [hs.2] at hy
      cases hy.1
  | false =>
    refine .rows (ha.cells.bind fun x₁ x₂ x hx => hb.cells.bind fun y₁ y₂ y hy => .ok ?_)
    -- one of the two has a cell for each row
    obtain ⟨hrows₁, hrows₂, hrows⟩ : (if a.isScalar then y₁.length else x₁.length) = h₁ ∧
        (if a.isScalar then y₂.length else x₂.length) = h₂ ∧
          (if a.isScalar then y.length else x.length) = h₁ + h₂ := by
      rcases hx with ⟨hscalar, _⟩ | ⟨hscalar, hx⟩
      · rw [hscalar, Bool.true_and] at hs
        rcases hy with ⟨hone, _⟩ | ⟨_, hy⟩
        · rw [hs] at hone
          cases hone
        · simp [hscalar, hy.first, hy.second, hy.whole]
      · simp [hscalar, hx.first, hx.second, hx.whole]
    rw [hrows₁, hrows₂, hrows]
    obtain ⟨hx₂, hx₁⟩ := hx.eq_of_empty
    obtain ⟨hy₂, hy₁⟩ := hy.eq_of_empty
    refine hx.beside.zipWith hy.beside (fun hne => ?_) fun hne => ?_
    · rcases hlocal with h | h | h
      · exact absurd h hne
      · rw [hx₁ h, hy₁ h]
      · simp only [h, Option.isSome_none, Bool.false_and]
    · rcases hlocal with h | h | h
      · rw [hx₂ h, hy₂ h]
      · exact absurd h hne
      · simp only [h, Option.isSome_none, Bool.false_and]

theorem joined_foldl_pairExtreme (greatest : Bool) {t : DType}
    (hlocal : h₁ = 0 ∨ h₂ = 0 ∨ t.format? = none) (ha : Outcome.Joined h₁ h₂ a₁ a₂ a)
    (h : Each (Outcome.Joined h₁ h₂) os₁ os₂ os) :
    Outcome.Joined h₁ h₂ (os₁.foldl (pairExtreme greatest t) a₁)
      (os₂.foldl (pairExtreme greatest t) a₂) (os.foldl (pairExtreme greatest t) a) := by
  induction h generalizing a₁ a₂ a with
  | nil => exact ha
  | cons hb _ ih => exact ih (joined_pairExtreme greatest hlocal ha hb)

theorem joined_extreme (greatest : Bool) (h : Each (Outcome.Joined h₁ h₂) os₁ os₂ os)
    (hlocal : h₁ = 0 ∨ h₂ = 0 ∨ ∀ found, unified os = .ok found → found.2.format? = none) :
    Lifted (Outcome.Joined h₁ h₂) (extreme greatest os₁) (extreme greatest os₂)
      (extreme greatest os) := by
  have hlist := joined_unified h
  simp only [extreme]
  generalize unified os₁ = p₁, unified os₂ = p₂, unified os = p at hlist hlocal
  cases hlist with
  | error => exact .error _ _ _
  | ok hfound =>
    obtain ⟨hxs⟩ := hfound
    cases hxs with
    | nil => exact .error _ _ _
    | cons ho hos =>
      refine .ok ?_
      exact joined_foldl_pairExtreme greatest
        (hlocal.imp_right fun h => h.imp_right fun h => h _ rfl) ho hos

/-! ### All functions -/

namespace Function

/-- Whether a function looks for values among others. -/
def isMembership : Function → Bool
  | among => true
  | _ => false

/-- A function that looks at no other row but the one for which it has a value. -/
def IsLocal (h₁ h₂ : Nat) : Function → List Outcome → Prop
  | .arithmetic op, [a, b] => op.IsLocal h₁ h₂ a b
  | .extreme _, os => ∀ found, unified os = .ok found → found.2.format? = none
  | .time f, [a] => f.infers = true → a.isScalar = true
  | _, _ => True

/-- **A local function makes of the whole what it makes of the parts.** -/
theorem joined_eval {f : Function} (hf : f.isMembership = false)
    (h : Each (Outcome.Joined h₁ h₂) os₁ os₂ os)
    (hlocal : h₁ = 0 ∨ h₂ = 0 ∨ f.IsLocal h₁ h₂ os) :
    Lifted (Outcome.Joined h₁ h₂) (f.eval os₁) (f.eval os₂) (f.eval os) := by
  cases f with
  | coalesce => exact joined_firstPresent h
  | extreme greatest => exact joined_extreme greatest h hlocal
  | number f => exact f.joined_eval h
  | text f => exact .ok (f.joined_eval h)
  | among => cases hf
  | arithmetic op =>
    rcases h with _ | ⟨ha, _ | ⟨hb, _ | ⟨_, _⟩⟩⟩
    case cons.cons.nil => exact op.joined_eval ha hb hlocal
    all_goals exact .error _ _ _
  | compare c =>
    rcases h with _ | ⟨ha, _ | ⟨hb, _ | ⟨_, _⟩⟩⟩
    case cons.cons.nil => exact joined_tested _ ha hb
    all_goals exact .error _ _ _
  | same negated =>
    rcases h with _ | ⟨ha, _ | ⟨hb, _ | ⟨_, _⟩⟩⟩
    case cons.cons.nil =>
      have hsame := joined_tested (fun c d => .bool (Cell.order c d == .eq)) ha hb
      cases negated with
      | false => exact hsame
      | true => exact hsame.bind fun _ _ _ ho => joined_opposite ho
    all_goals cases negated <;> exact .error _ _ _
  | connect c =>
    rcases h with _ | ⟨ha, _ | ⟨hb, _ | ⟨_, _⟩⟩⟩
    case cons.cons.nil => exact c.joined_eval ha hb
    all_goals exact .error _ _ _
  | not =>
    rcases h with _ | ⟨ha, _ | ⟨_, _⟩⟩
    case cons.nil => exact joined_opposite ha
    all_goals exact .error _ _ _
  | isNull =>
    rcases h with _ | ⟨ha, _ | ⟨_, _⟩⟩
    case cons.nil => exact .ok (ha.mapCells _ _)
    all_goals exact .error _ _ _
  | choose =>
    rcases h with _ | ⟨ha, _ | ⟨hb, _ | ⟨hc, _ | ⟨_, _⟩⟩⟩⟩
    case cons.cons.cons.nil => exact joined_chosen ha hb hc
    all_goals exact .error _ _ _
  | cast target strict =>
    rcases h with _ | ⟨ha, _ | ⟨_, _⟩⟩
    case cons.nil => exact .ok (joined_castOutcome target strict ha)
    all_goals exact .error _ _ _
  | time f =>
    rcases h with _ | ⟨ha, _ | ⟨_, _⟩⟩
    case cons.nil => exact .ok (f.joined_eval ha hlocal)
    all_goals exact .error _ _ _
  | field name =>
    rcases h with _ | ⟨ha, _ | ⟨_, _⟩⟩
    case cons.nil => exact joined_fieldOf name ha
    all_goals exact .error _ _ _

end Function

end Sql

end FocusBilling
