import FocusBilling.Proofs.Steps
import FocusBilling.Sql.Formula

/-!
# Columns that formulas lack

A formula fails for want of a column only where it reads one that the table does not have.

* `NeverLacks` : a result that does not fail for want of a column;
* `Function.neverLacks`, `Total.neverLacks` : functions and totals of outcomes that are at hand;
* `Formula.mem_reads_of_missing` : **a formula that fails so reads that column, and the table does
  not have it.**
-/

namespace FocusBilling

namespace Sql

variable {α β : Type}

/-- A result that does not fail for want of a column. -/
def NeverLacks (x : Except FrameError α) : Prop := ∀ n, x ≠ .error (.missingColumn n)

@[simp] theorem neverLacks_ok (a : α) : NeverLacks (.ok a : Except FrameError α) := by
  intro n h
  cases h

@[simp] theorem neverLacks_pure (a : α) : NeverLacks (pure a : Except FrameError α) :=
  neverLacks_ok a

@[simp] theorem neverLacks_error {e : FrameError} :
    NeverLacks (.error e : Except FrameError α) ↔ ∀ n, e ≠ .missingColumn n := by
  simp [NeverLacks]

theorem NeverLacks.bind {x : Except FrameError α} {f : α → Except FrameError β}
    (hx : NeverLacks x) (hf : ∀ a, NeverLacks (f a)) : NeverLacks (x >>= f) := by
  cases x with
  | error e => exact fun n h => hx n (by cases h; rfl)
  | ok a => exact hf a

/-- Where one step behind another fails, one of them does. -/
theorem bind_eq_error {x : Except FrameError α} {f : α → Except FrameError β} {e : FrameError}
    (h : x >>= f = .error e) : x = .error e ∨ ∃ a, x = .ok a ∧ f a = .error e := by
  cases x with
  | error e' =>
    cases h
    exact .inl rfl
  | ok a => exact .inr ⟨a, rfl, h⟩

/-! ### Outcomes -/

namespace Outcome

variable {a b : Outcome}

theorem neverLacks_paired : NeverLacks (paired a b) := by
  unfold paired
  split <;> simp

end Outcome

/-! ### Functions -/

section Function

variable {a b : Outcome} {os : List Outcome}

theorem Arithmetic.neverLacks (op : Arithmetic) : NeverLacks (op.eval a b) := by
  unfold Arithmetic.eval
  split
  · simp
  split
  · simp
  split
  · simp
  refine Outcome.neverLacks_paired.bind fun ⟨x, y, t⟩ => ?_
  dsimp only
  split <;> simp

theorem Connective.neverLacks (c : Connective) : NeverLacks (c.eval a b) := by
  unfold Connective.eval
  refine Outcome.neverLacks_paired.bind fun ⟨x, y, t⟩ => ?_
  dsimp only
  split <;> simp

theorem neverLacks_opposite : NeverLacks (opposite a) := by
  unfold opposite
  split <;> simp

theorem neverLacks_tested (test : Cell → Cell → Cell) : NeverLacks (tested test a b) := by
  unfold tested
  split
  · simp
  · exact Outcome.neverLacks_paired.bind fun _ => neverLacks_pure _

theorem neverLacks_among : NeverLacks (among a b) := by
  have hmatchable : NeverLacks (matchable a b) := by
    unfold matchable
    dsimp only
    split
    · simp
    split
    · split <;> simp
    · simp
  exact hmatchable.bind fun _ => neverLacks_pure _

theorem neverLacks_chosen {c : Outcome} : NeverLacks (chosen a b c) := by
  unfold chosen
  split
  · simp
  · split <;> simp

theorem neverLacks_firstPresent : NeverLacks (firstPresent os) := by
  unfold firstPresent
  split <;> simp

theorem neverLacks_extreme (greatest : Bool) : NeverLacks (extreme greatest os) := by
  unfold extreme
  split <;> simp

theorem neverLacks_fieldOf (name : String) : NeverLacks (fieldOf name a) := by
  unfold fieldOf
  split
  · split <;> simp
  · simp

theorem NumberFunction.neverLacks (f : NumberFunction) : NeverLacks (f.eval os) := by
  unfold NumberFunction.eval
  split <;> (repeat' split) <;> simp

/-- A function of outcomes does not fail for want of a column. -/
theorem Function.neverLacks (f : Function) : NeverLacks (f.eval os) := by
  unfold Function.eval
  split
  -- inequality is the only function of two steps
  case h_4 => exact (neverLacks_tested _).bind fun _ => neverLacks_opposite
  all_goals first
    | exact Arithmetic.neverLacks _
    | exact neverLacks_tested _
    | exact Connective.neverLacks _
    | exact neverLacks_opposite
    | exact neverLacks_chosen
    | exact neverLacks_firstPresent
    | exact neverLacks_extreme _
    | exact neverLacks_among
    | exact NumberFunction.neverLacks _
    | exact neverLacks_fieldOf _
    | simp

theorem Total.neverLacks_result (f : Total) (t : DType) : NeverLacks (f.result t) := by
  unfold Total.result
  split
  · split <;> simp
  all_goals simp

/-- A total of outcomes does not fail for want of a column. -/
theorem Total.neverLacks (f : Total) (rows : Option (Except FrameError Nat)) :
    NeverLacks (f.eval rows os) := by
  unfold Total.eval
  split
  · refine (f.neverLacks_result _).bind fun t => ?_
    split <;> simp
  · refine Outcome.neverLacks_paired.bind fun ⟨x, y, t⟩ => ?_
    exact (f.neverLacks_result _).bind fun _ => neverLacks_pure _
  · simp

theorem Running.neverLacks_result (f : Running) (t : DType) : NeverLacks (f.result t) := by
  unfold Running.result
  split
  · split <;> simp
  all_goals simp

end Function

/-! ### Formulas -/

section Formula

variable {isGroup : Bool} {g : Grid} {n : String}

mutual

/-- A formula that fails for want of a column reads it, and the table does not have it. -/
theorem Formula.mem_reads_of_missing : ∀ {a : Formula},
    a.eval isGroup g = .error (.missingColumn n) → n ∈ a.reads ∧ n ∉ g.names
  | .column m, h => by
    rw [Formula.eval, Grid.column] at h
    split at h
    next => cases h
    next hlookup =>
      cases h
      refine ⟨by simp [Formula.reads], fun hmem => ?_⟩
      obtain ⟨c, hc, rfl⟩ := List.mem_map.1 hmem
      rw [List.lookup_eq_none_iff] at hlookup
      simpa using hlookup c hc
  | .constant .., h | .whole _, h | .fraction _, h | .listed _, h | .rowCount, h => by
    cases h
  | .apply f args, h => by
    rw [Formula.eval] at h
    obtain h | ⟨os, _, h⟩ := bind_eq_error h
    · exact Formula.mem_readsAll_of_missing h
    · exact absurd h (f.neverLacks n)
  | .total f args, h => by
    rw [Formula.eval] at h
    obtain h | ⟨os, _, h⟩ := bind_eq_error h
    · exact Formula.mem_readsAll_of_missing h
    · exact absurd h (f.neverLacks _ n)
  | .windowed a keys, h => by
    rw [Formula.eval] at h
    simp only [Formula.reads, List.mem_append]
    obtain h | ⟨o, _, h⟩ := bind_eq_error h
    · exact (Formula.mem_reads_of_missing h).imp .inl id
    obtain h | ⟨os, _, h⟩ := bind_eq_error h
    · exact (Formula.mem_readsAll_of_missing h).imp .inr id
    dsimp only at h
    split at h <;> cases h
  | .sorted a keys ds, h => by
    rw [Formula.eval] at h
    simp only [Formula.reads, List.mem_append]
    obtain h | ⟨o, _, h⟩ := bind_eq_error h
    · exact (Formula.mem_reads_of_missing h).imp .inl id
    obtain h | ⟨os, _, h⟩ := bind_eq_error h
    · exact (Formula.mem_readsAll_of_missing h).imp .inr id
    cases h
  | .running f a, h => by
    rw [Formula.eval] at h
    obtain h | ⟨o, _, h⟩ := bind_eq_error h
    · exact Formula.mem_reads_of_missing (a := a) h
    · exact absurd h (((f.neverLacks_result _).bind fun _ => neverLacks_pure _) n)
  | .named a _, h => by
    rw [Formula.eval] at h
    exact Formula.mem_reads_of_missing (a := a) h

theorem Formula.mem_readsAll_of_missing : ∀ {as : List Formula},
    Formula.evalAll isGroup g as = .error (.missingColumn n) → n ∈ Formula.readsAll as ∧ n ∉ g.names
  | [], h => by cases h
  | a :: as, h => by
    rw [Formula.evalAll] at h
    simp only [Formula.readsAll, List.mem_append]
    obtain h | ⟨o, _, h⟩ := bind_eq_error h
    · exact (Formula.mem_reads_of_missing h).imp .inl id
    obtain h | ⟨os, _, h⟩ := bind_eq_error h
    · exact (Formula.mem_readsAll_of_missing h).imp .inr id
    cases h

end

end Formula

end Sql

end FocusBilling
