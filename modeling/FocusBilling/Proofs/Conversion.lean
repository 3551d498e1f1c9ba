import FocusBilling.Batch.Convert

/-!
# What a conversion asks of its exporter

An exporter answers calls and changes its state at each of them.  Here it keeps a record of them,
so that all that a conversion asks of it can be read off its last state.

* `Exporter.recorded` : an exporter that keeps its calls with their answers;
* `HandedOver` : the calls that handing batches over may come to, step by step;
* `exportBatches_recorded` : the loop over the batches makes such calls and no others;
* `convert_calls` : **the calls of a whole conversion.**  Batches are applied and handed over in
  order up to the first failure, and the exporter is closed once, behind all other calls.

A failure behind which a batch is left over stands for all that might follow: the conversion of
the batches that were taken, whatever stands behind them, is the same.
-/

namespace FocusBilling

variable {S σ ε : Type}

/-- A call of an exporter, with its answer. -/
inductive ExportCall (σ ε : Type) where
  | collect (batch : AppliedBatch) (answer : Except (ConvertError σ ε) Nat)
  | close (answer : Except (ConvertError σ ε) Unit)

namespace Exporter

/-- An exporter that keeps its calls, the first first. -/
def recorded (x : Exporter S σ ε) : Exporter (S × List (ExportCall σ ε)) σ ε where
  collect batch s :=
    ((x.collect batch s.1).1,
      (x.collect batch s.1).2, s.2 ++ [.collect batch (x.collect batch s.1).1])
  close s := ((x.close s.1).1, (x.close s.1).2, s.2 ++ [.close (x.close s.1).1])

end Exporter

namespace CompiledPlan

/-- A batch with a plan applied, or what keeps it from an exporter. -/
def applied (p : CompiledPlan) : Except σ Table → Except (ConvertError σ ε) AppliedBatch
  | .error e => .error (.source e)
  | .ok t => (p.apply t).mapError .apply

/-- The calls that handing batches over may come to: how many batches are taken, the batches that
are handed over with the answers, and how it ends. -/
inductive HandedOver {σ ε : Type} (p : CompiledPlan) : List (Except σ Table) → Nat →
    List (AppliedBatch × Except (ConvertError σ ε) Nat) → Except (ConvertError σ ε) Unit → Prop
  /-- No batch is left. -/
  | done : HandedOver p [] 0 [] (.ok ())
  /-- The next batch cannot be applied. -/
  | unapplied {batch batches} {e : ConvertError σ ε} : p.applied batch = .error e →
      HandedOver p (batch :: batches) 1 [] (.error e)
  /-- The exporter refuses the next batch. -/
  | refused {batch batches a} {e : ConvertError σ ε} :
      p.applied batch = (.ok a : Except (ConvertError σ ε) AppliedBatch) →
      HandedOver p (batch :: batches) 1 [(a, .error e)] (.error e)
  /-- The exporter takes the next batch. -/
  | exported {batch batches a n taken handed outcome} :
      p.applied batch = (.ok a : Except (ConvertError σ ε) AppliedBatch) →
      HandedOver p batches taken handed outcome →
      HandedOver p (batch :: batches) (taken + 1) ((a, .ok n) :: handed) outcome

namespace HandedOver

variable {p : CompiledPlan} {batches : List (Except σ Table)} {taken : Nat}
  {handed : List (AppliedBatch × Except (ConvertError σ ε) Nat)}
  {outcome : Except (ConvertError σ ε) Unit}

/-- The number of rows that an answer gives. -/
def rowsOf : AppliedBatch × Except (ConvertError σ ε) Nat → Nat
  | (_, .ok n) => n
  | (_, .error _) => 0

theorem handed_eq (h : HandedOver p batches taken handed outcome) :
    (batches.take handed.length).map p.applied =
      handed.map fun c => (.ok c.1 : Except (ConvertError σ ε) AppliedBatch) := by
  induction h with
  | done | unapplied => rfl
  | refused ha => simp [ha]
  | exported ha _ ih => simp [ha, ih]

theorem of_ok (h : HandedOver p batches taken handed outcome) (ho : outcome = .ok ()) :
    handed.length = batches.length ∧ taken = batches.length ∧
      handed.map (·.2) = (handed.map rowsOf).map .ok := by
  induction h with
  | done => simp
  | unapplied | refused => cases ho
  | exported _ _ ih =>
    obtain ⟨hl, ht, ha⟩ := ih ho
    simp [hl, ht, ha, rowsOf]

theorem of_error (h : HandedOver p batches taken handed outcome) {e : ConvertError σ ε}
    (ho : outcome = .error e) :
    (taken = handed.length ∧
        ∃ rows : List Nat, handed.map (·.2) = rows.map .ok ++ [.error e]) ∨
      (taken = handed.length + 1 ∧ batches[handed.length]?.map p.applied = some (.error e) ∧
        ∃ rows : List Nat, handed.map (·.2) = rows.map .ok) := by
  induction h with
  | done => cases ho
  | unapplied ha =>
    cases ho
    exact .inr ⟨rfl, by simp [ha], [], rfl⟩
  | refused =>
    cases ho
    exact .inl ⟨rfl, [], rfl⟩
  | @exported _ _ _ n _ _ _ _ _ ih =>
    rcases ih ho with ⟨ht, rows, hr⟩ | ⟨ht, hb, rows, hr⟩
    · exact .inl ⟨by simp [ht], n :: rows, by simp [hr]⟩
    · exact .inr ⟨by simp [ht], by simpa using hb, n :: rows, by simp [hr]⟩

end HandedOver

/-! ### The loop over the batches -/

/-- The calls for batches that are handed over. -/
def collects (handed : List (AppliedBatch × Except (ConvertError σ ε) Nat)) :
    List (ExportCall σ ε) :=
  handed.map fun c => .collect c.1 c.2

/-- Progress without the record of calls. -/
def unrecorded (g : Progress (S × List (ExportCall σ ε))) : Progress S :=
  { g with state := g.state.1 }

variable (p : CompiledPlan) (x : Exporter S σ ε)

theorem exportBatches_cons (batch : Except σ Table) (batches : List (Except σ Table))
    (g : Progress S) :
    exportBatches p x (batch :: batches) g =
      match p.applied batch with
      | .error e => (.error e, { g with taken := g.taken + 1 })
      | .ok a =>
        match x.collect a g.state with
        | (.error e, s) => (.error e, { g with taken := g.taken + 1, state := s })
        | (.ok n, s) => exportBatches p x batches
            ⟨g.taken + 1, g.batches + 1, g.rows + n, s⟩ := by
  cases batch with
  | error e => rfl
  | ok t => rw [exportBatches.eq_def]; simp only [applied]; cases p.apply t <;> rfl

/-- **Handing batches over step by step.**  The loop makes the calls of `HandedOver` behind those
that the record held before, counts them, and goes on as the exporter would without a record. -/
theorem exportBatches_recorded (batches : List (Except σ Table))
    (g : Progress (S × List (ExportCall σ ε))) :
    ∃ taken handed,
      HandedOver p batches taken handed (exportBatches p x.recorded batches g).1 ∧
      (exportBatches p x.recorded batches g).2.taken = g.taken + taken ∧
      (exportBatches p x.recorded batches g).2.state.2 = g.state.2 ++ collects handed ∧
      ((exportBatches p x.recorded batches g).1 = .ok () →
        (exportBatches p x.recorded batches g).2.batches = g.batches + batches.length ∧
        (exportBatches p x.recorded batches g).2.rows =
          g.rows + (handed.map HandedOver.rowsOf).sum) ∧
      exportBatches p x batches (unrecorded g) =
        ((exportBatches p x.recorded batches g).1,
          unrecorded (exportBatches p x.recorded batches g).2) := by
  induction batches generalizing g with
  | nil =>
    exact ⟨0, [], .done, rfl, by simp [exportBatches, collects], by simp [exportBatches], rfl⟩
  | cons batch batches ih =>
    rw [exportBatches_cons, exportBatches_cons]
    cases ha : (p.applied batch : Except (ConvertError σ ε) AppliedBatch) with
    | error e => exact ⟨1, [], .unapplied ha, rfl, by simp [collects], by simp, rfl⟩
    | ok a =>
      simp only [Exporter.recorded, unrecorded]
      cases hc : x.collect a g.state.1 with
      | mk answer s =>
        cases answer with
        | error e => exact ⟨1, [(a, .error e)], .refused ha, rfl, rfl, by simp, rfl⟩
        | ok n =>
          -- the record of the batches behind starts with this call
          obtain ⟨taken, handed, hh, ht, hs, hr, hu⟩ :=
            ih ⟨g.taken + 1, g.batches + 1, g.rows + n, s, g.state.2 ++ [.collect a (.ok n)]⟩
          refine ⟨taken + 1, (a, .ok n) :: handed, .exported ha hh, ?_, ?_, fun ho => ?_, hu⟩
          · exact ht.trans (by simp only; omega)
          · exact hs.trans (by simp [collects])
          · obtain ⟨hb, hn⟩ := hr ho
            refine ⟨hb.trans (by simp only [List.length_cons]; omega), hn.trans ?_⟩
            simp only [List.map_cons, List.sum_cons, HandedOver.rowsOf]
            omega

/-- A failure does not depend on the batches behind those that were taken. -/
theorem exportBatches_take (batches : List (Except σ Table)) (g : Progress S)
    {e : ConvertError σ ε} (he : (exportBatches p x batches g).1 = .error e) :
    ∃ n, (exportBatches p x batches g).2.taken = g.taken + n ∧
      ∀ others, exportBatches p x (batches.take n ++ others) g = exportBatches p x batches g := by
  induction batches generalizing g with
  | nil => cases he
  | cons batch batches ih =>
    rw [exportBatches_cons] at he ⊢
    cases ha : (p.applied batch : Except (ConvertError σ ε) AppliedBatch) with
    | error e' => exact ⟨1, rfl, fun others => by simp [exportBatches_cons, ha]⟩
    | ok a =>
      rw [ha] at he
      cases hc : x.collect a g.state with
      | mk answer s =>
        cases answer with
        | error e' => exact ⟨1, by simp [hc], fun others => by simp [exportBatches_cons, ha, hc]⟩
        | ok n =>
          simp only [hc] at he ⊢
          obtain ⟨k, ht, hk⟩ := ih _ he
          refine ⟨k + 1, ?_, fun others => ?_⟩
          · exact ht.trans (Nat.add_right_comm g.taken 1 k)
          · simp [exportBatches_cons, ha, hc, hk]

/-! ### Whole conversions -/

theorem convert_result (batches : List (Except σ Table)) (start : S) :
    (p.convert x batches start).result =
      match (exportBatches p x batches ⟨0, 0, 0, start⟩).1 with
      | .error e => .error e
      | .ok () => (p.convert x batches start).closed.map fun _ =>
          ⟨p.provider, (p.convert x batches start).progress.batches,
            (p.convert x batches start).progress.rows⟩ := by
  simp only [convert]
  rcases (exportBatches p x batches ⟨0, 0, 0, start⟩) with ⟨_ | _, g⟩
  · rfl
  · simp only
    cases (x.close g.state).1 <;> rfl

theorem convert_congr {batches others : List (Except σ Table)} {start : S}
    (h : exportBatches p x batches ⟨0, 0, 0, start⟩ = exportBatches p x others ⟨0, 0, 0, start⟩) :
    p.convert x batches start = p.convert x others start := by
  rw [convert, convert, h]

/-- **The calls of a whole conversion.**  The exporter is handed the first batches, applied and in
order, one call for each, and is closed once behind them.  Either every batch is handed over and
taken, and the conversion comes to their numbers or to the failure to close; or it comes to the
first failure, that of the exporter at the last batch handed over or that of the next batch, and
neither the failure to close nor any batch behind changes this.  The record changes nothing. -/
theorem convert_calls (batches : List (Except σ Table)) (start : S) :
    let c := p.convert x.recorded batches (start, [])
    ∃ handed : List (AppliedBatch × Except (ConvertError σ ε) Nat),
      c.progress.state.2 = collects handed ++ [.close c.closed] ∧
      (batches.take handed.length).map p.applied =
        handed.map (fun h => (.ok h.1 : Except (ConvertError σ ε) AppliedBatch)) ∧
      ((∃ rows : List Nat, handed.map (·.2) = rows.map .ok ∧
          handed.length = batches.length ∧ c.progress.taken = batches.length ∧
          c.result = c.closed.map fun _ => ⟨p.provider, batches.length, rows.sum⟩) ∨
        (∃ e, ∃ rows : List Nat, c.result = .error e ∧
          ((handed.map (·.2) = rows.map .ok ++ [.error e] ∧ c.progress.taken = handed.length) ∨
            (handed.map (·.2) = rows.map .ok ∧ c.progress.taken = handed.length + 1 ∧
              batches[handed.length]?.map p.applied = some (.error e))) ∧
          ∀ others, p.convert x.recorded (batches.take c.progress.taken ++ others) (start, []) =
            c)) ∧
      c.result = (p.convert x batches start).result ∧
      c.closed = (p.convert x batches start).closed ∧
      c.progress.state.1 = (p.convert x batches start).progress.state := by
  intro c
  obtain ⟨taken, handed, hh, ht, hs, hr, hu⟩ :=
    exportBatches_recorded p x batches ⟨0, 0, 0, (start, [])⟩
  have hres := convert_result p x.recorded batches (start, [])
  have hplain : exportBatches p x batches ⟨0, 0, 0, start⟩ = _ := hu
  refine ⟨handed, ?_, hh.handed_eq, ?_, ?_, ?_, ?_⟩
  · change _ ++ _ = _
    rw [hs]
    rfl
  · cases ho : (exportBatches p x.recorded batches ⟨0, 0, 0, (start, [])⟩).1 with
    | ok u =>
      -- every batch was taken, so that only closing may fail
      obtain ⟨hl, htk, hans⟩ := hh.of_ok ho
      obtain ⟨hb, hn⟩ := hr ho
      refine .inl ⟨handed.map HandedOver.rowsOf, hans, hl, ?_, ?_⟩
      · exact ht.trans (by simp [htk])
      · rw [ho] at hres
        refine hres.trans (congrArg (Except.map · c.closed) ?_)
        funext _
        congr 1
        · exact hb.trans (Nat.zero_add _)
        · exact hn.trans (Nat.zero_add _)
    | error e =>
      -- the loop has failed, and closing does not change that
      have hre : c.result = .error e := by rw [ho] at hres; exact hres
      obtain ⟨n, hn, hall⟩ := exportBatches_take p x.recorded batches _ ho
      have htaken : c.progress.taken = n := hn.trans (by simp)
      have hothers : ∀ others,
          p.convert x.recorded (batches.take c.progress.taken ++ others) (start, []) = c := by
        intro others
        rw [htaken]
        exact convert_congr p x.recorded (hall others)
      rcases hh.of_error ho with ⟨hk, rows, hans⟩ | ⟨hk, hb, rows, hans⟩
      · exact .inr ⟨e, rows, hre, .inl ⟨hans, ht.trans (by simp [hk])⟩, hothers⟩
      · exact .inr ⟨e, rows, hre, .inr ⟨hans, ht.trans (by simp [hk]), hb⟩, hothers⟩
  -- without the record the exporter is asked the same
  all_goals
    simp only [c, convert, hplain]
    rfl

end CompiledPlan

end FocusBilling
