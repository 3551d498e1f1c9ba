import FocusBilling.Proofs.Sql.Missing

/-!
# Cells that lack no column

Cells are computed when they are asked for, and that may fail: a text is no number, or an hour lacks
its minute.  It never fails for want of a column, as columns are looked up before.

* `Function.neverLacks_cells`, `Total.neverLacks_cells` : functions and totals of such cells;
* `Grid.Holds` : a table inside a query, whose columns have such cells;
* `Formula.AtHand` : a formula whose lists of values are at hand;
* `Formula.neverLacks_cells` : **the cells of a formula lack no column.**
-/

namespace FocusBilling

namespace Sql

variable {α β : Type}

@[simp] theorem neverLacks_map {x : Except FrameError α} {f : α → β} :
    NeverLacks (x.map f) ↔ NeverLacks x := by
  cases x <;> simp [Except.map]

theorem NeverLacks.bind_of_ok {x : Except FrameError α} {f : α → Except FrameError β}
    (hx : NeverLacks x) (hf : ∀ a, x = .ok a → NeverLacks (f a)) : NeverLacks (x >>= f) := by
  cases x with
  | error e => exact fun n h => hx n (by cases h; rfl)
  | ok a => exact hf a rfl

theorem neverLacks_mapM {f : α → Except FrameError β} {xs : List α}
    (h : ∀ x ∈ xs, NeverLacks (f x)) : NeverLacks (xs.mapM f) := by
  induction xs with
  | nil => exact neverLacks_pure _
  | cons x xs ih =>
    rw [List.mapM_cons]
    refine (h x List.mem_cons_self).bind fun _ => ?_
    exact (ih fun y hy => h y (List.mem_cons_of_mem _ hy)).bind fun _ => neverLacks_pure _

/-! ### Cells that change their type -/

theorem neverLacks_castTo {s t : DType} {strict : Bool} {c : Cell} :
    NeverLacks (c.castTo s t strict) := by
  unfold Cell.castTo
  dsimp only
  repeat' split
  all_goals simp

/-! ### Outcomes -/

namespace Outcome

variable {a b x y o : Outcome} {os us : List Outcome} {t : DType}

@[simp] theorem neverLacks_toType : NeverLacks (a.toType t).cells ↔ NeverLacks a.cells := by
  unfold toType
  split <;> simp

@[simp] theorem neverLacks_settled : NeverLacks a.settled.cells ↔ NeverLacks a.cells :=
  neverLacks_toType

@[simp] theorem neverLacks_mapCells {f : Cell → Cell} :
    NeverLacks (a.mapCells t f).cells ↔ NeverLacks a.cells := by
  simp [mapCells]

@[simp] theorem neverLacks_failing : NeverLacks (failing t .wrongType).cells := by
  simp [failing]

theorem neverLacks_sideBySide (h : ∀ o ∈ os, NeverLacks o.cells) : NeverLacks (sideBySide os) := by
  refine (neverLacks_mapM fun o ho => ?_).bind fun _ => neverLacks_pure _
  exact (h o ho).bind fun _ => neverLacks_pure _

theorem neverLacks_rowwise? {f : List Cell → Except FrameError Cell}
    (hf : ∀ cs, NeverLacks (f cs)) (h : ∀ o ∈ os, NeverLacks o.cells) :
    NeverLacks (rowwise? t f os).cells :=
  (neverLacks_sideBySide h).bind fun _ => neverLacks_mapM fun cs _ => hf cs

theorem neverLacks_rowwise {f : List Cell → Cell} (h : ∀ o ∈ os, NeverLacks o.cells) :
    NeverLacks (rowwise t f os).cells :=
  neverLacks_rowwise? (fun _ => neverLacks_ok _) h

/-- Two outcomes brought to one type. -/
theorem eq_toType_of_paired (h : paired a b = .ok (x, y, t)) : x = a.toType t ∧ y = b.toType t := by
  unfold paired at h
  split at h
  · cases h
    exact ⟨rfl, rfl⟩
  · cases h

theorem neverLacks_of_paired (ha : NeverLacks a.cells) (hb : NeverLacks b.cells)
    (h : paired a b = .ok (x, y, t)) : ∀ o ∈ [x, y], NeverLacks o.cells := by
  obtain ⟨rfl, rfl⟩ := eq_toType_of_paired h
  simp [ha, hb]

theorem neverLacks_of_unified (hos : ∀ o ∈ os, NeverLacks o.cells) (h : unified os = .ok (us, t)) :
    ∀ u ∈ us, NeverLacks u.cells := by
  cases os with
  | nil => cases h
  | cons o os =>
    simp only [unified, bind_eq_ok, pure_eq_ok, Prod.mk.injEq] at h
    obtain ⟨_, _, rfl, rfl⟩ := h
    intro u hu
    obtain ⟨o, ho, rfl⟩ := List.mem_map.1 hu
    exact neverLacks_toType.2 (hos o ho)

end Outcome

/-! ### Functions -/

section Function

variable {a b c o : Outcome} {os : List Outcome}

theorem Arithmetic.neverLacks_cells {op : Arithmetic} (ha : NeverLacks a.cells)
    (hb : NeverLacks b.cells) (h : op.eval a b = .ok o) : NeverLacks o.cells := by
  unfold Arithmetic.eval at h
  split at h
  · cases h
    unfold Arithmetic.folded
    split <;> exact neverLacks_ok _
  split at h
  · cases h
  split at h
  · cases h
  obtain ⟨⟨x, y, t⟩, hpaired, h⟩ := bind_eq_ok.1 h
  dsimp only at h
  split at h
  · cases h
  · cases h
    exact Outcome.neverLacks_rowwise (Outcome.neverLacks_of_paired ha hb hpaired)

theorem Connective.neverLacks_cells {c : Connective} (ha : NeverLacks a.cells)
    (hb : NeverLacks b.cells) (h : c.eval a b = .ok o) : NeverLacks o.cells := by
  obtain ⟨⟨x, y, t⟩, hpaired, h⟩ := bind_eq_ok.1 h
  have hcells := Outcome.neverLacks_of_paired ha hb hpaired
  dsimp only at h
  split at h <;> cases h
  · exact Outcome.neverLacks_rowwise hcells
  · exact Outcome.neverLacks_rowwise hcells
  · exact Outcome.neverLacks_failing

theorem neverLacks_cells_opposite (ha : NeverLacks a.cells) (h : opposite a = .ok o) :
    NeverLacks o.cells := by
  unfold opposite at h
  split at h <;> cases h <;> simpa using ha

theorem neverLacks_cells_tested {test : Cell → Cell → Cell} (ha : NeverLacks a.cells)
    (hb : NeverLacks b.cells) (h : tested test a b = .ok o) : NeverLacks o.cells := by
  unfold tested at h
  split at h
  · cases h
  · obtain ⟨⟨x, y, t⟩, hpaired, ⟨⟩⟩ := bind_eq_ok.1 h
    exact Outcome.neverLacks_rowwise (Outcome.neverLacks_of_paired ha hb hpaired)

theorem neverLacks_cells_among (ha : NeverLacks a.cells) (hb : NeverLacks b.cells)
    (h : among a b = .ok o) : NeverLacks o.cells := by
  obtain ⟨⟨x, y⟩, hmatchable, ⟨⟩⟩ := bind_eq_ok.1 h
  have hxy : NeverLacks x.cells ∧ NeverLacks y.cells := by
    unfold matchable at hmatchable
    dsimp only at hmatchable
    repeat' split at hmatchable
    all_goals cases hmatchable
    all_goals simp [ha, hb]
  exact hxy.2.bind fun _ => hxy.1.bind fun _ => neverLacks_pure _

theorem neverLacks_cells_chosen (ha : NeverLacks a.cells) (hb : NeverLacks b.cells)
    (hc : NeverLacks c.cells) (h : chosen a b c = .ok o) : NeverLacks o.cells := by
  unfold chosen at h
  split at h
  · cases h
  next x y t hpaired =>
    split at h <;> cases h
    · refine Outcome.neverLacks_rowwise fun o ho => ?_
      have hxy := Outcome.neverLacks_of_paired ha hb hpaired
      simp only [List.mem_cons, List.not_mem_nil, or_false] at ho hxy
      obtain rfl | rfl | rfl := ho
      exacts [hxy _ (.inl rfl), hxy _ (.inr rfl), hc]
    · exact Outcome.neverLacks_failing

theorem neverLacks_cells_firstPresent (hos : ∀ a ∈ os, NeverLacks a.cells)
    (h : firstPresent os = .ok o) : NeverLacks o.cells := by
  unfold firstPresent at h
  split at h
  · cases h
  next us t hunified =>
    cases h
    exact Outcome.neverLacks_rowwise (Outcome.neverLacks_of_unified hos hunified)

theorem neverLacks_cells_extreme {greatest : Bool} (hos : ∀ a ∈ os, NeverLacks a.cells)
    (h : extreme greatest os = .ok o) : NeverLacks o.cells := by
  unfold extreme at h
  split at h
  next u us t hunified =>
    cases h
    have hus := Outcome.neverLacks_of_unified hos hunified
    clear hunified
    induction us generalizing u with
    | nil => exact hus u List.mem_cons_self
    | cons v us ih =>
      refine ih _ fun w hw => ?_
      rcases List.mem_cons.1 hw with rfl | hw
      · exact (hus u (by simp)).bind fun _ => (hus v (by simp)).bind fun _ => neverLacks_pure _
      · exact hus w (by simp [hw])
  next => cases h

theorem neverLacks_castOutcome {t : DType} {strict : Bool} (ha : NeverLacks a.cells) :
    NeverLacks (castOutcome t strict a).cells := by
  refine Outcome.neverLacks_rowwise? (fun cs => ?_) (by simpa using ha)
  split
  · exact neverLacks_castTo
  · exact neverLacks_ok _

theorem neverLacks_cells_fieldOf {name : String} (ha : NeverLacks a.cells)
    (h : fieldOf name a = .ok o) : NeverLacks o.cells := by
  unfold fieldOf at h
  repeat' split at h
  all_goals cases h
  simpa using ha

/-! ### Functions of numbers -/

namespace NumberFunction

theorem neverLacks_real (f : NumberFunction) (ha : NeverLacks a.cells) :
    NeverLacks (f.real a).cells := by
  unfold real
  dsimp only
  split
  · simpa using ha
  · simp

theorem neverLacks_arcTo (ha : NeverLacks a.cells) (hb : NeverLacks b.cells) :
    NeverLacks (arcTo a b).cells := by
  unfold arcTo
  dsimp only
  split
  · exact Outcome.neverLacks_rowwise (by simp [ha, hb])
  · simp

theorem neverLacks_powerCell {t : DType} {one : Bool} {c d : Cell} :
    NeverLacks (powerCell t one c d) := by
  unfold powerCell
  repeat' split
  all_goals simp

theorem neverLacks_raised (ha : NeverLacks a.cells) (hb : NeverLacks b.cells) :
    NeverLacks (raised a b).cells := by
  unfold raised
  dsimp only
  split
  · refine Outcome.neverLacks_rowwise? (fun cs => ?_) ?_
    · split
      · exact neverLacks_powerCell
      · exact neverLacks_ok _
    · split <;> simp [ha, hb]
  · simp

theorem neverLacks_cells {f : NumberFunction} (hos : ∀ a ∈ os, NeverLacks a.cells)
    (h : f.eval os = .ok o) : NeverLacks o.cells := by
  unfold eval at h
  split at h
  case h_7 =>
    cases h
    exact neverLacks_arcTo (hos _ (by simp)) (hos _ (by simp))
  case h_8 =>
    cases h
    exact neverLacks_raised (hos _ (by simp)) (hos _ (by simp))
  case h_9 =>
    cases h
    exact neverLacks_real _ (hos _ (by simp))
  case h_10 => cases h
  -- the functions that keep the type of a number
  all_goals
    have ha := hos _ List.mem_cons_self
    split at h
    · cases h
      simpa using ha
    split at h <;> cases h
    · exact ha
    · exact Outcome.neverLacks_failing

end NumberFunction

/-! ### Functions of texts -/

namespace TextFunction

theorem neverLacks_onCells {f : TextFunction} {cs : List Cell} : NeverLacks (f.onCells cs) := by
  have hregex : ∀ p, NeverLacks (regexOf p) := by
    intro p
    unfold regexOf
    split <;> simp
  unfold onCells
  split
  case h_9 | h_10 => exact (hregex _).bind fun _ => neverLacks_pure _
  all_goals exact neverLacks_ok _

theorem neverLacks_of_asTexts {us : List Outcome} (hos : ∀ a ∈ os, NeverLacks a.cells)
    (h : asTexts os = some us) : ∀ u ∈ us, NeverLacks u.cells := by
  unfold asTexts at h
  split at h
  next hunified =>
    split at h <;> cases h
    exact Outcome.neverLacks_of_unified hos hunified
  next => cases h

theorem neverLacks_of_accepted {f : TextFunction} {us : List Outcome}
    (hos : ∀ a ∈ os, NeverLacks a.cells) (h : f.accepted os = some us) :
    ∀ u ∈ us, NeverLacks u.cells := by
  unfold accepted at h
  split at h
  case h_1 | h_2 =>
    split at h <;> cases h
    simp only [List.forall_mem_cons] at hos
    simp [hos, neverLacks_castOutcome]
  case h_3 =>
    split at h
    · exact neverLacks_of_asTexts hos h
    · cases h
  case h_4 =>
    cases h
    simpa using hos
  case h_9 =>
    split at h <;> cases h
    exact hos
  all_goals exact neverLacks_of_asTexts hos h

theorem neverLacks_cells {f : TextFunction} (hos : ∀ a ∈ os, NeverLacks a.cells) :
    NeverLacks (f.eval os).cells := by
  unfold eval
  split
  next haccepted =>
    exact Outcome.neverLacks_rowwise? (fun _ => neverLacks_onCells)
      (neverLacks_of_accepted hos haccepted)
  next => exact Outcome.neverLacks_failing

end TextFunction

/-! ### Functions of dates and times -/

theorem neverLacks_label {z : Zone} {ambiguous : AmbiguousTime} {fails : Bool} {u : TimeUnit}
    {wall : Int} : NeverLacks (z.label ambiguous fails u wall) := by
  unfold Zone.label
  dsimp only
  repeat' split
  all_goals simp

theorem neverLacks_read {p : DatetimePattern} {s : String} : NeverLacks (p.read s) := by
  unfold DatetimePattern.read
  dsimp only
  repeat' split
  all_goals first
    | exact neverLacks_label
    | simp

theorem neverLacks_readAll {p : InferredDatetime} {texts : List (Option String)} :
    NeverLacks (p.readAll texts) := by
  have hinstant : ∀ {l text m}, NeverLacks (p.instant l text m) := by
    intro l text m
    unfold InferredDatetime.instant
    dsimp only
    repeat' split
    all_goals first
      | exact neverLacks_label
      | simp
  unfold InferredDatetime.readAll
  repeat' split
  case h_2.isFalse => exact neverLacks_mapM fun _ _ => hinstant
  all_goals simp

theorem TimeField.neverLacks_eval (f : TimeField) (ha : NeverLacks a.cells) :
    NeverLacks (f.eval a).cells := by
  unfold TimeField.eval
  dsimp only
  repeat' split
  all_goals simp [ha]

namespace TimeFunction

theorem neverLacks_reading {t : DType} {f : List (Option String) → Except FrameError (List Cell)}
    (hf : ∀ texts, NeverLacks (f texts)) (ha : NeverLacks a.cells) :
    NeverLacks (reading t f a).cells := by
  unfold reading
  split
  · exact ha.bind fun _ => hf _
  · simp

theorem neverLacks_present {texts : List (Option String)} {values : List (Option Int)} :
    NeverLacks (present texts values) := by
  refine neverLacks_mapM fun x _ => ?_
  dsimp only
  split <;> simp

theorem neverLacks_inferDays {texts : List (Option String)} : NeverLacks (inferDays texts) := by
  unfold inferDays
  dsimp only
  repeat' split
  all_goals simp

theorem neverLacks_readBy {p : DatetimePattern} {texts : List (Option String)} :
    NeverLacks (readBy p texts) := by
  unfold readBy
  split
  · simp
  · refine neverLacks_mapM fun x _ => ?_
    split
    · exact neverLacks_map.2 neverLacks_read
    · simp

theorem neverLacks_formattedCell {pattern : String} {t : DType} {c : Cell} :
    NeverLacks (formattedCell pattern t c) := by
  unfold formattedCell
  dsimp only
  repeat' split
  all_goals simp

theorem neverLacks_shifted (d : Duration) (ha : NeverLacks a.cells) :
    NeverLacks (shifted d a).cells := by
  unfold shifted
  split <;> simp [ha]

theorem neverLacks_eval (f : TimeFunction) (ha : NeverLacks a.cells) :
    NeverLacks (f.eval a).cells := by
  unfold eval
  split
  case h_1 => exact TimeField.neverLacks_eval _ ha
  case h_2 => exact neverLacks_shifted _ ha
  case h_3 =>
    split
    · refine Outcome.neverLacks_rowwise? (fun cs => ?_) (by simpa using ha)
      split
      · exact neverLacks_formattedCell
      · simp
    · simp
  case h_4 =>
    exact neverLacks_reading (fun _ => neverLacks_inferDays.bind fun _ => neverLacks_present) ha
  case h_5 => exact neverLacks_reading (fun _ => neverLacks_present) ha
  case h_6 => exact neverLacks_reading (fun _ => neverLacks_readBy) ha
  case h_7 =>
    exact neverLacks_reading (fun _ => neverLacks_readAll.bind fun _ => neverLacks_pure _) ha

end TimeFunction

/-! ### All functions -/

/-- A function of outcomes whose cells lack no column. -/
theorem Function.neverLacks_cells {f : Function} (hos : ∀ a ∈ os, NeverLacks a.cells)
    (h : f.eval os = .ok o) : NeverLacks o.cells := by
  unfold Function.eval at h
  split at h <;> try simp only [List.forall_mem_cons] at hos
  case h_4 =>
    obtain ⟨x, hx, h⟩ := bind_eq_ok.1 h
    exact neverLacks_cells_opposite (neverLacks_cells_tested hos.1 hos.2.1 hx) h
  case h_1 => exact Arithmetic.neverLacks_cells hos.1 hos.2.1 h
  case h_2 | h_3 => exact neverLacks_cells_tested hos.1 hos.2.1 h
  case h_5 => exact Connective.neverLacks_cells hos.1 hos.2.1 h
  case h_6 => exact neverLacks_cells_opposite hos.1 h
  case h_7 =>
    cases h
    exact Outcome.neverLacks_mapCells.2 hos.1
  case h_8 => exact neverLacks_cells_chosen hos.1 hos.2.1 hos.2.2.1 h
  case h_9 =>
    cases h
    exact neverLacks_castOutcome hos.1
  case h_10 => exact neverLacks_cells_firstPresent hos h
  case h_11 => exact neverLacks_cells_extreme hos h
  case h_12 => exact neverLacks_cells_among hos.1 hos.2.1 h
  case h_13 => exact NumberFunction.neverLacks_cells hos h
  case h_14 =>
    cases h
    exact TextFunction.neverLacks_cells hos
  case h_15 =>
    cases h
    exact TimeFunction.neverLacks_eval _ hos.1
  case h_16 => exact neverLacks_cells_fieldOf hos.1 h
  case h_17 => cases h

/-- A total of outcomes whose cells lack no column, over a number of rows that can be told. -/
theorem Total.neverLacks_cells {f : Total} {rows : Option (Except FrameError Nat)}
    (hrows : ∀ n ∈ rows, NeverLacks n) (hos : ∀ a ∈ os, NeverLacks a.cells)
    (h : f.eval rows os = .ok o) : NeverLacks o.cells := by
  unfold Total.eval at h
  split at h <;> try simp only [List.forall_mem_cons] at hos
  case h_1 =>
    obtain ⟨t, _, h⟩ := bind_eq_ok.1 h
    split at h <;> cases h
    · exact Outcome.neverLacks_failing (t := t)
    · refine (Outcome.neverLacks_settled.2 hos.1).bind fun cells => ?_
      dsimp only
      split
      · exact (hrows _ rfl).bind fun _ => neverLacks_pure _
      · exact neverLacks_pure _
  case h_2 =>
    obtain ⟨⟨x, y, t⟩, hpaired, h⟩ := bind_eq_ok.1 h
    obtain ⟨_, _, ⟨⟩⟩ := bind_eq_ok.1 h
    have hxy := Outcome.neverLacks_of_paired hos.1 hos.2.1 hpaired
    exact (Outcome.neverLacks_sideBySide hxy).bind fun _ => neverLacks_pure _
  case h_3 => cases h

end Function

/-! ### Tables inside a query -/

namespace Grid

variable {g : Grid} {o : Outcome} {os : List Outcome}

/-- A table inside a query whose number of rows can be told, or fails for another reason than a
missing column, and so each of its cells. -/
structure Holds (g : Grid) : Prop where
  count : NeverLacks g.count
  columns : ∀ c ∈ g.columns, NeverLacks c.2.cells

theorem Holds.column {n : String} (hg : g.Holds) (h : g.column n = .ok o) :
    NeverLacks o.cells := by
  unfold Grid.column at h
  split at h <;> cases h
  next d hlookup =>
    obtain ⟨before, after, hcolumns, -⟩ := List.lookup_eq_some_iff.1 hlookup
    exact hg.columns (n, d) (by simp [hcolumns])

theorem neverLacks_spread {count : Except FrameError Nat} (hcount : NeverLacks count)
    (ho : NeverLacks o.cells) : NeverLacks (spread count o).cells := by
  unfold spread
  dsimp only
  split
  · exact hcount.bind fun _ => (Outcome.neverLacks_settled.2 ho).bind fun _ => neverLacks_pure _
  · exact Outcome.neverLacks_settled.2 ho

theorem Holds.rowsOf (hg : g.Holds) (hos : ∀ o ∈ os, NeverLacks o.cells) :
    NeverLacks (g.rowsOf os) :=
  hg.count.bind fun _ => (neverLacks_mapM fun o ho =>
    neverLacks_spread (neverLacks_ok _) (hos o ho)).bind fun _ => neverLacks_pure _

theorem Holds.pick (hg : g.Holds) (rows : List Nat) : (g.pick (.ok rows)).Holds where
  count := neverLacks_ok _
  columns c hc := by
    obtain ⟨d, hd, rfl⟩ := List.mem_map.1 hc
    exact (hg.columns d hd).bind fun _ => neverLacks_pure _

@[simp] theorem names_pick (positions : Except FrameError (List Nat)) :
    (g.pick positions).names = g.names := by
  simp [Grid.pick, pickOption, names, Function.comp_def]

end Grid

/-! ### Formulas -/

namespace Formula

mutual

/-- A formula whose lists of values are at hand. -/
def AtHand : Formula → Prop
  | listed d => ∃ cells, d.cells = .ok cells
  | apply _ args | total _ args => AllAtHand args
  | windowed a keys | sorted a keys _ => AtHand a ∧ AllAtHand keys
  | running _ a | named a _ => AtHand a
  | column _ | constant .. | whole _ | fraction _ | rowCount => True

/-- Formulas whose lists of values are at hand. -/
def AllAtHand : List Formula → Prop
  | [] => True
  | a :: as => AtHand a ∧ AllAtHand as

end

@[simp] theorem allAtHand_iff {as : List Formula} : AllAtHand as ↔ ∀ a ∈ as, AtHand a := by
  induction as with
  | nil => simp [AllAtHand]
  | cons a as ih => simp [AllAtHand, ih]

variable {isGroup : Bool} {g : Grid} {n : String}

mutual

/-- A formula that comes to something reads columns only that are there. -/
theorem mem_names_of_eval {o : Outcome} : ∀ {a : Formula}, a.eval isGroup g = .ok o →
    n ∈ a.reads → n ∈ g.names
  | .column m, h, hn => by
    obtain rfl := List.mem_singleton.1 hn
    rw [eval, Grid.column] at h
    split at h <;> cases h
    next d hlookup =>
      obtain ⟨before, after, hcolumns, -⟩ := List.lookup_eq_some_iff.1 hlookup
      simp [Grid.names, hcolumns]
  | .constant .., _, hn | .whole _, _, hn | .fraction _, _, hn | .listed _, _, hn
  | .rowCount, _, hn => by cases hn
  | .apply f args, h, hn => by
    rw [eval] at h
    obtain ⟨os, hos, _⟩ := bind_eq_ok.1 h
    exact mem_names_of_evalAll hos hn
  | .total f args, h, hn => by
    rw [eval] at h
    obtain ⟨os, hos, _⟩ := bind_eq_ok.1 h
    exact mem_names_of_evalAll hos hn
  | .windowed a keys, h, hn => by
    rw [eval] at h
    obtain ⟨o, ho, h⟩ := bind_eq_ok.1 h
    obtain ⟨os, hos, _⟩ := bind_eq_ok.1 h
    exact (List.mem_append.1 hn).elim (mem_names_of_eval ho) (mem_names_of_evalAll hos)
  | .sorted a keys ds, h, hn => by
    rw [eval] at h
    obtain ⟨o, ho, h⟩ := bind_eq_ok.1 h
    obtain ⟨os, hos, _⟩ := bind_eq_ok.1 h
    exact (List.mem_append.1 hn).elim (mem_names_of_eval ho) (mem_names_of_evalAll hos)
  | .running f a, h, hn => by
    rw [eval] at h
    obtain ⟨o, ho, _⟩ := bind_eq_ok.1 h
    exact mem_names_of_eval (a := a) ho hn
  | .named a _, h, hn => by
    rw [eval] at h
    exact mem_names_of_eval (a := a) h hn

theorem mem_names_of_evalAll {os : List Outcome} : ∀ {as : List Formula},
    evalAll isGroup g as = .ok os → n ∈ readsAll as → n ∈ g.names
  | [], _, hn => by cases hn
  | a :: as, h, hn => by
    rw [evalAll] at h
    obtain ⟨o, ho, h⟩ := bind_eq_ok.1 h
    obtain ⟨os, hos, _⟩ := bind_eq_ok.1 h
    exact (List.mem_append.1 hn).elim (mem_names_of_eval ho) (mem_names_of_evalAll hos)

end

mutual

/-- **The cells of a formula lack no column**, where those of the table lack none. -/
theorem neverLacks_cells {isGroup : Bool} {g : Grid} (hg : g.Holds) {o : Outcome} :
    ∀ {a : Formula}, a.AtHand → a.eval isGroup g = .ok o → NeverLacks o.cells
  | .column m, _, h => by
    rw [eval] at h
    exact hg.column h
  | .constant .., _, h | .whole _, _, h | .fraction _, _, h => by
    rw [eval] at h
    cases h
    exact neverLacks_ok _
  | .listed d, ⟨cells, hcells⟩, h => by
    rw [eval] at h
    cases h
    rw [Outcome.ofColumn, hcells]
    exact neverLacks_ok _
  | .rowCount, _, h => by
    rw [eval] at h
    cases h
    exact neverLacks_map.2 (hg.count.bind fun _ => neverLacks_pure _)
  | .apply f args, hargs, h => by
    rw [eval] at h
    obtain ⟨os, hos, h⟩ := bind_eq_ok.1 h
    exact Function.neverLacks_cells (neverLacks_cellsAll hg hargs hos) h
  | .total f args, hargs, h => by
    rw [eval] at h
    obtain ⟨os, hos, h⟩ := bind_eq_ok.1 h
    refine Total.neverLacks_cells (fun n hn => ?_) (neverLacks_cellsAll hg hargs hos) h
    split at hn <;> cases hn
    exact hg.count
  | .windowed a keys, ⟨ha, hkeys⟩, h => by
    rw [eval] at h
    obtain ⟨o, ho, h⟩ := bind_eq_ok.1 h
    obtain ⟨os, hos, h⟩ := bind_eq_ok.1 h
    dsimp only at h
    split at h <;> cases h
    refine (hg.rowsOf (neverLacks_cellsAll hg hkeys hos)).bind fun rows => ?_
    refine (neverLacks_mapM fun part _ => ?_).bind fun _ => neverLacks_pure _
    -- a part of the rows has all columns that the whole has
    refine NeverLacks.bind_of_ok (fun n hn => ?_) fun p hp => ?_
    · obtain ⟨hread, hlacks⟩ := mem_reads_of_missing hn
      rw [Grid.names_pick] at hlacks
      exact hlacks (mem_names_of_eval ho hread)
    · exact (Grid.neverLacks_spread (neverLacks_ok _)
        (neverLacks_cells (hg.pick part) ha hp)).bind fun _ => neverLacks_pure _
  | .sorted a keys ds, ⟨ha, hkeys⟩, h => by
    rw [eval] at h
    obtain ⟨o, ho, h⟩ := bind_eq_ok.1 h
    obtain ⟨os, hos, ⟨⟩⟩ := bind_eq_ok.1 h
    have hcells := neverLacks_cells hg ha ho
    dsimp only
    split
    · exact hcells
    · exact (hg.rowsOf (neverLacks_cellsAll hg hkeys hos)).bind fun _ =>
        hcells.bind fun _ => neverLacks_pure _
  | .running f a, ha, h => by
    rw [eval] at h
    obtain ⟨o, ho, h⟩ := bind_eq_ok.1 h
    obtain ⟨t, _, ⟨⟩⟩ := bind_eq_ok.1 h
    exact neverLacks_map.2 (Outcome.neverLacks_settled.2 (neverLacks_cells (a := a) hg ha ho))
  | .named a _, ha, h => by
    rw [eval] at h
    exact neverLacks_cells (a := a) hg ha h

theorem neverLacks_cellsAll {isGroup : Bool} {g : Grid} (hg : g.Holds) {os : List Outcome} :
    ∀ {as : List Formula}, AllAtHand as → evalAll isGroup g as = .ok os →
      ∀ o ∈ os, NeverLacks o.cells
  | [], _, h => by
    cases h
    exact nofun
  | a :: as, ⟨ha, has⟩, h => by
    rw [evalAll] at h
    obtain ⟨o, ho, h⟩ := bind_eq_ok.1 h
    obtain ⟨os, hos, ⟨⟩⟩ := bind_eq_ok.1 h
    exact List.forall_mem_cons.2 ⟨neverLacks_cells hg ha ho, neverLacks_cellsAll hg has hos⟩

end

end Formula

end Sql

end FocusBilling
