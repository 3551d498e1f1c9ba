import FocusBilling.Proofs.Steps
import FocusBilling.Proofs.Validation

/-!
# Wall-clock times of a zone

The instants that have a wall-clock time, and what a text that is read as such a time comes to.

* `Zone.resolved` : the instant of a wall-clock time that a setting picks, if there is one;
  `Zone.wall_of_resolved` : clocks show that time then;
* `Pattern.instantOf?_eq_none` : without a directive for the offset from UTC no text is an instant;
* `DatetimePattern.zonedRow` : one step for each row, in which two ways to read texts in a zone
  differ at times that clocks skip only;
* `DatetimePattern.run_readDatetime_zoned`, `DatetimePattern.run_assignZone` : the two ways.
-/

namespace FocusBilling

/-! ### Wall-clock times -/

namespace Zone

variable {z : Zone} {a : AmbiguousTime} {u : TimeUnit} {w t : Int}

/-- Clocks never show a wall-clock time. -/
def IsSkipped (z : Zone) (u : TimeUnit) (w : Int) : Prop := z.instants (Int.fdiv w u.perSecond) = []

/-- Clocks show a wall-clock time more than once. -/
def IsRepeated (z : Zone) (u : TimeUnit) (w : Int) : Prop :=
  1 < (z.instants (Int.fdiv w u.perSecond)).length

/-- The instant that a setting picks among those that have one wall-clock time, in order. -/
def picked (a : AmbiguousTime) (instants : List Int) : Option Int :=
  match a with
  | .earliest => instants.head?
  | .latest => instants.getLast?
  | .null | .raise => if instants.length = 1 then instants.head? else none

/-- The instant of a wall-clock time that a setting picks, both in ticks. -/
def resolved (z : Zone) (a : AmbiguousTime) (u : TimeUnit) (w : Int) : Option Int :=
  (picked a (z.instants (Int.fdiv w u.perSecond))).map fun s =>
    s * u.perSecond + Int.fmod w u.perSecond

instance : Decidable (z.IsSkipped u w) :=
  inferInstanceAs (Decidable (z.instants (Int.fdiv w u.perSecond) = []))

instance : Decidable (z.IsRepeated u w) :=
  inferInstanceAs (Decidable (1 < (z.instants (Int.fdiv w u.perSecond)).length))

theorem resolved_of_skipped (h : z.IsSkipped u w) : z.resolved a u w = none := by
  rw [IsSkipped] at h
  rw [resolved, h]
  cases a <;> rfl

theorem label_lenient :
    z.label a false u w =
      if a = .raise ∧ z.IsRepeated u w then .error .repeatedTime else .ok (z.resolved a u w) := by
  rcases h : z.instants (Int.fdiv w u.perSecond) with _ | ⟨s, _ | ⟨s', later⟩⟩
  · cases a <;> simp [label, resolved, IsRepeated, h, picked]
  · cases a <;> simp [label, resolved, IsRepeated, h, picked]
  · cases a <;>
      simp [label, resolved, IsRepeated, h, picked, List.getLast?_eq_some_getLast,
        List.getLast_cons]

theorem label_strict :
    z.label a true u w =
      if z.IsSkipped u w then .error .skippedTime else z.label a false u w := by
  rcases h : z.instants (Int.fdiv w u.perSecond) with _ | ⟨s, _ | ⟨s', later⟩⟩ <;>
    simp [label, IsSkipped, h]

theorem add_offsetAt_of_mem_instants {s second : Int} (h : s ∈ z.instants second) :
    s + z.offsetAt s = second := by
  rw [instants, List.mem_mergeSort, List.mem_filterMap] at h
  obtain ⟨o, -, h⟩ := h
  split at h
  next ho =>
    obtain rfl := Option.some.inj h
    rw [ho]
    omega
  next => cases h

theorem mem_of_picked {instants : List Int} {s : Int} (h : picked a instants = some s) :
    s ∈ instants := by
  cases a with
  | earliest => exact List.mem_of_head? h
  | latest => exact List.mem_of_getLast? h
  | null | raise =>
    rw [picked] at h
    split at h
    next => exact List.mem_of_head? h
    next => cases h

theorem perSecond_pos (u : TimeUnit) : 0 < u.perSecond := by
  cases u <;> decide

/-- At the instant that is picked for a wall-clock time, clocks show that time. -/
theorem wall_of_resolved (h : z.resolved a u w = some t) : z.wall u t = w := by
  obtain ⟨s, hs, rfl⟩ := Option.map_eq_some_iff.1 h
  have hshown := add_offsetAt_of_mem_instants (mem_of_picked hs)
  have hpos := perSecond_pos u
  have hsecond : Int.fdiv (s * u.perSecond + Int.fmod w u.perSecond) u.perSecond = s := by
    rw [Int.add_comm, Int.add_mul_fdiv_right _ _ (Int.ne_of_gt hpos),
      Int.fdiv_eq_zero_of_lt (Int.fmod_nonneg_of_pos w hpos) (Int.fmod_lt_of_pos w hpos),
      Int.zero_add]
  rw [wall, hsecond]
  calc s * u.perSecond + Int.fmod w u.perSecond + z.offsetAt s * u.perSecond
    _ = (s + z.offsetAt s) * u.perSecond + Int.fmod w u.perSecond := by
      rw [Int.add_right_comm, Int.add_mul]
    _ = Int.fdiv w u.perSecond * u.perSecond + Int.fmod w u.perSecond := by rw [hshown]
    _ = w := by rw [Int.mul_comm, Int.mul_fdiv_add_fmod]

/-! ### New York -/

theorem lastOffset_append (first : Int) (cs ds : List (Int × Int)) (i : Int) :
    lastOffset first (cs ++ ds) i = lastOffset (lastOffset first cs i) ds i := List.foldl_append

theorem yearly_ofText (s : String) (y : Int) (ys : List YearlyChange) :
    (ofText s y ys).yearlyFrom = y ∧ (ofText s y ys).yearly = ys := by
  rw [ofText]
  split <;> exact ⟨rfl, rfl⟩

/-- In 2024 the changes that come back every year tell the offset, whatever was in force before
them. -/
theorem offsetAt_newYork {i o : Int} (hyear : yearOf i = 2024)
    (h : ∀ first, lastOffset first [(1678604400, -14400), (1699164000, -18000),
      (1710054000, -14400), (1730613600, -18000), (1741503600, -14400), (1762063200, -18000)] i =
        o) : newYork.offsetAt i = o := by
  have hchanges : ∀ y ∈ [(2023 : Int), 2024, 2025], newYork.changesOf y =
      [⟨3, 2, 25200, -14400⟩, ⟨11, 1, 21600, -18000⟩].map fun c =>
        (YearlyChange.instant c y, c.offset) := by
    intro y hy
    simp only [List.mem_cons, List.not_mem_nil, or_false] at hy
    rw [changesOf, newYork, (yearly_ofText ..).1, (yearly_ofText ..).2]
    rcases hy with rfl | rfl | rfl <;> rfl
  have hlast : min (2024 : Int) (yearlyUntil - 1) = 2024 := by decide
  rw [offsetAt, changesAround, lastOffset_append, hyear]
  simp only [hlast]
  rw [hchanges _ (by decide), hchanges _ (by decide), hchanges _ (by decide)]
  exact h _

/-- Clocks of New York skip half past two on 10 March 2024. -/
theorem isSkipped_newYork : newYork.IsSkipped .micro 1710037800000000 := by
  have hbefore : newYork.offsetAt (1710037800 - 86400) = -18000 :=
    offsetAt_newYork (by decide) fun _ => rfl
  have hafter : newYork.offsetAt (1710037800 + 86400) = -14400 :=
    offsetAt_newYork (by decide) fun _ => rfl
  have hearly : newYork.offsetAt (1710037800 - (-14400)) = -18000 :=
    offsetAt_newYork (by decide) fun _ => rfl
  have hlate : newYork.offsetAt (1710037800 - (-18000)) = -14400 :=
    offsetAt_newYork (by decide) fun _ => rfl
  have hsecond : Int.fdiv 1710037800000000 TimeUnit.micro.perSecond = 1710037800 := by decide
  have hoffsets : newYork.offsetsAround 1710037800 = [-18000, -14400] := by
    rw [offsetsAround, hbefore, hafter]
    decide
  have hnone : ∀ o ∈ [(-18000 : Int), -14400],
      (if newYork.offsetAt (1710037800 - o) = o then some (1710037800 - o) else none) = none := by
    intro o ho
    rcases List.mem_pair.1 ho with rfl | rfl
    · rw [hlate]
      rfl
    · rw [hearly]
      rfl
  change newYork.instants _ = []
  rw [hsecond, instants, hoffsets, List.filterMap_eq_nil_iff.2 hnone, List.mergeSort_nil]

theorem named_newYork : named "America/New_York" = newYork := by
  unfold named
  split <;> simp_all

end Zone

theorem ZoneName.newYork_isKnown :
    ZoneName.isKnown (Text.trim "America/New_York") = true := by
  have hlines : StandsIn
      ("America/Monterrey America/Montevideo America/Montreal America/Montserrat America/Nassau " ++
        "America/New_York America/Nipigon America/Nome America/Noronha ") namesText := by
    unfold namesText
    repeat first
      | with_reducible exact standsIn_pair _ _ _
      | with_reducible refine StandsIn.append ?_ _
  have hmem : "America/New_York" ∈ known :=
    mem_known_of_standsIn
      ("America/Monterrey America/Montevideo America/Montreal America/Montserrat " ++
        "America/Nassau").toList
      "America/Nipigon America/Nome America/Noronha ".toList hlines (by decide +kernel) (by decide)
  have htrim : Text.trim "America/New_York" = "America/New_York" := by decide
  rw [htrim, isKnown, List.contains_iff_mem.2 hmem]
  simp

/-! ### Patterns without an offset -/

namespace Pattern

/-- Whether a step reads an offset from UTC. -/
def Item.readsOffset : Item → Bool
  | .offset _ | .timestamp => true
  | _ => false

variable {fs fs' : Fields} {cs cs' : List Char} {item : Item} {is : List Item}

theorem Fields.offset_of_set {f : NumberField} {v : Int} (h : fs.set f v = some fs') :
    fs'.offset = fs.offset := by
  cases f <;>
    simp only [Fields.set, Option.bind_eq_bind, Option.bind_eq_some_iff, Option.pure_def,
      Option.some.injEq] at h <;>
    grind

theorem offset_of_step (hitem : item.readsOffset = false) (h : step item fs cs = some (fs', cs')) :
    fs'.offset = fs.offset := by
  cases item with
  | offset lenient | timestamp => cases hitem
  | invalid => cases h
  | blanks | zoneName => cases h; rfl
  | literal s =>
    rw [step] at h
    split at h <;> cases h
    rfl
  | number f | monthName long | weekdayName long | fractionDigits places =>
    simp only [step, Option.bind_eq_bind, Option.bind_eq_some_iff, Option.pure_def,
      Option.some.injEq, Prod.mk.injEq] at h
    obtain ⟨_, _, _, hset, rfl, _⟩ := h
    exact Fields.offset_of_set hset
  | halfDay =>
    have hhalf : ∀ {half : Int} {r : List Char},
        (do pure ({ fs with half := ← agree fs.half half }, r)) = some (fs', cs') →
          fs'.offset = fs.offset := by
      intro half r h
      obtain ⟨_, -, h⟩ := Option.bind_eq_some_iff.1 h
      cases h
      rfl
    simp only [step] at h
    split at h
    next =>
      split at h
      next =>
        split at h
        next => exact hhalf h
        next =>
          split at h
          next => exact hhalf h
          next => cases h
      next => cases h
    next => cases h
  | fraction places =>
    simp only [step] at h
    split at h
    · cases places <;>
        simp only [Option.bind_eq_bind, Option.bind_eq_some_iff, Option.pure_def,
          Option.some.injEq, Prod.mk.injEq] at h <;>
        exact let ⟨_, _, _, hset, hfs, _⟩ := h; hfs ▸ Fields.offset_of_set hset
    · cases h
      rfl

theorem offset_of_matchItems (his : ∀ i ∈ is, i.readsOffset = false)
    (h : matchItems is fs cs = some (fs', cs')) : fs'.offset = fs.offset := by
  induction is generalizing fs cs with
  | nil =>
    cases h
    rfl
  | cons i is ih =>
    have hi := his i List.mem_cons_self
    rw [matchItems] at h
    · simp only [Option.bind_eq_bind, Option.bind_eq_some_iff] at h
      obtain ⟨⟨fs₁, cs₁⟩, hstep, h⟩ := h
      rw [ih (fun j hj => his j (List.mem_cons_of_mem _ hj)) h, offset_of_step hi hstep]
    · rintro rfl
      cases hi

/-- Without a step that reads an offset from UTC no text is an instant. -/
theorem instantOf?_eq_none (his : ∀ i ∈ is, i.readsOffset = false) : instantOf? is cs = none := by
  rw [instantOf?, Option.bind_eq_none_iff]
  intro fs hfs
  have hoffset : fs.offset = none := by
    rw [match?] at hfs
    split at hfs
    next hmatch =>
      obtain rfl := Option.some.inj hfs
      exact offset_of_matchItems his hmatch
    next => cases hfs
  rw [Fields.instant?, hoffset]
  rfl

end Pattern

/-! ### Rows -/

namespace DatetimePattern

variable {format zone : String} {z : Zone} {a a' : AmbiguousTime} {x v : Cell}
  {cells vs : List Cell}

/-- Whether a directive of a format reads an offset from UTC. -/
def ReadsOffset (format : String) : Prop :=
  ∃ i ∈ Pattern.items (expanded format.toList), i.readsOffset = true

instance : Decidable (ReadsOffset format) :=
  inferInstanceAs (Decidable (∃ i ∈ Pattern.items (expanded format.toList), i.readsOffset = true))

/-- The wall-clock time that a format reads from a cell, in microseconds. -/
def wallOf? (format : String) : Cell → Option Int
  | .text s => ((⟨format, none, .null, false⟩ : DatetimePattern).moment? s).map (·.ticks .micro)
  | _ => none

/-- A cell as an instant of a zone: missing where there is no time to be read. -/
def zonedRow (format : String) (z : Zone) (a : AmbiguousTime) (skippedFails : Bool) (x : Cell) :
    Except FrameError Cell :=
  match wallOf? format x with
  | none => .ok .null
  | some w => (z.label a skippedFails .micro w).map Operation.instantCell

/-- The instant of a zone that a setting picks for a cell: missing where there is no time to be
read, and where clocks skip it. -/
def zonedCell (format : String) (z : Zone) (a : AmbiguousTime) (x : Cell) : Cell :=
  Operation.instantCell ((wallOf? format x).bind (z.resolved a .micro))

/-- A format may look as if it told an offset from UTC and have no directive for it. -/
theorem wallOf?_eq_none (hformat : ¬ReadsOffset format) (htells : tellsOffset format = true) :
    wallOf? format x = none := by
  have hitems : ∀ i ∈ Pattern.items (expanded format.toList), i.readsOffset = false :=
    fun i hi => Bool.eq_false_iff.2 fun h => hformat ⟨i, hi, h⟩
  cases x with
  | text s => simp [wallOf?, moment?, htells, Pattern.instantOf?_eq_none hitems]
  | _ => rfl

theorem zonedCell_eq_null (h : ∀ w, wallOf? format x = some w → z.IsSkipped .micro w) :
    zonedCell format z a x = .null := by
  rw [zonedCell]
  cases hw : wallOf? format x with
  | none => rfl
  | some w => rw [Option.bind_some, Zone.resolved_of_skipped (h w hw), Operation.instantCell]

theorem wallOf?_of_zonedCell {t : Int} (h : zonedCell format z a x = .int t) :
    wallOf? format x = some (z.wall .micro t) := by
  rw [zonedCell] at h
  cases hfound : (wallOf? format x).bind (z.resolved a .micro) with
  | none =>
    rw [hfound] at h
    cases h
  | some s =>
    rw [hfound] at h
    cases h
    obtain ⟨w, hw, hs⟩ := Option.bind_eq_some_iff.1 hfound
    rw [hw, Zone.wall_of_resolved hs]

theorem zonedRow_lenient_eq_ok :
    zonedRow format z a false x = .ok v ↔ v = zonedCell format z a x ∧
      (a = .raise → ∀ w, wallOf? format x = some w → ¬z.IsRepeated .micro w) := by
  rw [zonedRow, zonedCell]
  cases wallOf? format x with
  | none => simp [Operation.instantCell, eq_comm]
  | some w =>
    simp only [Zone.label_lenient, Option.bind_some, Option.some.injEq, forall_eq']
    split
    next h => simp [Except.map, h]
    next h =>
      have hraise : a = .raise → ¬z.IsRepeated .micro w := fun ha hw => h ⟨ha, hw⟩
      simp only [Except.map, Except.ok.injEq, eq_true hraise, and_true]
      exact eq_comm

theorem zonedRow_strict_eq_ok :
    zonedRow format z a true x = .ok v ↔ zonedRow format z a false x = .ok v ∧
      ∀ w, wallOf? format x = some w → ¬z.IsSkipped .micro w := by
  rw [zonedRow, zonedRow]
  cases wallOf? format x with
  | none => simp
  | some w =>
    simp only [Zone.label_strict, Option.some.injEq, forall_eq']
    split
    next h => simp [Except.map, h]
    next h => simp [h]

theorem forall_wallOf?_iff {P : Int → Prop} :
    (∀ x ∈ cells, ∀ w, wallOf? format x = some w → P w) ↔
      ∀ w ∈ cells.filterMap (wallOf? format), P w := by
  simp only [List.mem_filterMap]
  exact ⟨fun h w ⟨x, hx, hw⟩ => h x hx w hw, fun h x hx w hw => h w ⟨x, hx, hw⟩⟩

theorem mapM_zonedRow_lenient :
    cells.mapM (zonedRow format z a false) = .ok vs ↔ vs = cells.map (zonedCell format z a) ∧
      (a = .raise → ∀ w ∈ cells.filterMap (wallOf? format), ¬z.IsRepeated .micro w) := by
  have hrow : ∀ x v, zonedRow format z a false x = .ok v ↔
      (pure (zonedCell format z a x) : Except FrameError Cell) = .ok v ∧
        (a = .raise → ∀ w, wallOf? format x = some w → ¬z.IsRepeated .micro w) := fun x v => by
    rw [zonedRow_lenient_eq_ok, pure_eq_ok, eq_comm]
  rw [mapM_eq_ok_and hrow, List.mapM_pure, pure_eq_ok, eq_comm, ← forall_wallOf?_iff]
  exact and_congr_right fun _ => ⟨fun h ha x hx => h x hx ha, fun h x hx ha => h ha x hx⟩

theorem mapM_zonedRow_strict :
    cells.mapM (zonedRow format z a true) = .ok vs ↔
      cells.mapM (zonedRow format z a false) = .ok vs ∧
        ∀ w ∈ cells.filterMap (wallOf? format), ¬z.IsSkipped .micro w := by
  rw [← forall_wallOf?_iff]
  exact mapM_eq_ok_and fun x v => zonedRow_strict_eq_ok

theorem tellsOffset_eq_false {w : Int} (hformat : ¬ReadsOffset format)
    (hw : wallOf? format x = some w) : tellsOffset format = false := by
  refine Bool.eq_false_iff.2 fun htells => ?_
  rw [wallOf?_eq_none hformat htells] at hw
  cases hw

/-- To read a text in a zone fails at times that clocks skip. -/
theorem run_readDatetime_zoned (hformat : ¬ReadsOffset format) :
    (Operation.readDatetime ⟨format, some zone, a, false⟩).run [.text] [x] =
      zonedRow format (Zone.named zone) a true x := by
  cases x with
  | text s =>
    have hsame : moment? ⟨format, some zone, a, false⟩ s = moment? ⟨format, none, .null, false⟩ s :=
      rfl
    cases hm : moment? ⟨format, none, .null, false⟩ s with
    | none =>
      simp [Operation.run, read, zonedRow, wallOf?, hsame, hm, Except.map, Operation.instantCell]
    | some m =>
      have hw : wallOf? format (.text s) = some (m.ticks .micro) := by rw [wallOf?, hm]; rfl
      simp [Operation.run, read, zonedRow, hw, hsame, hm, tellsOffset_eq_false hformat hw]
  | _ => rfl

/-- A text that is read without a zone is the time of the text. -/
theorem run_readDatetime_plain :
    (Operation.readDatetime ⟨format, none, a, false⟩).run [.text] [x] =
      .ok (Operation.instantCell (wallOf? format x)) := by
  cases x with
  | text s =>
    have hsame : moment? ⟨format, none, a, false⟩ s = moment? ⟨format, none, .null, false⟩ s := rfl
    cases hm : moment? ⟨format, none, .null, false⟩ s <;>
      simp [Operation.run, read, wallOf?, hsame, hm, Except.map, Operation.instantCell]
  | _ => rfl

/-- To give a time a zone does not fail at times that clocks skip. -/
theorem run_assignZone (hformat : ¬ReadsOffset format) :
    (Operation.assignZone zone a).run [(⟨format, none, a', false⟩ : DatetimePattern).dtype]
        [Operation.instantCell (wallOf? format x)] =
      zonedRow format (Zone.named zone) a false x := by
  rw [dtype, zonedRow]
  cases hw : wallOf? format x with
  | none => rfl
  | some w =>
    simp only [tellsOffset_eq_false hformat hw, Bool.false_eq_true, if_false,
      Operation.instantCell, Operation.run, Operation.assigned]
    cases (Zone.named zone).label a false .micro w <;> rfl

end DatetimePattern

end FocusBilling
