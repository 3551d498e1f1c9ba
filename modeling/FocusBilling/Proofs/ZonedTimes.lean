import FocusBilling.Proofs.FilledColumns
import FocusBilling.Proofs.WallClock

/-!
# Times read in a zone

Texts can be read as wall-clock times of a zone in one step, or be read without a zone and then be
given it in a second one.

* `Rule.InTwoWays` : the rules of both ways;
* `CompiledPlan.exists_made_zoned`, `CompiledPlan.exists_made_staged` : plans that fill one column,
  in one step and in two;
* `CompiledPlan.made_zoned` : **when both ways give the same.**

Both come down to one step for each row, `DatetimePattern.zonedRow`, in which they differ at times
that clocks skip only.
-/

namespace FocusBilling

/-! ### Columns -/

namespace Scalar

variable {format zone : String} {a a' : AmbiguousTime} {cells vs : List Cell} {rows : Nat}

open DatetimePattern

/-- A column of texts read in a zone. -/
theorem zonedCells_eq_ok (hformat : ¬ReadsOffset format) (hrows : cells.length = rows) :
    applyCells rows (.readDatetime ⟨format, some zone, a, false⟩) [⟨.text, .ok cells⟩] = .ok vs ↔
      isIncomplete format.toList = false ∧
        cells.mapM (zonedRow format (Zone.named zone) a true) = .ok vs := by
  rw [applyCells_column_eq_ok fun _ h => Except.ok.inj h ▸ hrows]
  simp only [Except.ok.injEq, exists_eq_left', run_readDatetime_zoned hformat, Operation.obstacle]
  cases isIncomplete format.toList <;> simp

/-- A column of texts read without a zone. -/
theorem plainCells_eq_ok (hrows : cells.length = rows) :
    applyCells rows (.readDatetime ⟨format, none, a, false⟩) [⟨.text, .ok cells⟩] = .ok vs ↔
      isIncomplete format.toList = false ∧
        vs = cells.map fun x => Operation.instantCell (wallOf? format x) := by
  rw [applyCells_column_eq_ok fun _ h => Except.ok.inj h ▸ hrows]
  simp only [Except.ok.injEq, exists_eq_left', run_readDatetime_plain, Operation.obstacle]
  rw [show (cells.mapM fun x => Except.ok (Operation.instantCell (wallOf? format x))) =
    (.ok (cells.map fun x => Operation.instantCell (wallOf? format x)) : Except FrameError _) from
      List.mapM_pure ..]
  cases isIncomplete format.toList <;> simp [eq_comm]

/-- A column of texts read without a zone, which is then given. -/
theorem stagedCells_eq_ok (hformat : ¬ReadsOffset format) (hrows : cells.length = rows) :
    applyCells rows (.assignZone zone a) [⟨(⟨format, none, a', false⟩ : DatetimePattern).dtype,
        applyCells rows (.readDatetime ⟨format, none, a', false⟩) [⟨.text, .ok cells⟩]⟩] =
          .ok vs ↔
      isIncomplete format.toList = false ∧
        cells.mapM (zonedRow format (Zone.named zone) a false) = .ok vs := by
  rw [applyCells_column_eq_ok]
  · simp only [plainCells_eq_ok hrows]
    constructor
    · rintro ⟨_, _, ⟨hcomplete, rfl⟩, h⟩
      rw [List.mapM_map] at h
      refine ⟨hcomplete, ?_⟩
      rw [← h]
      exact mapM_congr fun x _ => (run_assignZone hformat).symm
    · rintro ⟨hcomplete, h⟩
      refine ⟨rfl, _, ⟨hcomplete, rfl⟩, ?_⟩
      rw [← h, List.mapM_map]
      exact mapM_congr fun x _ => run_assignZone hformat
  · intro ws hws
    obtain ⟨-, rfl⟩ := (plainCells_eq_ok hrows).1 hws
    rw [List.length_map, hrows]

end Scalar

/-! ### Steps -/

namespace Working

variable {w : Working} {source : String}

section Texts

open DatetimePattern

variable {format staged : String} {cells : List Cell} (output zone : String)
  (a b : AmbiguousTime) (ht : w.table.columns ≠ []) (hplain : Table.IsPlain source)
  (hc : w.table.find? source = some ⟨.text, .ok cells⟩) (hrows : cells.length = w.table.height)
  (hformat : ¬ReadsOffset format)

include ht hplain hc hrows hformat

/-- Texts of any table read in a zone. -/
theorem exists_assign_zoned :
    ∃ d : Deferred, d.dtype = .datetime .micro (some zone) ∧
      (∀ vs, d.cells = .ok vs ↔ isIncomplete format.toList = false ∧
        cells.mapM (zonedRow format (Zone.named zone) a true) = .ok vs) ∧
      w.assign (.column output
          (.apply (.readDatetime ⟨format, some zone, a, false⟩) [.column source])) =
        .ok ⟨⟨w.table.height, Table.putIn output d w.table.columns⟩, w.expanded⟩ := by
  have hdtype : (⟨format, some zone, a, false⟩ : DatetimePattern).dtype =
      .datetime .micro (some zone) := by
    rw [dtype]
    split <;> rfl
  exact ⟨_, hdtype, fun vs => Scalar.zonedCells_eq_ok hformat hrows,
    assign_apply ht hplain hc rfl⟩

/-- Texts of any table read without a zone into another column, and then given a zone. -/
theorem exists_assign_staged (hstaged : Table.IsPlain staged) :
    ∃ e d : Deferred, d.dtype = .datetime .micro (some zone) ∧
      (∀ vs, d.cells = .ok vs ↔ isIncomplete format.toList = false ∧
        cells.mapM (zonedRow format (Zone.named zone) a false) = .ok vs) ∧
      [Assignment.column staged
          (.apply (.readDatetime ⟨format, none, b, false⟩) [.column source]),
        .column output (.apply (.assignZone zone a) [.column staged])].foldlM assign w =
        .ok ⟨⟨w.table.height, Table.putIn output d (Table.putIn staged e w.table.columns)⟩,
          w.expanded⟩ := by
  have hfirst : w.assign (.column staged
      (.apply (.readDatetime ⟨format, none, b, false⟩) [.column source])) = _ :=
    assign_apply ht hplain hc rfl
  exact ⟨_, _, rfl, fun vs => Scalar.stagedCells_eq_ok hformat hrows, foldlM_cons_eq_ok.2
    ⟨_, hfirst, foldlM_cons_eq_ok.2 ⟨_, assign_apply Table.putIn_ne_nil hstaged
      Table.lookup_putIn_self rfl, rfl⟩⟩⟩

end Texts

end Working

/-! ### Rules -/

namespace Rule

variable {r : Rule} {source format zone : String} {a : AmbiguousTime}

/-- A rule that reads texts by a format; those that do not match are missing. -/
structure Reads (r : Rule) (source format : String) (zone : Option String) (a : AmbiguousTime) :
    Prop where
  kind : r.kind = .parseDatetime
  source : r.sourceColumn = some source
  args : r.args = .parseDatetime ⟨some format, zone, false, a⟩

/-- A rule that gives wall-clock times a zone. -/
structure GivesZone (r : Rule) (source zone : String) (a : AmbiguousTime) : Prop where
  kind : r.kind = .assignTimezone
  source : r.sourceColumn = some source
  args : r.args = .timezone ⟨zone, a⟩

theorem Reads.step_zoned (h : r.Reads source format (some zone) a)
    (hzone : ZoneName.isKnown (Text.trim zone) = true) :
    r.step .standard = .ok (.assign (.column r.output
      (.apply (.readDatetime ⟨format, some (Text.trim zone), a, false⟩) [.column source]))) := by
  refine step_eq_assign.2 (.read h.kind h.args ?_ h.source rfl)
  rw [Option.mapM_some, Compile.zone_of_known hzone]
  rfl

theorem Reads.step_plain (h : r.Reads source format none a) :
    r.step .standard = .ok (.assign (.column r.output
      (.apply (.readDatetime ⟨format, none, a, false⟩) [.column source]))) :=
  step_eq_assign.2 (.read h.kind h.args rfl h.source rfl)

theorem GivesZone.step (h : r.GivesZone source zone a)
    (hzone : ZoneName.isKnown (Text.trim zone) = true) :
    r.step .standard = .ok (.assign (.column r.output
      (.apply (.assignZone (Text.trim zone) a) [.column source]))) :=
  step_eq_assign.2 (.assigned h.kind h.args (Compile.zone_of_known hzone) h.source)

/-- One rule that reads texts in a zone, and two of which one reads them and the other gives them
that zone, for the same column. -/
structure InTwoWays (r r₁ r₂ : Rule) (source format zone : String) (a : AmbiguousTime) :
    Prop where
  /-- The texts are read in the zone. -/
  direct : r.Reads source format (some zone) a
  /-- The texts are read. -/
  first : ∃ b, r₁.Reads source format none b
  /-- The times that have been read get the zone. -/
  second : r₂.GivesZone r₁.output zone a
  /-- The times without a zone are dropped in the end. -/
  temporary : r₁.isTemporary = true
  /-- Those with the zone are not. -/
  kept : r.columnPrefix = none ∧ r₂.columnPrefix = none
  /-- All rules are for one column. -/
  column : r₁.focusColumn = r.focusColumn ∧ r₂.focusColumn = r.focusColumn

end Rule

/-! ### Plans -/

namespace CompiledPlan

variable {f : Frame} {provider : String}

open DatetimePattern

section Filled

variable {r r₁ r₂ : Rule} {f₀ : Frame} {source format zone : String} {a b : AmbiguousTime}
  {cells : List Cell}
  (hprovider : (⟨f.toTable, []⟩ : Working).assign (providerAssignment provider) =
    .ok ⟨f₀.toTable, []⟩)
  (hf : f₀.toTable.Proper) (hsource : Table.IsPlain source)
  (htexts : f₀.toTable.find? source = some ⟨.text, .ok cells⟩) (hrows : cells.length = f₀.height)
  (hzone : ZoneName.isKnown (Text.trim zone) = true) (hformat : ¬ReadsOffset format)

include hprovider hf hsource htexts hrows hzone hformat

/-- A plan that reads texts in a zone. -/
theorem exists_made_zoned (hr : r.Reads source format (some zone) a)
    (hkept : r.columnPrefix = none) :
    ∃ p, build .standard ⟨provider, [r]⟩ = .ok p ∧ ∀ g ts, p.made f = .ok (g, ts) ↔
      ∃ vs, isIncomplete format.toList = false ∧
        cells.mapM (zonedRow format (Zone.named (Text.trim zone)) a true) = .ok vs ∧
        g.toTable = ⟨f₀.height, Table.putIn r.focusColumn.name
          ⟨.datetime .micro (some (Text.trim zone)), .ok vs⟩ f₀.toTable.columns⟩ ∧
        ts = [r.focusColumn.name] := by
  have houtput : r.output = r.focusColumn.name := by rw [Rule.output, hkept]
  obtain ⟨d, hdtype, hcells, hassign⟩ := Working.exists_assign_zoned (w := ⟨f₀.toTable, []⟩)
    r.output (Text.trim zone) a hf.columns hsource htexts hrows hformat
  let p : CompiledPlan := ⟨provider, [providerAssignment provider, .column r.output
    (.apply (.readDatetime ⟨format, some (Text.trim zone), a, false⟩) [.column source])], [],
    [r.focusColumn.name], []⟩
  have hp : build .standard ⟨provider, [r]⟩ = .ok p := by
    refine build_eq_ok.2 ⟨_, mapM_eq_ok.2 (.cons (hr.step_zoned hzone) .nil), ?_⟩
    simp [p, behind, start, addOnce, PlanStep.assignment?, PlanStep.statement?, Rule.isTemporary,
      hkept]
  have hw : p.assignAll f.toTable =
      .ok ⟨⟨f₀.height, Table.putIn r.output d f₀.toTable.columns⟩, []⟩ :=
    foldlM_cons_eq_ok.2 ⟨_, hprovider, foldlM_cons_eq_ok.2 ⟨_, hassign, rfl⟩⟩
  refine ⟨p, hp, fun g ts => ?_⟩
  rw [made_putIn_eq_ok hw rfl withoutTemporaries_nil, hdtype, houtput]
  simp only [hcells, and_assoc, p]

/-- A plan that reads texts without a zone and then gives them one. -/
theorem exists_made_staged (hr₁ : r₁.Reads source format none b)
    (hr₂ : r₂.GivesZone r₁.output zone a) (htemporary : r₁.isTemporary = true)
    (hkept : r₂.columnPrefix = none) (hcolumn : r₁.focusColumn = r₂.focusColumn)
    (hnew : r₁.output ∉ f₀.toTable.names) :
    ∃ q, build .standard ⟨provider, [r₁, r₂]⟩ = .ok q ∧ ∀ g ts, q.made f = .ok (g, ts) ↔
      ∃ vs, isIncomplete format.toList = false ∧
        cells.mapM (zonedRow format (Zone.named (Text.trim zone)) a false) = .ok vs ∧
        g.toTable = ⟨f₀.height, Table.putIn r₂.focusColumn.name
          ⟨.datetime .micro (some (Text.trim zone)), .ok vs⟩ f₀.toTable.columns⟩ ∧
        ts = [r₂.focusColumn.name] := by
  have houtput : r₂.output = r₂.focusColumn.name := by rw [Rule.output, hkept]
  have hne : r₂.output ≠ r₁.output := by
    obtain ⟨before, hbefore⟩ := Option.isSome_iff_exists.1 htemporary
    rw [houtput, Rule.output, hbefore]
    exact fun h => r₂.focusColumn.underscore_not_mem (h ▸ by simp)
  obtain ⟨e, d, hdtype, hcells, hassign⟩ := Working.exists_assign_staged (w := ⟨f₀.toTable, []⟩)
    r₂.output (Text.trim zone) a b hf.columns hsource htexts hrows hformat r₁.isPlain_output
  let q : CompiledPlan := ⟨provider, [providerAssignment provider,
    .column r₁.output (.apply (.readDatetime ⟨format, none, b, false⟩) [.column source]),
    .column r₂.output (.apply (.assignZone (Text.trim zone) a) [.column r₁.output])], [],
    [r₂.focusColumn.name], [r₁.output]⟩
  have hq : build .standard ⟨provider, [r₁, r₂]⟩ = .ok q := by
    refine build_eq_ok.2
      ⟨_, mapM_eq_ok.2 (.cons hr₁.step_plain (.cons (hr₂.step hzone) .nil)), ?_⟩
    have htwice : r₂.isTemporary = false := by rw [Rule.isTemporary, hkept]; rfl
    simp [q, behind, start, addOnce, PlanStep.assignment?, PlanStep.statement?, htemporary, htwice,
      hcolumn]
  have hw : q.assignAll f.toTable = .ok ⟨⟨f₀.height,
      Table.putIn r₂.output d (Table.putIn r₁.output e f₀.toTable.columns)⟩, []⟩ :=
    foldlM_cons_eq_ok.2 ⟨_, hprovider, hassign⟩
  refine ⟨q, hq, fun g ts => ?_⟩
  rw [made_putIn_eq_ok hw rfl
    (Table.withoutTemporaries_putIn hf r₂.isPlain_output r₁.isPlain_output hne hnew), hdtype,
    houtput]
  simp only [hcells, and_assoc, q]

end Filled

section TwoWays

variable {r r₁ r₂ : Rule} {c : Column} {format zone : String} {a : AmbiguousTime}

/-- Both plans put a column into one table, with one step for each row. -/
theorem exists_made_inTwoWays (provider : String)
    (hrules : Rule.InTwoWays r r₁ r₂ c.name format zone a)
    (hzone : ZoneName.isKnown (Text.trim zone) = true) (hformat : ¬ReadsOffset format)
    (hf : f.toTable.Proper) (hc : c ∈ f.columns) (htext : c.dtype = .text)
    (hrows : c.cells.length = f.height) (hname : c.name ≠ providerColumn)
    (hnew : r₁.output ∉ f.names) :
    ∃ p q, build .standard ⟨provider, [r]⟩ = .ok p ∧
      build .standard ⟨provider, [r₁, r₂]⟩ = .ok q ∧
      ∃ filled : List Cell → Table,
        (∀ g ts, p.made f = .ok (g, ts) ↔ ∃ vs, isIncomplete format.toList = false ∧
          c.cells.mapM (zonedRow format (Zone.named (Text.trim zone)) a true) = .ok vs ∧
          g.toTable = filled vs ∧ ts = [r.focusColumn.name]) ∧
        (∀ g ts, q.made f = .ok (g, ts) ↔ ∃ vs, isIncomplete format.toList = false ∧
          c.cells.mapM (zonedRow format (Zone.named (Text.trim zone)) a false) = .ok vs ∧
          g.toTable = filled vs ∧ ts = [r.focusColumn.name]) ∧
        ∀ vs, (∃ g : Frame, g.toTable = filled vs) ∧
          (filled vs).find? r.focusColumn.name =
            some ⟨.datetime .micro (some (Text.trim zone)), .ok vs⟩ := by
  obtain ⟨hdirect, ⟨b, hfirst⟩, hsecond, htemporary, ⟨hkept, hkept₂⟩, hcolumn₁, hcolumn₂⟩ := hrules
  obtain ⟨f₀, hheight, hproper, hprovider, hothers⟩ := exists_assign_provider provider hf
  have hfind := Table.find?_toTable hf.distinct hc
  have hsource := hf.plain c.name (Table.mem_names_of_find? hfind)
  have htexts : f₀.toTable.find? c.name = some ⟨.text, .ok c.cells⟩ := by
    rw [(hothers _ hname).1, hfind, htext]
  have hnew₀ : r₁.output ∉ f₀.toTable.names := by
    have hne : r₁.output ≠ providerColumn := by
      obtain ⟨before, hbefore⟩ := Option.isSome_iff_exists.1 htemporary
      intro h
      have hunderscore : '_' ∈ r₁.output.toList := by simp [Rule.output, hbefore]
      exact absurd (h ▸ hunderscore) (by decide)
    have hnames : f.toTable.names = f.names := List.map_map
    exact fun h => hnew (hnames ▸ (hothers _ hne).2 h)
  obtain ⟨p, hp, hmade⟩ := exists_made_zoned hprovider hproper hsource htexts
    (hrows.trans hheight.symm) hzone hformat hdirect hkept
  obtain ⟨q, hq, hmade₂⟩ := exists_made_staged hprovider hproper hsource htexts
    (hrows.trans hheight.symm) hzone hformat hfirst hsecond htemporary hkept₂
    (hcolumn₁.trans hcolumn₂.symm) hnew₀
  rw [hcolumn₂] at hmade₂
  exact ⟨p, q, hp, hq, _, hmade, hmade₂, fun vs =>
    ⟨Table.exists_toTable_putIn.2 ⟨vs, rfl⟩, Table.lookup_putIn_self⟩⟩

end TwoWays

/-- The format of the examples. -/
def clockFormat : String := "%Y-%m-%d %H:%M:%S"

theorem not_readsOffset_clockFormat : ¬ReadsOffset clockFormat := by decide +kernel

theorem wallOf?_clockFormat :
    wallOf? clockFormat (.text "2024-03-10 02:30:00") = some 1710037800000000 := by
  decide +kernel

end CompiledPlan

end FocusBilling
