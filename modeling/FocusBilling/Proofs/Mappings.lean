import FocusBilling.Proofs.Defaults

/-!
# Mappings of values

A mapping tests the keys one inside the other, the last one innermost.  What comes out is a plain
lookup: the first entry whose key has the text of the row counts.

* `Table.IsEven`, `Working.isEven_foldlM_assign` : columns all of which are as long as their table
  is high, which no step changes;
* `Scalar.Gives` : an expression told by what it makes of each row;
* `MapValuesArgs.outcome` : the lookup of a text, or of a missing one;
* `MapValuesArgs.gives_mappedScalar` : the expression of a mapping is the lookup;
* `Scalar.expand_mappedScalar`, `Working.assign_mapped` : the columns that a mapping reads, and the
  step that maps one;
* `CompiledPlan.made_mapped` : **a rule that maps values is a lookup, row by row.**

The induction is on the entries, from the last one outwards: the expression behind an entry gives
the lookup among the entries behind it.  The name of the source column is the one limit: a name that
looks like a pattern stands for other columns, or for none.
-/

namespace FocusBilling

/-! ### Columns of one length -/

namespace Table

/-- The columns of a table are as long as it is high. -/
def IsEven (t : Table) : Prop :=
  ∀ c ∈ t.columns, ∀ cells, c.2.cells = .ok cells → cells.length = t.height

variable {t : Table} {d : Deferred} {cells : List Cell}

theorem IsEven.find? {n : String} (ht : t.IsEven) (hd : t.find? n = some d)
    (h : d.cells = .ok cells) : cells.length = t.height := by
  obtain ⟨before, after, hcolumns, -⟩ := List.lookup_eq_some_iff.1 hd
  exact ht (n, d) (by simp [hcolumns]) cells h

end Table

namespace Scalar

variable {t : Table}

/-- What an expression gives is as long as the columns that it reads. -/
theorem length_eval (ht : t.IsEven) : (e : Scalar) → ∀ {d cells}, e.eval t t.height = .ok d →
    d.cells = .ok cells → cells.length = t.height
  | .column n, d, cells, hd, h => by
    rw [eval, Table.get] at hd
    split at hd <;> cases hd
    next hfound => exact ht.find? hfound h
  | .constant value dtype, d, cells, hd, h => by
    rw [eval] at hd
    cases hd
    cases h
    exact List.length_replicate
  | .apply op args, d, cells, hd, h => by
    rw [eval] at hd
    obtain ⟨ds, -, hd⟩ := bind_eq_ok.1 hd
    obtain ⟨dtype, -, ⟨⟩⟩ := bind_eq_ok.1 hd
    simp only [applyCells, bind_eq_ok] at h
    obtain ⟨-, -, columns, -, h⟩ := h
    rw [length_of_mapM h, length_rowsOf]
  | .inferred p arg, d, cells, hd, h => by
    rw [eval] at hd
    obtain ⟨e, he, ⟨⟩⟩ := bind_eq_ok.1 hd
    unfold inferCells at h
    split at h
    · simp only [bind_eq_ok, pure_eq_ok] at h
      obtain ⟨texts, htexts, times, htimes, rfl⟩ := h
      rw [List.length_map, length_readAll htimes, List.length_map]
      exact length_eval ht arg he htexts
    · cases h

end Scalar

namespace Working

variable {steps : List Assignment} {w w' : Working}

/-- No step changes the length of columns. -/
theorem isEven_foldlM_assign (ht : w.table.columns ≠ []) (heven : w.table.IsEven)
    (h : steps.foldlM assign w = .ok w') : w'.table.IsEven := by
  induction steps generalizing w with
  | nil =>
    cases h
    exact heven
  | cons step steps ih =>
    obtain ⟨w₁, h₁, h⟩ := foldlM_cons_eq_ok.1 h
    obtain ⟨-, -, hrun, -⟩ := assign_eq_ok.1 h₁
    obtain ⟨named, filled, -, hfilled, -, htable⟩ := (Assignment.run_eq_ok ht).1 hrun
    refine ih ((extends_assign ht h₁).columns_ne_nil ht) (fun c hc cells hcells => ?_) h
    rw [htable] at hc ⊢
    rcases Table.mem_of_mem_putEach hc with hold | hnew
    · exact heven c hold cells hcells
    · obtain ⟨v, -, -, hv⟩ := exists_of_mem_right hfilled hnew
      exact Scalar.length_eval heven v.2 hv hcells

end Working

/-! ### Expressions row by row -/

namespace Scalar

variable {t : Table} {xs : List Cell} {op : Operation} {d : DType}

/-- An expression that makes a value of each of some entries, one for each row. -/
def Gives (t : Table) (xs : List Cell) (e : Scalar) (d : DType) (g : Cell → Cell) : Prop :=
  e.eval t xs.length = .ok ⟨d, .ok (xs.map g)⟩

theorem Gives.congr {e : Scalar} {g g' : Cell → Cell} (h : Gives t xs e d g)
    (hg : ∀ x, g x = g' x) : Gives t xs e d g' := by
  obtain rfl : g = g' := funext hg
  exact h

theorem rowsOf_map (xs : List Cell) (gs : List (Cell → Cell)) :
    rowsOf xs.length (gs.map fun g => xs.map g) = xs.map fun x => gs.map fun g => g x := by
  induction xs with
  | nil => rfl
  | cons x xs ih =>
    rw [List.length_cons, rowsOf, List.map_cons, ← ih]
    simp [Function.comp_def]

theorem gives_constant (v : Cell) : Gives t xs (.constant v d) d fun _ => v := by
  rw [Gives, eval, List.map_const']

/-- An operation on expressions is done on each row. -/
theorem gives_apply (args : List (Scalar × DType × (Cell → Cell))) {g : Cell → Cell}
    (hargs : ∀ a ∈ args, Gives t xs a.1 a.2.1 a.2.2)
    (hresult : op.result (args.map (·.2.1)) = .ok d)
    (hobstacle : op.obstacle (args.map (·.2.1)) = .ok ())
    (hrun : ∀ x, op.run (args.map (·.2.1)) (args.map fun a => a.2.2 x) = .ok (g x)) :
    Gives t xs (.apply op (args.map (·.1))) d g := by
  let columns := args.map fun a => (⟨a.2.1, .ok (xs.map a.2.2)⟩ : Deferred)
  have heval : evalAll t xs.length (args.map (·.1)) = .ok columns := by
    clear hresult hobstacle hrun
    induction args with
    | nil => rfl
    | cons a args ih =>
      obtain ⟨ha, hargs⟩ := List.forall_mem_cons.1 hargs
      rw [Gives] at ha
      rw [List.map_cons, evalAll, ha, ih hargs]
      rfl
  have htypes : columns.map (·.dtype) = args.map (·.2.1) := List.map_map
  have hcolumns : columns.mapM (·.cells) =
      (.ok ((args.map (·.2.2)).map fun f => xs.map f) : Except FrameError _) := by
    rw [mapM_eq_ok, List.forall₂_map_left_iff, List.map_map, List.forall₂_map_right_iff,
      List.forall₂_same]
    exact fun _ _ => rfl
  have hrows : (xs.map fun x => (args.map (·.2.2)).map fun f => f x).mapM
      (op.run (args.map (·.2.1))) = .ok (xs.map g) := by
    rw [mapM_eq_ok, List.forall₂_map_left_iff, List.forall₂_map_right_iff, List.forall₂_same]
    intro x _
    rw [List.map_map]
    exact hrun x
  have hcells : applyCells xs.length op columns = .ok (xs.map g) := by
    simp only [applyCells, htypes, bind_eq_ok]
    exact ⟨(), hobstacle, _, hcolumns, rowsOf_map xs _ ▸ hrows⟩
  simp only [Gives, eval, heval, bind_eq_ok, pure_eq_ok, Except.ok.injEq, exists_eq_left', htypes,
    hresult, hcells]

variable {text : Scalar} {f : Cell → Cell}

/-- A column of a type that can be shown as text. -/
theorem gives_text {n : String} {dtype : DType} (hfind : t.find? n = some ⟨dtype, .ok xs⟩)
    (hcast : dtype.castsTo .text = true) :
    Gives t xs (.apply (.cast .text false) [.column n]) .text
      fun x => Cell.orNull .text (Cell.text? dtype x) := by
  have hcolumn : Gives t xs (.column n) dtype id := by
    rw [Gives, eval, Table.get, hfind, List.map_id]
  refine gives_apply [(.column n, dtype, id)] (by simpa using hcolumn) rfl rfl fun x => ?_
  change x.castTo dtype .text false = _
  cases x <;> simp [Cell.castTo, Cell.isNull, hcast, Cell.cast, Cell.text?, Cell.orNull]

theorem gives_isNull (h : Gives t xs text .text f) :
    Gives t xs (.apply .isNull [text]) .bool fun x => .bool (f x).isNull :=
  gives_apply [(text, .text, f)] (by simpa using h) rfl rfl fun _ => rfl

theorem gives_equal {other : Scalar} {k : Cell → Cell} (h : Gives t xs text .text f)
    (h' : Gives t xs other .text k) : Gives t xs (.apply (.compare .eq) [text, other]) .bool
      fun x => Cell.compare .eq (f x) (k x) :=
  gives_apply [(text, .text, f), (other, .text, k)] (by simpa using ⟨h, h'⟩) rfl rfl
    fun _ => rfl

theorem gives_choose {test a b : Scalar} {c ga gb : Cell → Cell} (htest : Gives t xs test .bool c)
    (ha : Gives t xs a .text ga) (hb : Gives t xs b .text gb) :
    Gives t xs (.apply .choose [test, a, b]) .text fun x => if (c x).isTrue then ga x else gb x :=
  gives_apply [(test, .bool, c), (a, .text, ga), (b, .text, gb)]
    (by simpa using ⟨htest, ha, hb⟩) rfl rfl fun _ => rfl

end Scalar

/-! ### The lookup -/

/-- What a mapping makes of a text, or of a missing one.  A text becomes the text of the first entry
whose key has it, else the default.  A missing one has no entry; it becomes the default if it
should. -/
def MapValuesArgs.outcome (args : MapValuesArgs) : Option String → Option String
  | some s =>
    match args.valueList.find? fun m => m.key.key == s with
    | some m => some m.value.key
    | none => args.default.map Literal.key
  | none => if args.defaultForNull then args.default.map Literal.key else none

namespace MapValuesArgs

variable {args : MapValuesArgs} {ms : List ValueMapping} {m : ValueMapping}
  {default : Option Literal} {forNull : Bool} {s : String}

theorem outcome_cons : outcome ⟨m :: ms, default, forNull⟩ (some s) =
    if m.key.key = s then some m.value.key else outcome ⟨ms, default, forNull⟩ (some s) := by
  by_cases h : m.key.key = s <;> simp [outcome, h]

/-- Entries whose keys have another text count for nothing. -/
theorem outcome_append {later : List ValueMapping} (h : ∀ m ∈ ms, m.key.key ≠ s) :
    outcome ⟨ms ++ later, default, forNull⟩ (some s) =
      outcome ⟨later, default, forNull⟩ (some s) := by
  induction ms with
  | nil => rfl
  | cons m ms ih =>
    obtain ⟨hm, hms⟩ := List.forall_mem_cons.1 h
    rw [List.cons_append, outcome_cons, if_neg hm, ih hms]

/-- A text is equal to that of a key if it is there and the same. -/
theorem isTrue_compare_text {o : Option String} {k : String} :
    (Cell.compare .eq (Cell.orNull .text o) (.text k)).isTrue = true ↔ o = some k := by
  cases o with
  | none => simp [Cell.compare, Cell.orNull, Cell.isNull, Cell.isTrue]
  | some s =>
    simp [Cell.compare, Cell.orNull, Cell.isNull, Cell.isTrue, Cell.order, Comparison.holds]

open Scalar

variable {t : Table} {xs : List Cell} {text : Scalar} {f : Cell → Option String}

theorem gives_default : Gives t xs
    (match default with | some value => Compile.textScalar value.key | none => .noText) .text
    fun _ => Cell.orNull .text (default.map Literal.key) := by
  cases default <;> exact gives_constant _

/-- The expression of a mapping is the lookup. -/
theorem gives_mappedScalar (h : Gives t xs text .text fun x => Cell.orNull .text (f x)) :
    Gives t xs (Compile.mappedScalar args text) .text
      fun x => Cell.orNull .text (args.outcome (f x)) := by
  obtain ⟨ms, default, forNull⟩ := args
  induction ms with
  | nil =>
    cases forNull with
    | true => exact gives_default.congr fun x => by cases f x <;> rfl
    | false =>
      refine (gives_choose (gives_isNull h) (gives_constant .null) gives_default).congr fun x => ?_
      cases f x <;> rfl
  | cons m ms ih =>
    -- the first entry is tested outermost, and the rest of the lookup stands behind it
    refine (gives_choose (gives_equal h (gives_constant _)) (gives_constant _) ih).congr fun x => ?_
    simp only [isTrue_compare_text]
    cases f x with
    | none => rfl
    | some s =>
      rw [outcome_cons]
      by_cases hs : m.key.key = s <;> simp [hs, eq_comm (a := s), Cell.orNull]

end MapValuesArgs

/-! ### The columns that a mapping reads -/

namespace Scalar

mutual

theorem reading_self (n : String) : (e : Scalar) → e.reading n n = e
  | .column name => by
    rw [reading]
    split <;> simp_all
  | .constant value dtype => rfl
  | .apply op args => by rw [reading, readingAll_self n args]
  | .inferred p arg => by rw [reading, reading_self n arg]

theorem readingAll_self (n : String) : (es : List Scalar) → readingAll n n es = es
  | [] => rfl
  | e :: es => by rw [readingAll, reading_self n e, readingAll_self n es]

end

variable {t : Table} {e : Scalar} {n : String} {found : List String}

/-- An expression that reads one column only, by a name that may stand for several. -/
theorem expand_of_reads (hreads : ∀ m, m ∈ e.reads ↔ m = n) (hfound : t.matching n = .ok found) :
    e.expand t = .ok (found.map fun m => e.reading n m) := by
  by_cases hplain : Table.IsPlain n
  · obtain rfl : [n] = found := Except.ok.inj ((Table.matching_of_plain hplain).symm.trans hfound)
    rw [expand_of_plain fun m hm => (hreads m).1 hm ▸ hplain, List.map_singleton, reading_self]
  · have hpattern : n = "*" ∨ Table.isPattern n = true := by
      simpa [Table.IsPlain, or_iff_not_imp_left] using hplain
    obtain ⟨m, hm⟩ : ∃ m, e.reads.find? (fun m => m = "*" || Table.isPattern m) = some m := by
      rw [← Option.isSome_iff_exists, List.find?_isSome]
      exact ⟨n, (hreads n).2 rfl, by simpa using hpattern⟩
    obtain rfl : m = n := (hreads m).1 (List.mem_of_find?_eq_some hm)
    rw [expand, hm]
    exact congrArg (Except.map fun names => names.map fun k => e.reading m k) hfound

variable {args : MapValuesArgs} {text : Scalar} {m : String}

theorem mappedScalar_cons {entry : ValueMapping} {ms : List ValueMapping}
    {default : Option Literal} {forNull : Bool} :
    Compile.mappedScalar ⟨entry :: ms, default, forNull⟩ text =
      .apply .choose [.apply (.compare .eq) [text, Compile.textScalar entry.key.key],
        Compile.textScalar entry.value.key, Compile.mappedScalar ⟨ms, default, forNull⟩ text] := rfl

theorem mem_reads_mappedScalar (hargs : args.valueList ≠ []) :
    m ∈ (Compile.mappedScalar args text).reads ↔ m ∈ text.reads := by
  obtain ⟨ms, default, forNull⟩ := args
  -- without entries nothing is read where missing values get the default too
  have hsub : ∀ ms, m ∈ (Compile.mappedScalar ⟨ms, default, forNull⟩ text).reads →
      m ∈ text.reads := by
    intro ms
    induction ms with
    | nil =>
      cases forNull <;> cases default <;>
        simp [Compile.mappedScalar, reads, readsAll, noText, Compile.textScalar]
    | cons entry ms ih =>
      intro h
      simp only [mappedScalar_cons, reads, readsAll, Compile.textScalar, List.append_nil,
        List.nil_append, List.mem_append] at h
      exact h.elim id ih
  obtain ⟨entry, ms, rfl⟩ := List.exists_cons_of_ne_nil hargs
  refine ⟨hsub _, fun h => ?_⟩
  simp [mappedScalar_cons, reads, readsAll, h]

theorem reading_mappedScalar : (Compile.mappedScalar args text).reading n m =
    Compile.mappedScalar args (text.reading n m) := by
  obtain ⟨ms, default, forNull⟩ := args
  induction ms with
  | nil =>
    cases forNull <;> cases default <;>
      simp [Compile.mappedScalar, reading, readingAll, noText, Compile.textScalar]
  | cons entry ms ih =>
    simp [mappedScalar_cons, reading, readingAll, ih, Compile.textScalar]

/-- The source column as text, by a name that may stand for several columns. -/
theorem expand_mappedScalar {source : String} (hargs : args.valueList ≠ [])
    (hfound : t.matching source = .ok found) :
    (Compile.mappedScalar args (.apply (.cast .text false) [.column source])).expand t =
      .ok (found.map fun m =>
        Compile.mappedScalar args (.apply (.cast .text false) [.column m])) := by
  rw [expand_of_reads (fun m => ?_) hfound]
  · simp only [reading_mappedScalar, reading, readingAll, if_true]
  · rw [mem_reads_mappedScalar hargs]
    simp [reads, readsAll]

end Scalar

/-! ### Steps -/

/-- What a rule that maps values is compiled to. -/
abbrev Assignment.mapped (output source : String) (args : MapValuesArgs) : Assignment :=
  .column output (Compile.mappedScalar args (.apply (.cast .text false) [.column source]))

namespace Working

variable {w : Working} {output source : String} {args : MapValuesArgs}

/-- A step that maps the one column that a name stands for. -/
theorem assign_mapped {m : String} {dtype : DType} {cells : List Cell}
    (hargs : args.valueList ≠ []) (hfound : w.table.matching source = .ok [m])
    (hfind : w.table.find? m = some ⟨dtype, .ok cells⟩) (hrows : cells.length = w.table.height)
    (hcast : dtype.castsTo .text = true) :
    w.assign (.mapped output source args) = .ok ⟨⟨w.table.height, Table.putIn output
      ⟨.text, .ok (cells.map fun x => Cell.orNull .text (args.outcome (Cell.text? dtype x)))⟩
        w.table.columns⟩, w.expanded⟩ := by
  have hcolumns : w.table.columns ≠ [] := by
    intro h
    rw [Table.find?, h] at hfind
    cases hfind
  refine assign_column hcolumns (Scalar.expand_mappedScalar hargs hfound) ?_
  rw [← hrows]
  exact MapValuesArgs.gives_mappedScalar (Scalar.gives_text hfind hcast)

/-- A step that maps nothing, as the name of its column stands for none. -/
theorem assign_mapped_nothing (hcolumns : w.table.columns ≠ []) (hargs : args.valueList ≠ [])
    (hfound : w.table.matching source = .ok []) :
    w.assign (.mapped output source args) = .ok w := by
  have hnamed : (Assignment.mapped output source args).columns w.table = .ok [] := by
    simp [Assignment.columns, Scalar.expand_mappedScalar hargs hfound]
  exact assign_eq_ok.2 ⟨_, hnamed, (Assignment.run_eq_ok hcolumns).2
    ⟨_, [], hnamed, .nil, List.nodup_nil, rfl⟩, rfl⟩

end Working

/-! ### Plans -/

/-- A rule that maps values. -/
structure Rule.Maps (r : Rule) (source : String) (args : MapValuesArgs) : Prop where
  kind : r.kind = .mapValues
  source : r.sourceColumn = some source
  args : r.args = .mapValues args

theorem Rule.Maps.step {r : Rule} {source : String} {args : MapValuesArgs}
    (h : r.Maps source args) :
    r.step .standard = .ok (.assign (.mapped r.output source args)) :=
  step_eq_assign.2 (.mapped h.kind h.args h.source)

namespace CompiledPlan

variable {plan : Plan} {p : CompiledPlan} {f : Frame} {w : Working} {r : Rule} {source : String}
  {args : MapValuesArgs}

/-- The name of the provider is put into any table first, whether it has columns or not. -/
theorem assign_provider (t : Table) (provider : String) :
    (⟨t, []⟩ : Working).assign (providerAssignment provider) = .ok ⟨⟨t.rows, Table.putIn
      providerColumn ⟨.text, .ok (List.replicate t.rows (.text provider))⟩ t.columns⟩, []⟩ := rfl

/-- In front of the drop of temporary columns there are columns, all of one length. -/
theorem isEven_assignAll (hp : build .standard plan = .ok p)
    (hf : ∀ c ∈ f.columns, c.cells.length = f.height) (hw : p.assignAll f.toTable = .ok w) :
    w.table.columns ≠ [] ∧ w.table.IsEven := by
  obtain ⟨steps, -, hassignments, -⟩ := steps_of_build hp
  rw [assignAll, hassignments, List.foldlM_cons, assign_provider] at hw
  refine ⟨(Working.extends_foldlM_assign Table.putIn_ne_nil hw).columns_ne_nil Table.putIn_ne_nil,
    Working.isEven_foldlM_assign Table.putIn_ne_nil (fun c hc cells hcells => ?_) hw⟩
  rcases Table.mem_of_mem_putIn hc with hold | rfl
  · obtain ⟨column, hcolumn, rfl⟩ := List.mem_map.1 hold
    have hrows : f.toTable.rows = f.height := by
      simp [Table.rows, Frame.toTable, List.ne_nil_of_mem hcolumn]
    exact Except.ok.inj hcells ▸ (hf column hcolumn).trans hrows.symm
  · exact Except.ok.inj hcells ▸ List.length_replicate

/-- A column of a plan of expressions is left as it is by the drop, if it is not temporary. -/
theorem find?_of_apply {a : AppliedBatch} {t : Table} {n : String}
    (hp : build .standard plan = .ok p) (hstatements : p.statements = [])
    (hw : p.assignAll t = .ok w) (hnames : n ∈ w.table.names) (hplain : Table.IsPlain n)
    (hn : '_' ∉ n.toList) (ha : p.apply t = .ok a) :
    n ∈ a.table.names ∧ a.table.find? n = w.table.find? n := by
  have hundropped := (undropped_eq_ok hstatements).2 hw
  obtain ⟨w', hw', u, hu, rfl⟩ := apply_eq_ok.1 ha
  obtain rfl : w = w' := Except.ok.inj (hundropped.symm.trans hw')
  have hkept : n ∈ u.names := (Plan.mem_names_iff_of_drop hp hundropped hu hnames).2
    (.inr ⟨n, hnames, Plan.not_drops hn, (Table.standsFor_of_plain hplain).2 rfl⟩)
  exact ⟨hkept, Table.find?_withoutTemporaries hu hkept⟩

/-- A column of a plan of expressions that is not temporary is exported. -/
theorem mem_columns_of_made {g : Frame} {ts : List String} {n : String} {dtype : DType}
    {cells : List Cell} (hp : build .standard plan = .ok p) (hstatements : p.statements = [])
    (hw : p.assignAll f.toTable = .ok w) (hfind : w.table.find? n = some ⟨dtype, .ok cells⟩)
    (hplain : Table.IsPlain n) (hn : '_' ∉ n.toList) (h : p.made f = .ok (g, ts)) :
    ⟨n, dtype, cells⟩ ∈ g.columns := by
  obtain ⟨a, ha, hcollect⟩ : ∃ a, p.apply f.toTable = .ok a ∧ a.table.collect = .ok g := by
    simp only [made, bind_eq_ok, mapError_eq_ok, pure_eq_ok, Prod.mk.injEq] at h
    obtain ⟨a, ha, _, hg, rfl, _⟩ := h
    exact ⟨a, ha, hg⟩
  have hnames := Table.mem_names_of_find? hfind
  obtain ⟨-, hkept⟩ := find?_of_apply hp hstatements hw hnames hplain hn ha
  exact Table.mem_collect hcollect (hkept.trans hfind)

/-- Behind a plan, a rule that maps the one column that its source stands for. -/
theorem assignAll_mapped {m : String} {dtype : DType} {cells : List Cell}
    (hp : build .standard plan = .ok p) (hargs : args.valueList ≠ [])
    (hf : ∀ c ∈ f.columns, c.cells.length = f.height) (hw : p.assignAll f.toTable = .ok w)
    (hfound : w.table.matching source = .ok [m]) (hfind : w.table.find? m = some ⟨dtype, .ok cells⟩)
    (hcast : dtype.castsTo .text = true) :
    (p.behind r (.assign (.mapped r.output source args))).assignAll f.toTable =
      .ok ⟨⟨w.table.height, Table.putIn r.output ⟨.text, .ok (cells.map fun x =>
        Cell.orNull .text (args.outcome (Cell.text? dtype x)))⟩ w.table.columns⟩, w.expanded⟩ := by
  obtain ⟨-, heven⟩ := isEven_assignAll hp hf hw
  exact (assignAll_behind hw).trans
    (Working.assign_mapped hargs hfound hfind (heven.find? hfind rfl) hcast)

/-- **A rule that maps values is a lookup, row by row.**  Behind any plan, a rule that maps a column
fills its own column with the outcome for the text of each row: the first entry whose key has that
text counts, a row without one becomes the default, and a missing value becomes the default only if
it should.  If nothing of the plan is in SQL and the column is not temporary, this is what is
exported.  The column has to be the one that the name of the source column stands for: if that looks
like a pattern and stands for no column, the rule does nothing. -/
theorem made_mapped {found : List String} (hp : build .standard plan = .ok p)
    (hr : r.Maps source args) (hargs : args.valueList ≠ [])
    (hf : ∀ c ∈ f.columns, c.cells.length = f.height) (hw : p.assignAll f.toTable = .ok w)
    (hfound : w.table.matching source = .ok found) :
    ∃ q, build .standard ⟨plan.provider, plan.rules ++ [r]⟩ = .ok q ∧
      (∀ m dtype cells, found = [m] → w.table.find? m = some ⟨dtype, .ok cells⟩ →
        dtype.castsTo .text = true →
        let outcomes := cells.map fun x => Cell.orNull .text (args.outcome (Cell.text? dtype x))
        q.assignAll f.toTable = .ok ⟨⟨w.table.height, Table.putIn r.output ⟨.text, .ok outcomes⟩
          w.table.columns⟩, w.expanded⟩ ∧
        (p.statements = [] → r.isTemporary = false → ∀ g ts, q.made f = .ok (g, ts) →
          ⟨r.output, .text, outcomes⟩ ∈ g.columns)) ∧
      (found = [] → q.assignAll f.toTable = .ok w) := by
  have hq := build_concat hp hr.step
  refine ⟨_, hq, ?_, ?_⟩
  · rintro m dtype cells rfl hfind hcast outcomes
    have hassigned := assignAll_mapped (r := r) hp hargs hf hw hfound hfind hcast
    refine ⟨hassigned, fun hstatements hkept g ts hg => ?_⟩
    have hunderscore : '_' ∉ r.output.toList :=
      Rule.output_of_not_temporary hkept ▸ r.focusColumn.underscore_not_mem
    exact mem_columns_of_made hq (by simp [behind, hstatements, PlanStep.statement?]) hassigned
      Table.lookup_putIn_self r.isPlain_output hunderscore hg
  · rintro rfl
    obtain ⟨hcolumns, -⟩ := isEven_assignAll hp hf hw
    exact (assignAll_behind hw).trans (Working.assign_mapped_nothing hcolumns hargs hfound)

/-- Whole numbers against keys of which two have one text, with a default that missing values do not
get. -/
theorem made_mapped_codes :
    let args : MapValuesArgs := ⟨[⟨.text "1", .text "one"⟩, ⟨.int 1, .text "uno"⟩,
      ⟨.int 2, .bool true⟩], some (.text "other"), false⟩
    let r : Rule := ⟨"codes", .region, some "code", .mapValues, .mapValues args, none, 0, 0⟩
    let f : Frame := ⟨4, [⟨"code", .i64, [.int 1, .null, .int 2, .int 3]⟩]⟩
    ∃ q g ts, build .standard ⟨"aws", [r]⟩ = .ok q ∧ q.made f = .ok (g, ts) ∧
      ⟨"Region", .text, [.text "one", .null, .text "true", .text "other"]⟩ ∈ g.columns := by
  intro args r f
  have hf : ∀ c ∈ f.columns, c.cells.length = f.height := by simp [f]
  have hp : build .standard ⟨"aws", []⟩ = .ok (start "aws") := rfl
  obtain ⟨q, hq, hmapped, -⟩ := made_mapped (r := r) (f := f) hp ⟨rfl, rfl, rfl⟩
    (by simp [args]) hf rfl (Table.matching_of_plain (n := "code") (by decide))
  have hbuild : build .standard ⟨"aws", [r]⟩ = .ok (⟨"aws", [providerAssignment "aws",
    .mapped "Region" "code" args], [], ["Region"], []⟩ : CompiledPlan) := rfl
  obtain rfl := Except.ok.inj (hbuild.symm.trans hq)
  obtain ⟨⟨g, ts⟩, hg⟩ : ∃ m, made (⟨"aws", [providerAssignment "aws",
      .mapped "Region" "code" args], [], ["Region"], []⟩ : CompiledPlan) f = .ok m :=
    exists_of_isSome (by decide +kernel)
  have hcolumn := (hmapped "code" .i64 _ rfl rfl rfl).2 rfl rfl g ts hg
  exact ⟨_, g, ts, hbuild, hg, hcolumn⟩

/-- A column whose name looks like a pattern is not mapped: the name stands for no column, and
nothing is written. -/
theorem mapped_column_unread :
    let drafts : List RuleDraft :=
      [{ planName := "codes", focusColumn := "Region", sourceColumn := "^x$",
         conversionType := "map_values",
         conversionArgs := some (.entries [("value_list", .list
           [.entries [("key", .text "v"), ("value", .text "west")]])]) }]
    let f : Frame := ⟨1, [⟨"^x$", .text, [.text "v"]⟩]⟩
    ∃ rules q g ts, drafts.mapM RuleDraft.validate = .ok rules ∧
      build .standard ⟨"test", rules⟩ = .ok q ∧ q.made f = .ok (g, ts) ∧ "Region" ∉ g.names := by
  intro drafts f
  let args : MapValuesArgs := ⟨[⟨.text "v", .text "west"⟩], none, true⟩
  let r : Rule := ⟨"codes", .region, some "^x$", .mapValues, .mapValues args, none, 0, 0⟩
  let q : CompiledPlan :=
    ⟨"test", [providerAssignment "test", .mapped "Region" "^x$" args], [], ["Region"], []⟩
  have hrules : drafts.mapM RuleDraft.validate = .ok [r] := by
    simp only [drafts, r, args]
    rfl
  have hmade : (q.made f).toOption.map (·.1.names) = some ["^x$", "provider"] := by
    decide +kernel
  obtain ⟨⟨g, ts⟩, hg, hnames⟩ := exists_of_map_toOption hmade
  exact ⟨[r], q, g, ts, hrules, rfl, hg, by rw [hnames]; decide⟩

end CompiledPlan

end FocusBilling
