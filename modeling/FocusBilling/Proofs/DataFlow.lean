import Mathlib.Logic.Relation
import FocusBilling.Proofs.Dependencies
import FocusBilling.Proofs.Sql.References
import FocusBilling.Proofs.Unmentioned

/-!
# The graph of dependencies and the flow of data

The graph of a plan tells from which columns a column is made, by the documents of the rules alone.
Two batches that agree on all of them come out with the same column, whatever else they hold.

* `DependencyGraph.Reaches` : a column is made from another one, along the edges of a graph;
* `Table.Alike` : two tables of the same rows and names, whose columns are alike;
* `Assignment.alike_run`, `SqlStep.Alongside.run` : **a step keeps what two runs agree on**, if it
  reads such columns only, or writes none of them;
* `CompiledPlan.alike_undropped` : all steps of a plan, in front of the drop;
* `CompiledPlan.made_eq_upstream` : **columns come out alike that are made from like columns.**
-/

namespace FocusBilling

/-! ### The graph -/

namespace DependencyGraph

variable {plan : Plan} {r : Rule} {n m column : String}

/-- An edge leads from one column to another. -/
def Feeds (g : DependencyGraph) (n m : String) : Prop :=
  ∃ e ∈ g.edges, e.source = n ∧ e.target = m

/-- A column can be reached from another one along the edges. -/
def Reaches (g : DependencyGraph) : String → String → Prop := Relation.ReflTransGen g.Feeds

/-- From what a rule reads one reaches whatever one reaches from what it writes. -/
theorem Reaches.of_source (h : (ofPlan plan).Reaches r.output column) (hr : r ∈ plan.rules)
    (hn : n ∈ r.sources) : (ofPlan plan).Reaches n column := by
  by_cases heq : n = r.output
  · exact heq ▸ h
  · refine .head ⟨edgeOf r n, ?_, rfl, rfl⟩ h
    rw [edges_ofPlan]
    refine List.mem_flatMap.2 ⟨r, hr, List.mem_map_of_mem (List.mem_filter.2 ⟨hn, ?_⟩)⟩
    simpa using heq

end DependencyGraph

/-! ### Two runs whose columns are alike -/

namespace Table

variable {t u : Table} {R : String → Deferred → Deferred → Prop} {n : String} {d e : Deferred}
  {columns others filled filled' : List (String × Deferred)}

/-- Columns of the same names in the same order, each of which is related to its counterpart. -/
def AlikeColumns (R : String → Deferred → Deferred → Prop) :
    List (String × Deferred) → List (String × Deferred) → Prop :=
  List.Forall₂ fun c d => d.1 = c.1 ∧ R c.1 c.2 d.2

/-- Two tables of the same rows, whose columns are alike. -/
structure Alike (R : String → Deferred → Deferred → Prop) (t u : Table) : Prop where
  height : u.height = t.height
  columns : AlikeColumns R t.columns u.columns

theorem AlikeColumns.putIn (h : AlikeColumns R columns others) (hd : R n d e) :
    AlikeColumns R (Table.putIn n d columns) (Table.putIn n e others) := by
  induction h with
  | nil => exact .cons ⟨rfl, hd⟩ .nil
  | @cons c c' columns others hc hrest ih =>
    obtain ⟨m, x⟩ := c
    obtain ⟨_, y⟩ := c'
    obtain ⟨rfl, hxy⟩ := hc
    rw [Table.putIn, Table.putIn]
    split
    next heq =>
      subst heq
      exact .cons ⟨rfl, hd⟩ hrest
    next => exact .cons ⟨rfl, hxy⟩ ih

theorem AlikeColumns.putEach (h : AlikeColumns R columns others)
    (hfilled : AlikeColumns R filled filled') :
    AlikeColumns R (Table.putEach columns filled) (Table.putEach others filled') := by
  induction hfilled generalizing columns others with
  | nil => exact h
  | @cons c c' _ _ hc _ ih =>
    obtain ⟨m, x⟩ := c
    obtain ⟨_, y⟩ := c'
    obtain ⟨rfl, hxy⟩ := hc
    exact ih (h.putIn hxy)

theorem AlikeColumns.names_eq (h : AlikeColumns R columns others) :
    others.map (·.1) = columns.map (·.1) := by
  induction h with
  | nil => rfl
  | cons hc _ ih => rw [List.map_cons, List.map_cons, hc.1, ih]

/-- A column and its counterpart are both there or neither. -/
theorem AlikeColumns.lookup (h : AlikeColumns R columns others) (n : String) :
    (columns.lookup n = none ∧ others.lookup n = none) ∨
      ∃ d e, columns.lookup n = some d ∧ others.lookup n = some e ∧ R n d e := by
  induction h with
  | nil => exact .inl ⟨rfl, rfl⟩
  | @cons c c' columns others hc _ ih =>
    obtain ⟨m, x⟩ := c
    obtain ⟨_, y⟩ := c'
    obtain ⟨rfl, hxy⟩ := hc
    rw [List.lookup_cons, List.lookup_cons]
    cases hm : n == _ with
    | false => exact ih
    | true =>
      obtain rfl := beq_iff_eq.1 hm
      exact .inr ⟨x, y, rfl, rfl, hxy⟩

namespace Alike

theorem names_eq (h : Alike R t u) : u.names = t.names := h.columns.names_eq

theorem imp {Q : String → Deferred → Deferred → Prop} (h : Alike R t u)
    (hRQ : ∀ n d e, R n d e → Q n d e) : Alike Q t u :=
  ⟨h.height, h.columns.imp fun _ _ hc => ⟨hc.1, hRQ _ _ _ hc.2⟩⟩

theorem columns_ne_nil (h : Alike R t u) (ht : t.columns ≠ []) : u.columns ≠ [] := by
  intro hu
  have hnames := h.names_eq
  rw [Table.names, hu] at hnames
  exact ht (List.map_eq_nil_iff.1 hnames.symm)

theorem putIn (h : Alike R t u) {o : String} (hd : R o d e) :
    Alike R ⟨t.height, Table.putIn o d t.columns⟩ ⟨u.height, Table.putIn o e u.columns⟩ :=
  ⟨h.height, h.columns.putIn hd⟩

end Alike

/-- Columns that are alike agree where it matters. -/
def AgreesOn (S : String → Prop) (n : String) (d e : Deferred) : Prop := S n → e = d

/-- Columns that are alike agree where it matters, and everywhere in their types. -/
def TypedOn (S : String → Prop) (n : String) (d e : Deferred) : Prop :=
  e.dtype = d.dtype ∧ AgreesOn S n d e

variable {S : String → Prop}

theorem Alike.find? (h : Alike (AgreesOn S) t u) (hn : S n) : u.find? n = t.find? n := by
  rcases h.columns.lookup n with ⟨ht, hu⟩ | ⟨d, e, ht, hu, hde⟩
  · rw [Table.find?, Table.find?, ht, hu]
  · rw [Table.find?, Table.find?, ht, hu, hde hn]

theorem Alike.agrees (h : Alike (TypedOn S) t u) : Alike (AgreesOn S) t u :=
  h.imp fun _ _ _ hc => hc.2

theorem Alike.schema_eq (h : Alike (TypedOn S) t u) : u.schema = t.schema := by
  have hcolumns := h.columns
  rw [Table.schema, Table.schema]
  generalize t.columns = columns, u.columns = others at hcolumns
  induction hcolumns with
  | nil => rfl
  | cons hc _ ih => rw [List.map_cons, List.map_cons, hc.1, hc.2.1, ih]

end Table

namespace Scalar

open Table (Alike TypedOn)

variable {t u : Table} {S : String → Prop} {rows : Nat}

mutual

/-- The type of an expression is told by the types of columns. -/
theorem dtype_eval (h : Alike (TypedOn S) t u) : (e : Scalar) → ∀ {d d'},
    e.eval t rows = .ok d → e.eval u rows = .ok d' → d'.dtype = d.dtype
  | column n, d, d', hd, hd' => by
    rw [eval, Table.get, Table.find?] at hd hd'
    rcases h.columns.lookup n with ⟨ht, hu⟩ | ⟨x, y, ht, hu, hxy⟩
    · rw [ht] at hd
      cases hd
    · rw [ht] at hd
      rw [hu] at hd'
      cases hd
      cases hd'
      exact hxy.1
  | constant .., _, _, hd, hd' => by
    cases hd
    cases hd'
    rfl
  | apply op args, d, d', hd, hd' => by
    simp only [eval, bind_eq_ok, pure_eq_ok] at hd hd'
    obtain ⟨ds, hds, type, htype, rfl⟩ := hd
    obtain ⟨ds', hds', type', htype', rfl⟩ := hd'
    rw [dtypes_evalAll h args hds hds', htype] at htype'
    exact (Except.ok.inj htype').symm
  | inferred p arg, d, d', hd, hd' => by
    simp only [eval, bind_eq_ok, pure_eq_ok] at hd hd'
    obtain ⟨_, _, rfl⟩ := hd
    obtain ⟨_, _, rfl⟩ := hd'
    rfl

theorem dtypes_evalAll (h : Alike (TypedOn S) t u) : (es : List Scalar) → ∀ {ds ds'},
    evalAll t rows es = .ok ds → evalAll u rows es = .ok ds' →
      ds'.map (·.dtype) = ds.map (·.dtype)
  | [], _, _, hd, hd' => by
    cases hd
    cases hd'
    rfl
  | e :: es, ds, ds', hd, hd' => by
    simp only [evalAll, bind_eq_ok, pure_eq_ok] at hd hd'
    obtain ⟨x, hx, xs, hxs, rfl⟩ := hd
    obtain ⟨y, hy, ys, hys, rfl⟩ := hd'
    rw [List.map_cons, List.map_cons, dtype_eval h e hx hy, dtypes_evalAll h es hxs hys]

end

end Scalar

namespace Assignment

open Table (Alike TypedOn)

variable {t u t' u' : Table} {a : Assignment} {S : String → Prop}
  {named : List (String × Scalar)}

/-- The expressions of a step with plain sources read these. -/
theorem mem_sources_of_reads (h : a.columns t = .ok named)
    (hplain : ∀ n ∈ a.sources, Table.IsPlain n) {v : String × Scalar} (hv : v ∈ named) {n : String}
    (hn : n ∈ v.2.reads) : n ∈ a.sources := by
  have hexpand : ∀ {e : Scalar} {output values}, (∀ m ∈ e.reads, Table.IsPlain m) →
      (do pure ((← e.expand t).map fun v => (output, v)) : Except FrameError _) = .ok values →
      v ∈ values → n ∈ e.reads := by
    intro e output values he hvalues hv
    simp only [Scalar.expand_of_plain he, bind_eq_ok, pure_eq_ok] at hvalues
    obtain ⟨_, ⟨⟩, rfl⟩ := hvalues
    obtain rfl := List.mem_singleton.1 hv
    exact hn
  have hmatching : ∀ {source found}, Table.IsPlain source → t.matching source = .ok found →
      ∀ s ∈ found, s = source := by
    intro source found hs hfound s hmem
    rw [Table.matching_of_plain hs] at hfound
    cases hfound
    exact List.mem_singleton.1 hmem
  cases a with
  | column output value => exact hexpand hplain h hv
  | field output source name =>
    simp only [columns, bind_eq_ok, pure_eq_ok] at h
    obtain ⟨sources, hsources, found, hfound, rfl⟩ := h
    obtain ⟨s, hs, fields, hfields, hv⟩ := (mem_flatten_of_mapM hfound).1 hv
    simp only [bind_eq_ok, pure_eq_ok] at hfields
    obtain ⟨_, _, names, _, rfl⟩ := hfields
    obtain ⟨_, _, rfl⟩ := List.mem_map.1 hv
    exact hmatching (hplain source (List.mem_singleton_self _)) hsources s hs ▸ hn
  | expanded output source =>
    simp only [columns, bind_eq_ok, pure_eq_ok] at h
    obtain ⟨sources, hsources, found, hfound, rfl⟩ := h
    obtain ⟨s, hs, fields, hfields, hv⟩ := (mem_flatten_of_mapM hfound).1 hv
    simp only [bind_eq_ok, pure_eq_ok] at hfields
    obtain ⟨_, _, rfl⟩ := hfields
    obtain ⟨_, _, rfl⟩ := List.mem_map.1 hv
    exact hmatching (hplain source (List.mem_singleton_self _)) hsources s hs ▸ hn
  | defaultIfMissing output source default =>
    rw [columns] at h
    split at h
    · exact hexpand (e := .column source) hplain h hv
    · cases h
      rw [List.mem_singleton.1 hv] at hn
      cases hn

/-- **A step that fills columns keeps what two runs agree on**, if it reads such columns only, or
writes none of them. -/
theorem alike_run (h : Alike (TypedOn S) t u) (ht : t.columns ≠ [])
    (ha : ∀ source, a ≠ .expanded a.output source)
    (hreads : S a.output → ∀ n ∈ a.sources, Table.IsPlain n ∧ S n)
    (hrun : a.run t = .ok t') (hrun' : a.run u = .ok u') :
    Alike (TypedOn S) t' u' := by
  obtain ⟨named, filled, hnamed, hfilled, -, rfl⟩ := (run_eq_ok ht).1 hrun
  obtain ⟨named', filled', hnamed', hfilled', -, rfl⟩ :=
    (run_eq_ok (h.columns_ne_nil ht)).1 hrun'
  rw [columns_congr h.schema_eq, hnamed] at hnamed'
  cases hnamed'
  refine ⟨h.height, h.columns.putEach ?_⟩
  -- each column is filled by one expression, in both runs
  have heach : ∀ v ∈ named, ∀ d d', v.2.eval t t.height = .ok d → v.2.eval u u.height = .ok d' →
      TypedOn S v.1 d d' := by
    intro v hv d d' hd hd'
    rw [h.height] at hd'
    refine ⟨Scalar.dtype_eval h v.2 hd hd', fun hS => ?_⟩
    have houtput : v.1 = a.output :=
      (eq_output_of_mem hnamed (List.mem_map_of_mem hv)).resolve_right fun ⟨source, hs⟩ =>
        ha source hs
    have hsources := hreads (houtput ▸ hS)
    have hsame : v.2.eval u t.height = v.2.eval t t.height := Scalar.eval_congr v.2 fun n hn => by
      have hS' := (hsources n (mem_sources_of_reads hnamed (fun m hm => (hsources m hm).1) hv hn)).2
      rw [Table.get, Table.get, h.agrees.find? hS']
    rw [hsame, hd] at hd'
    exact (Except.ok.inj hd').symm
  clear hrun hrun' hnamed hreads
  induction hfilled generalizing filled' with
  | nil =>
    cases hfilled'
    exact .nil
  | cons hd _ ih =>
    obtain _ | ⟨hd', hrest'⟩ := hfilled'
    refine .cons ⟨hd'.1.trans hd.1.symm, ?_⟩ (ih _ hrest' fun v hv =>
      heach v (List.mem_cons_of_mem _ hv))
    rw [hd.1]
    exact heach _ List.mem_cons_self _ _ hd.2 hd'.2

end Assignment

namespace Working

open Table (Alike TypedOn AgreesOn)

variable {w v w' v' : Working} {S : String → Prop} {steps : List Assignment}

/-- Steps that fill columns keep what two runs agree on. -/
theorem alike_foldlM_assign (h : Alike (TypedOn S) w.table v.table)
    (hexpanded : v.expanded = w.expanded) (ht : w.table.columns ≠ [])
    (hsteps : ∀ a ∈ steps, (∀ source, a ≠ .expanded a.output source) ∧
      (S a.output → ∀ n ∈ a.sources, Table.IsPlain n ∧ S n))
    (hw : steps.foldlM assign w = .ok w') (hv : steps.foldlM assign v = .ok v') :
    Alike (TypedOn S) w'.table v'.table ∧ v'.expanded = w'.expanded ∧ w'.table.columns ≠ [] := by
  induction steps generalizing w v with
  | nil =>
    cases hw
    cases hv
    exact ⟨h, hexpanded, ht⟩
  | cons a steps ih =>
    obtain ⟨w₁, hw₁, hw⟩ := foldlM_cons_eq_ok.1 hw
    obtain ⟨v₁, hv₁, hv⟩ := foldlM_cons_eq_ok.1 hv
    obtain ⟨named, hnamed, hrun, hrecorded⟩ := assign_eq_ok.1 hw₁
    obtain ⟨named', hnamed', hrun', hrecorded'⟩ := assign_eq_ok.1 hv₁
    obtain ⟨ha, hreads⟩ := hsteps a List.mem_cons_self
    have hsame : v₁.expanded = w₁.expanded := by
      rw [Assignment.columns_congr h.schema_eq, hnamed] at hnamed'
      cases hnamed'
      rw [hrecorded, hrecorded', hexpanded]
    exact ih (Assignment.alike_run h ht ha hreads hrun hrun') hsame
      ((extends_assign ht hw₁).columns_ne_nil ht)
      (fun b hb => hsteps b (List.mem_cons_of_mem _ hb)) hw hv

end Working

namespace SqlStep

open Table (Alike AgreesOn)

variable {r s r' s' : Table × Sql.Catalog} {S : String → Prop} {steps : List SqlStep}

/-- Two runs in SQL that agree where it matters. -/
structure Alongside (S : String → Prop) (r s : Table × Sql.Catalog) : Prop where
  tables : Alike (AgreesOn S) r.1 s.1
  columns : r.1.columns ≠ []
  distinct : r.1.names.Nodup
  bare₁ : r.2.IsBare
  bare₂ : s.2.IsBare

/-- **A condition keeps what two runs agree on**, if it reads such columns only, or fills none of
them. -/
theorem Alongside.run {o text : String} {clauses others : List String} (h : Alongside S r s)
    (hs : (condition o clauses text).IsConfinedTo others)
    (hreads : S o → ∀ n ∈ others ++ reported clauses, S n)
    (hr : (condition o clauses text).run r.1 r.2 = .ok r')
    (hs' : (condition o clauses text).run s.1 s.2 = .ok s') : Alongside S r' s' := by
  obtain ⟨t, c⟩ := r
  obtain ⟨u, d⟩ := s
  cases hparse : Sql.parse? true ((condition o clauses text).render (some t.names)) with
  | none =>
    obtain ⟨e, he⟩ := run_of_unreadable (c := c) hparse
    cases he.symm.trans hr
  | some statements =>
    obtain ⟨e, label, place, hlabel, rfl, hsettled⟩ := hs t.names statements hparse
    have hnames : u.names = t.names := h.tables.names_eq
    obtain ⟨-, -, F, found, hF, -, hfound, ht, hc⟩ :=
      (run_condition_eq_ok h.columns h.distinct hlabel hparse).1 hr
    obtain ⟨-, -, F', found', hF', -, hfound', hu, hd⟩ :=
      (run_condition_eq_ok (h.tables.columns_ne_nil h.columns) (hnames ▸ h.distinct)
        (hnames ▸ hlabel) (hnames ▸ hparse)).1 hs'
    have hsame : S o → found' = found := by
      intro ho
      have hsub : ∀ n ∈ others ++ reported (clauses.filter (isLive t.names)), S n := by
        intro n hn
        refine hreads ho n (List.mem_append.2 ((List.mem_append.1 hn).imp_right fun hn => ?_))
        obtain ⟨clause, hclause, hn⟩ := List.mem_flatMap.1 hn
        exact List.mem_flatMap.2 ⟨clause, List.mem_of_mem_filter hclause, hn⟩
      obtain ⟨hformula, hsettles⟩ := hsettled t u c d h.bare₁ h.bare₂ fun n hn =>
        h.tables.find? (hsub n hn)
      rw [hformula, hF] at hF'
      cases hF'
      have heval : F.eval false (.ofTable u) = F.eval false (.ofTable t) :=
        F.eval_congr false ⟨congrArg Except.ok h.tables.height, fun n hn =>
          h.tables.find? (hsub n (hsettles F hF n hn))⟩
      rw [heval, hfound] at hfound'
      exact (Except.ok.inj hfound').symm
    obtain ⟨t', c'⟩ := r'
    obtain ⟨u', d'⟩ := s'
    subst ht hu hc hd
    refine ⟨h.tables.putIn fun ho => ?_, Table.putIn_ne_nil,
      (Table.extends_putEach [(o, _)]).distinct h.distinct, h.bare₁.next _, h.bare₂.next _⟩
    rw [hsame ho, h.tables.height]

/-- Conditions keep what two runs agree on. -/
theorem Alongside.foldlM (h : Alongside S r s)
    (hsteps : ∀ step ∈ steps, ∃ o clauses text others, step = condition o clauses text ∧
      step.IsConfinedTo others ∧ (S o → ∀ n ∈ others ++ reported clauses, S n))
    (hr : steps.foldlM (fun r s => s.run r.1 r.2) r = .ok r')
    (hs : steps.foldlM (fun r s => s.run r.1 r.2) s = .ok s') : Alongside S r' s' := by
  induction steps generalizing r s with
  | nil =>
    cases hr
    cases hs
    exact h
  | cons step steps ih =>
    obtain ⟨r₁, hfirst, hrest⟩ := foldlM_cons_eq_ok.1 hr
    obtain ⟨s₁, hfirst', hrest'⟩ := foldlM_cons_eq_ok.1 hs
    obtain ⟨o, clauses, text, others, rfl, hconfined, hreads⟩ := hsteps step List.mem_cons_self
    exact ih (h.run hconfined hreads hfirst hfirst')
      (fun step hstep => hsteps step (List.mem_cons_of_mem _ hstep)) hrest hrest'

end SqlStep

/-! ### The drop and the frame -/

namespace Table

variable {t u t' u' : Table} {S : String → Prop} {temporaries : List String} {n : String}

/-- The drop of temporary columns keeps what two tables agree on. -/
theorem Alike.find?_withoutTemporaries (h : Alike (AgreesOn S) t u) (hn : S n)
    (ht : CompiledPlan.withoutTemporaries t temporaries = .ok t')
    (hu : CompiledPlan.withoutTemporaries u temporaries = .ok u') : u'.find? n = t'.find? n := by
  have hmem : n ∈ u'.names ↔ n ∈ t'.names := by
    rw [CompiledPlan.mem_names_withoutTemporaries ht, CompiledPlan.mem_names_withoutTemporaries hu]
    simp only [StandsFor, matching, h.names_eq]
  by_cases hkept : n ∈ t'.names
  · rw [Table.find?_withoutTemporaries ht hkept, Table.find?_withoutTemporaries hu (hmem.2 hkept),
      h.find? hn]
  · have hnone : ∀ {v : Table}, n ∉ v.names → v.find? n = none := fun hv =>
      Option.not_isSome_iff_eq_none.1 fun hsome => hv (isSome_find?.1 hsome)
    rw [hnone hkept, hnone fun hmem' => hkept (hmem.1 hmem')]

/-- Two frames of one height and one schema that agree where it matters. -/
theorem alike_toTable {f g : Frame} (hheight : g.height = f.height) (hschema : g.schema = f.schema)
    (hdistinct : f.names.Nodup) (hS : ∀ n, S n → g.toTable.find? n = f.toTable.find? n) :
    Alike (TypedOn S) f.toTable g.toTable := by
  have hpaired : List.Forall₂ (fun c d : Column => (c.name, c.dtype) = (d.name, d.dtype)) f.columns
      g.columns := by
    have hrefl : List.Forall₂ Eq f.schema g.schema := hschema ▸ List.forall₂_refl _
    exact List.forall₂_map_left_iff.1 (List.forall₂_map_right_iff.1 hrefl)
  have hnames : g.names = f.names := by
    simpa [Frame.schema, Frame.names, Function.comp_def] using congrArg (List.map Prod.fst) hschema
  refine ⟨hheight, List.forall₂_map_left_iff.2 (List.forall₂_map_right_iff.2 ?_)⟩
  refine List.forall₂_iff_zip.2 ⟨hpaired.length_eq, fun {c d} hcd => ?_⟩
  obtain ⟨hname, htype⟩ := Prod.mk.inj (List.forall₂_zip hpaired hcd)
  obtain ⟨hc, hd⟩ := List.of_mem_zip hcd
  refine ⟨hname.symm, htype.symm, fun hs => ?_⟩
  have hf := find?_toTable (f.names_toTable ▸ hdistinct) hc
  have hg := find?_toTable (g.names_toTable ▸ hnames ▸ hdistinct) hd
  rw [← hname, hS _ hs, hf] at hg
  exact (Option.some.inj hg).symm

end Table

/-! ### Columns made from like columns -/

namespace Rule

variable {r : Rule} {a : Assignment}

/-- A rule reads no more than its document tells: its source column is a plain name, and as a
condition it has clauses that tell the columns they name.  The arguments of a rule from a document
are those of its kind, and its default is a finite number if it is a number, so that it names no
column. -/
structure Tells (r : Rule) : Prop where
  bare : r.kind = .renameColumn ∨ r.kind = .assignUtcTimezone → r.args = .none
  plain : ∀ n, r.sourceColumn = some n → Table.IsPlain n
  finite : ∀ args, r.args = .sqlCondition args → SqlStep.defaultNames args.default = []
  clauses : ∀ args, r.args = .sqlCondition args →
    ∀ clause ∈ args.conditions, Sql.TellsColumns clause

/-- The document of a rule that fills columns by expressions tells its source column. -/
theorem Tells.sources_of_step (hr : r.Tells) (h : r.step .standard = .ok (.assign a)) :
    r.sources = r.sourceColumn.toList := by
  rw [sources]
  cases step_eq_assign.1 h with
  | renamed hk | assignedUtc hk => rw [hr.bare (by simp [hk])]
  | constant _ hargs | mapped _ hargs | field _ hargs | expanded _ hargs | defaulted _ hargs
  | cast _ hargs | assigned _ hargs | converted _ hargs | read _ hargs | inferred _ hargs =>
    rw [hargs]

end Rule

namespace CompiledPlan

open DependencyGraph

variable {plan : Plan} {p : CompiledPlan} {column : String}

/-- **In front of the drop two runs agree on a column and on those from which it can be reached**,
if they have done so from the start. -/
theorem alike_undropped {t u : Table} {w v : Working} (hp : build .standard plan = .ok p)
    (hquery : ∀ r ∈ plan.rules, r.kind ≠ .sqlQuery) (hexpands : ∀ r ∈ plan.rules, ¬r.Expands)
    (hclauses : ∀ r ∈ plan.rules, ∀ args, r.args = .sqlCondition args →
      ∀ clause ∈ args.conditions, Sql.ReportsBranches (Text.trim clause))
    (htells : ∀ r ∈ plan.rules, (ofPlan plan).Reaches r.output column → r.Tells)
    (h : Table.Alike (Table.TypedOn fun n => (ofPlan plan).Reaches n column) t u)
    (ht : t.columns ≠ []) (hdistinct : t.names.Nodup) (hw : p.undropped t = .ok w)
    (hv : p.undropped u = .ok v) :
    Table.Alike (Table.AgreesOn fun n => (ofPlan plan).Reaches n column) w.table v.table ∧
      v.expanded = w.expanded := by
  obtain ⟨steps, hsteps, hassignments, hstatements⟩ := steps_of_build hp
  simp only [undropped, bind_eq_ok, mapError_eq_ok, pure_eq_ok] at hw hv
  obtain ⟨w₀, hw₀, r, hr, rfl⟩ := hw
  obtain ⟨v₀, hv₀, s, hs, rfl⟩ := hv
  have hassigns : ∀ a ∈ p.assignments, (∀ source, a ≠ .expanded a.output source) ∧
      ((ofPlan plan).Reaches a.output column → ∀ n ∈ a.sources, Table.IsPlain n ∧
        (ofPlan plan).Reaches n column) := by
    intro a ha
    refine ⟨fun source ha' => ?_, fun hreaches n hn => ?_⟩
    · obtain ⟨r, hr, hexpand, -⟩ := (expanded_mem_iff hp).1 ⟨source, ha' ▸ ha⟩
      exact hexpands r hr hexpand
    · rw [hassignments] at ha
      rcases List.mem_cons.1 ha with rfl | ha
      · cases hn
      obtain ⟨r, hr, hstep⟩ := rule_of_assignment hsteps ha
      rw [Rule.output_of_step hstep] at hreaches
      have hr' := htells r hr hreaches
      have hsource := Rule.source_of_step hstep hn
      refine ⟨hr'.plain n hsource, hreaches.of_source hr ?_⟩
      rw [hr'.sources_of_step hstep, hsource]
      exact List.mem_singleton_self n
  have hconditions : ∀ s ∈ p.statements, ∃ o clauses text others,
      s = .condition o clauses text ∧ s.IsConfinedTo others ∧
        ((ofPlan plan).Reaches o column →
          ∀ n ∈ others ++ SqlStep.reported clauses, (ofPlan plan).Reaches n column) := by
    intro s hs
    rw [hstatements] at hs
    obtain ⟨r, hr, hstep⟩ := rule_of_statement hsteps hs
    obtain ⟨args, hargs, rfl⟩ := Rule.condition_of_step hstep (hquery r hr)
    refine ⟨_, _, _, SqlStep.defaultNames args.default, rfl,
      SqlStep.isConfinedTo_of_branches (List.forall_mem_map.2 (hclauses r hr args hargs)) _ _, ?_⟩
    intro hreaches n hn
    have hr' := htells r hr hreaches
    rw [hr'.finite args hargs, List.nil_append] at hn
    obtain ⟨_, htrimmed, hn⟩ := List.mem_flatMap.1 hn
    obtain ⟨clause, hclause, rfl⟩ := List.mem_map.1 htrimmed
    refine hreaches.of_source hr ?_
    rw [Rule.sources, hargs]
    exact Sql.mem_conditionColumns_joined (hr'.clauses args hargs) hclause hn
  obtain ⟨halike, hexpanded, hcolumns⟩ := Working.alike_foldlM_assign (w := ⟨t, []⟩)
    (v := ⟨u, []⟩) h rfl ht hassigns hw₀ hv₀
  have hstart : SqlStep.Alongside (fun n => (ofPlan plan).Reaches n column)
      (w₀.table, .empty) (v₀.table, .empty) :=
    ⟨halike.agrees, hcolumns, (Working.extends_foldlM_assign ht hw₀).distinct hdistinct,
      Sql.Catalog.isBare_empty, Sql.Catalog.isBare_empty⟩
  exact ⟨(hstart.foldlM hconditions hr hs).tables, hexpanded⟩

/-- **Columns come out alike that are made from like columns.**  Two batches of one height and one
schema may differ in any column from which a column cannot be reached along the edges of the graph:
what a plan makes of them has the same column, if it makes something of both.  The clauses of a
condition must be branches of a choice that read what they report only; and each rule from whose
column that one can be reached must read no more than its document tells. -/
theorem made_eq_upstream {f f' : Frame} {a a' : Frame × List String}
    (hp : build .standard plan = .ok p) (hquery : ∀ r ∈ plan.rules, r.kind ≠ .sqlQuery)
    (hexpands : ∀ r ∈ plan.rules, ¬r.Expands)
    (hclauses : ∀ r ∈ plan.rules, ∀ args, r.args = .sqlCondition args →
      ∀ clause ∈ args.conditions, Sql.ReportsBranches (Text.trim clause))
    (htells : ∀ r ∈ plan.rules, (ofPlan plan).Reaches r.output column → r.Tells)
    (hheight : f'.height = f.height) (hschema : f'.schema = f.schema) (hdistinct : f.names.Nodup)
    (hagree : ∀ n, (ofPlan plan).Reaches n column → f'.toTable.find? n = f.toTable.find? n)
    (ha : p.made f = .ok a) (ha' : p.made f' = .ok a') :
    a'.1.toTable.find? column = a.1.toTable.find? column := by
  by_cases hcolumns : f.columns = []
  · -- without columns there is one frame of each height
    have hsame : f' = f := by
      obtain ⟨height, columns⟩ := f
      obtain ⟨height', columns'⟩ := f'
      obtain rfl : columns = [] := hcolumns
      obtain rfl : columns' = [] := List.map_eq_nil_iff.1 hschema
      exact congrArg (Frame.mk · []) hheight
    rw [hsame, ha] at ha'
    rw [Except.ok.inj ha']
  simp only [made, bind_eq_ok, mapError_eq_ok, pure_eq_ok] at ha ha'
  obtain ⟨b, hb, g, hg, rfl⟩ := ha
  obtain ⟨b', hb', g', hg', rfl⟩ := ha'
  obtain ⟨w, hw, t, ht, rfl⟩ := apply_eq_ok.1 hb
  obtain ⟨v, hv, u, hu, rfl⟩ := apply_eq_ok.1 hb'
  obtain ⟨halike, hexpanded⟩ := alike_undropped hp hquery hexpands hclauses htells
    (Table.alike_toTable hheight hschema hdistinct hagree)
    (fun h => hcolumns (List.map_eq_nil_iff.1 h)) (f.names_toTable ▸ hdistinct) hw hv
  rw [hexpanded, halike.names_eq] at hu
  rw [Table.toTable_of_collect hg, Table.toTable_of_collect hg']
  exact halike.find?_withoutTemporaries .refl ht hu

/-- The category of a service is filled alike beside other owners. -/
theorem made_eq_upstream_services :
    let clause := "WHEN \"Service\" = 's3' THEN 'Storage'"
    let plan : Plan :=
      ⟨"test", [⟨"service", .serviceName, some "Service", .renameColumn, .none, some "tmp", 0, 0⟩,
        ⟨"kind", .serviceCategory, none, .sqlCondition, .sqlCondition ⟨[clause], .text "Other"⟩,
          none, 0, 1⟩]⟩
    let service : Column := ⟨"Service", .text, [.text "s3", .null]⟩
    let f : Frame := ⟨2, [⟨"Owner", .text, [.text "ann", .text "bob"]⟩, service]⟩
    let f' : Frame := ⟨2, [⟨"Owner", .text, [.null, .text "cid"]⟩, service]⟩
    ∃ p a a', build .standard plan = .ok p ∧ p.made f = .ok a ∧ p.made f' = .ok a' ∧
      a'.1.toTable.find? "ServiceCategory" = a.1.toTable.find? "ServiceCategory" := by
  intro clause plan service f f'
  let p : CompiledPlan :=
    ⟨"test", [providerAssignment "test", .column "tmp_ServiceName" (.column "Service")],
      [.condition "ServiceCategory" [Text.trim clause] (Literal.text "Other").sql],
      ["ServiceName", "ServiceCategory"], ["tmp_ServiceName"]⟩
  have hp : build .standard plan = .ok p := rfl
  have htrim : Text.trim clause = clause := by decide +kernel
  have hreports : Sql.ReportsBranches clause := Sql.reportsBranches_services
  have htells : ∀ r ∈ plan.rules, r.Tells := by
    intro r hr
    simp only [plan, List.mem_cons, List.not_mem_nil, or_false] at hr
    rcases hr with rfl | rfl
    · refine ⟨fun _ => rfl, fun n hn => ?_, nofun, nofun⟩
      cases hn
      decide
    · refine ⟨fun hk => ?_, nofun, fun args hargs => ?_, fun args hargs c hc => ?_⟩
      · rcases hk with hk | hk <;> cases hk
      · cases hargs
        rfl
      · cases hargs
        obtain rfl := List.mem_singleton.1 hc
        exact Sql.tellsColumns_equation "Service" "s3" "Storage" (by decide +kernel) htrim
  have hclauses : ∀ r ∈ plan.rules, ∀ args, r.args = .sqlCondition args →
      ∀ c ∈ args.conditions, Sql.ReportsBranches (Text.trim c) := by
    intro r hr args hargs c hc
    simp only [plan, List.mem_cons, List.not_mem_nil, or_false] at hr
    rcases hr with rfl | rfl <;> cases hargs
    obtain rfl := List.mem_singleton.1 hc
    rwa [htrim]
  -- nothing is made from the owner
  have hunused : ∀ e ∈ (ofPlan plan).edges, e.source ≠ "Owner" := by decide +kernel
  have hagree : ∀ n, (ofPlan plan).Reaches n "ServiceCategory" →
      f'.toTable.find? n = f.toTable.find? n := by
    intro n hn
    have hne : n ≠ "Owner" := by
      rintro rfl
      rcases hn.cases_head with heq | ⟨m, ⟨e, he, hsource, -⟩, -⟩
      · exact absurd heq (by decide)
      · exact hunused e he hsource
    have hbeq : (n == "Owner") = false := by simpa using hne
    simp only [Table.find?, Frame.toTable, f, f', List.map_cons, List.lookup_cons, hbeq]
  obtain ⟨a, ha⟩ : ∃ a, p.made f = .ok a := exists_of_isSome (by decide +kernel)
  obtain ⟨a', ha'⟩ : ∃ a', p.made f' = .ok a' := exists_of_isSome (by decide +kernel)
  have hquery : ∀ r ∈ plan.rules, r.kind ≠ .sqlQuery := by simp [plan]
  have hexpands : ∀ r ∈ plan.rules, ¬r.Expands := by simp [plan, Rule.Expands]
  have hheight : f'.height = f.height := rfl
  have hschema : f'.schema = f.schema := rfl
  exact ⟨p, a, a', hp, ha, ha', made_eq_upstream hp hquery hexpands hclauses
    (fun r hr _ => htells r hr) hheight hschema (by decide) hagree ha ha'⟩

end CompiledPlan

/-! ### A clause behind which the others are forgotten -/

namespace Sql

/-- A clause with a comma behind the last entry of a list is a branch that reads no column. -/
theorem reportsBranches_trailingComma : ReportsBranches "WHEN 1 IN (2,) THEN 'a'" := by
  let e : Expr := .inList false (.value (.number "1" false)) [.value (.number "2" false)]
  have hsettled : ∀ columns, SettledBy columns e := by
    intro columns t u c d _ _ _
    refine ⟨rfl, ?_⟩
    rintro F hF n hn
    cases hF
    exact absurd (show n ∈ [] from hn) List.not_mem_nil
  have hwhen : Spells "WHEN".toList [.word "WHEN" none] := spells_capitals rfl
  have hone : Spells "1".toList [.number "1" false] :=
    .token rfl (by decide) (by decide) fun rest => rfl
  have hin : Spells "IN".toList [.word "IN" none] := spells_capitals rfl
  have hlist : Spells "(2,)".toList [.sign "(", .number "2" false, .sign ",", .sign ")"] :=
    .cons rfl (by decide) (by decide) rfl (fun rest => rfl)
      (.cons rfl (by decide) (by decide) rfl (fun rest => rfl)
        (.cons rfl (by decide) (by decide) rfl (fun rest => rfl)
          (.token rfl (by decide) (by decide) fun rest => rfl)))
  have hthen : Spells "THEN".toList [.word "THEN" none] := spells_capitals rfl
  have hpieces := hwhen.append (hone.append (hin.append (hlist.append (hthen.append
    (spells_quotedSql "a")))))
  refine ⟨[()], [_], List.cons_ne_nil _ _, by rw [List.flatten_singleton]; exact hpieces,
    .cons ⟨"WHEN", _, rfl, rfl, fun ls rest hls hrest => ?_⟩ .nil⟩
  -- the tokens behind `WHEN`, and where they stand
  obtain ⟨⟨_, p₁⟩, l₁, rfl, rfl, h₁⟩ := List.map_eq_cons_iff.1 hls
  obtain ⟨⟨_, p₂⟩, l₂, rfl, rfl, h₂⟩ := List.map_eq_cons_iff.1 h₁
  obtain ⟨⟨_, p₃⟩, l₃, rfl, rfl, h₃⟩ := List.map_eq_cons_iff.1 h₂
  obtain ⟨⟨_, p₄⟩, l₄, rfl, rfl, h₄⟩ := List.map_eq_cons_iff.1 h₃
  obtain ⟨⟨_, p₅⟩, l₅, rfl, rfl, h₅⟩ := List.map_eq_cons_iff.1 h₄
  obtain ⟨⟨_, p₆⟩, l₆, rfl, rfl, h₆⟩ := List.map_eq_cons_iff.1 h₅
  obtain ⟨⟨_, p₇⟩, l₇, rfl, rfl, h₇⟩ := List.map_eq_cons_iff.1 h₆
  obtain ⟨⟨_, p₈⟩, l₈, rfl, rfl, h₈⟩ := List.map_eq_cons_iff.1 h₇
  obtain rfl := List.map_eq_nil_iff.1 h₈
  obtain ⟨k, p, us, rfl, hfree, hprecedence⟩ := exists_word_of_endsBranch hrest
  refine ⟨e, .value (.text .plain "a"), ?_, hsettled _, settledBy_text _ "a"⟩
  have hlist : Parse.Takes true (grammarAt (maxDepth - 3)).expr
      (⟨.number "1" false, p₁⟩ :: ⟨.word "IN" none, p₂⟩ :: ⟨.sign "(", p₃⟩ ::
        ⟨.number "2" false, p₄⟩ :: ⟨.sign ",", p₅⟩ :: ⟨.sign ")", p₆⟩ :: ⟨.word "THEN" none, p₇⟩ ::
        ⟨.text .plain "a", p₈⟩ :: ⟨.word k none, p⟩ :: us) e
      (⟨.word "THEN" none, p₇⟩ :: ⟨.text .plain "a", p₈⟩ :: ⟨.word k none, p⟩ :: us) :=
    fun heard => ⟨_, rfl⟩
  unfold branchForm
  refine .bind hlist (.bind (fun heard => ⟨heard, rfl⟩) (.bind ?_ .pure))
  exact takes_expressionIn (takes_operandIn_text hfree) (Nat.le_of_eq hprecedence)

end Sql

namespace CompiledPlan

open DependencyGraph

/-- A clause that cannot be read without trailing commas takes with it the columns that the clauses
beside it report: a column that is read is no column from which the condition is made. -/
theorem joined_clauses_matter :
    let clauses := ["WHEN 1 IN (2,) THEN 'a'", "WHEN \"x\" = 'v' THEN 'b'"]
    let plan : Plan :=
      ⟨"test", [⟨"region", .region, none, .sqlCondition, .sqlCondition ⟨clauses, .text "c"⟩, none,
        0, 0⟩]⟩
    let f : Frame := ⟨1, [⟨"x", .text, [.text "v"]⟩]⟩
    let f' : Frame := ⟨1, [⟨"x", .text, [.text "w"]⟩]⟩
    ∃ p a a', build .standard plan = .ok p ∧
      (∀ clause ∈ clauses, Sql.ReportsBranches (Text.trim clause)) ∧
      (∀ n, (ofPlan plan).Reaches n "Region" → f'.toTable.find? n = f.toTable.find? n) ∧
      p.made f = .ok a ∧ p.made f' = .ok a' ∧
      a'.1.toTable.find? "Region" ≠ a.1.toTable.find? "Region" := by
  intro clauses plan f f'
  let p : CompiledPlan :=
    ⟨"test", [providerAssignment "test"],
      [.condition "Region" (clauses.map Text.trim) (Literal.text "c").sql], ["Region"], []⟩
  have hclauses : ∀ clause ∈ clauses, Sql.ReportsBranches (Text.trim clause) := by
    have htrim : clauses.map Text.trim = clauses := by decide +kernel
    have heach : ∀ clause ∈ clauses.map Text.trim, Sql.ReportsBranches clause := by
      rw [htrim]
      simp only [clauses, List.forall_mem_cons]
      exact ⟨Sql.reportsBranches_trailingComma,
        Sql.reportsBranches_equation (n := "x") "v" "b" (by decide +kernel) (by decide +kernel),
        nofun⟩
    exact List.forall_mem_map.1 heach
  have hedges : (ofPlan plan).edges = [] := by decide +kernel
  have hagree : ∀ n, (ofPlan plan).Reaches n "Region" →
      f'.toTable.find? n = f.toTable.find? n := by
    intro n hn
    obtain rfl : n = "Region" := by
      rcases hn.cases_head with heq | ⟨m, ⟨e, he, -, -⟩, -⟩
      · exact heq
      · rw [hedges] at he
        cases he
    rfl
  let texts (a : Frame × List String) : Option (List (Option String)) :=
    (a.1.toTable.find? "Region").bind fun d =>
      d.cells.toOption.map fun cells => cells.map (Cell.text? d.dtype)
  obtain ⟨a, ha, htexts⟩ : ∃ a, p.made f = .ok a ∧ texts a = some [some "b"] :=
    exists_of_map_toOption (by decide +kernel)
  obtain ⟨a', ha', htexts'⟩ : ∃ a', p.made f' = .ok a' ∧ texts a' = some [some "c"] :=
    exists_of_map_toOption (by decide +kernel)
  refine ⟨p, a, a', rfl, hclauses, hagree, ha, ha', fun heq => ?_⟩
  have hsame : texts a' = texts a := congrArg (Option.bind · _) heq
  rw [htexts, htexts'] at hsame
  exact absurd hsame (by decide)

end CompiledPlan

end FocusBilling
