import Mathlib.Data.List.Nodup
import Mathlib.Data.String.Basic
import FocusBilling.Graph

/-!
# The graph of a plan and its text

Names in a graph are free texts: they may hold quotes, backslashes, line breaks and whatever else
the language of Graphviz is made of.  Still the text of a graph tells the graph, since a name stands
between quotes, and no quote inside is left without a backslash in front of it.

* `DependencyGraph.edges_ofPlan`, `DependencyGraph.mem_nodes_ofPlan` : the edges and the nodes of a
  plan, rule by rule;
* `DependencyGraph.WellFormed` : nodes in order, each once, and edges between two different ones;
* `SelfDelimiting` : texts that tell what they stand for and where they end;
* `DependencyGraph.dot_eq_iff` : two graphs of one text are one graph;
* `DependencyGraph.dot_determines` : **the text of a plan's graph determines the graph.**

The label of an edge is the name of a rule with its kind in parentheses.  The name may hold
parentheses too, but no kind does, so the last opening one is where the kind begins.
-/

namespace FocusBilling

namespace RuleKind

theorem ofName?_name (k : RuleKind) : ofName? k.name = some k := by
  cases k <;> decide +kernel

theorem name_injective : Function.Injective name := fun a b h =>
  Option.some.inj ((ofName?_name a).symm.trans ((congrArg ofName? h).trans (ofName?_name b)))

theorem paren_not_mem_name (k : RuleKind) : '(' ∉ k.name.toList := by
  cases k <;> decide

end RuleKind

namespace DependencyGraph

variable {plan : Plan} {g g' : DependencyGraph} {rules : List Rule} {r : Rule} {m n : String}
  {ns : List String}

/-! ### Nodes and edges -/

theorem edges_ofPlan : (ofPlan plan).edges =
    plan.rules.flatMap fun r => (inputs r).map (edgeOf r) := by
  have hrun : ∀ (rules : List Rule) (g : DependencyGraph),
      (rules.foldl addRule g).edges =
        g.edges ++ rules.flatMap fun r => (inputs r).map (edgeOf r) := by
    intro rules
    induction rules with
    | nil => simp
    | cons r rules ih =>
      intro g
      rw [List.foldl_cons, ih, addRule, List.flatMap_cons, List.append_assoc]
  rw [ofPlan, hrun, List.nil_append]

theorem mem_insertNode : m ∈ insertNode n ns ↔ m = n ∨ m ∈ ns := by
  induction ns with
  | nil => simp [insertNode]
  | cons k ns ih =>
    rw [insertNode]
    split
    next => simp
    next heq =>
      obtain rfl := compare_eq_iff_eq.1 heq
      simp
    next => simp [ih, or_left_comm]

theorem sorted_insertNode (hns : ns.Pairwise (· < ·)) : (insertNode n ns).Pairwise (· < ·) := by
  induction ns with
  | nil => simp [insertNode]
  | cons k ns ih =>
    obtain ⟨hk, hrest⟩ := List.pairwise_cons.1 hns
    rw [insertNode]
    split
    next hlt =>
      have hnk := compare_lt_iff_lt.1 hlt
      refine List.pairwise_cons.2 ⟨fun m hm => ?_, hns⟩
      rcases List.mem_cons.1 hm with rfl | hm
      · exact hnk
      · exact hnk.trans (hk m hm)
    next => exact hns
    next hgt =>
      refine List.pairwise_cons.2 ⟨fun m hm => ?_, ih hrest⟩
      rcases mem_insertNode.1 hm with rfl | hm
      · exact compare_gt_iff_gt.1 hgt
      · exact hk m hm

theorem mem_foldl_insertNode {names : List String} :
    m ∈ names.foldl (fun ns n => insertNode n ns) ns ↔ m ∈ names ∨ m ∈ ns := by
  induction names generalizing ns with
  | nil => simp
  | cons n names ih => simp [ih, mem_insertNode, or_assoc, or_left_comm]

theorem mem_nodes_addRule :
    m ∈ (addRule g r).nodes ↔ m ∈ g.nodes ∨ m = r.output ∨ m ∈ inputs r := by
  rw [addRule, mem_foldl_insertNode, List.mem_cons, or_comm]

/-- The nodes of a plan are the columns that its rules write and read. -/
theorem mem_nodes_ofPlan :
    m ∈ (ofPlan plan).nodes ↔ ∃ r ∈ plan.rules, m = r.output ∨ m ∈ inputs r := by
  have hrun : ∀ (rules : List Rule) (g : DependencyGraph), m ∈ (rules.foldl addRule g).nodes ↔
      m ∈ g.nodes ∨ ∃ r ∈ rules, m = r.output ∨ m ∈ inputs r := by
    intro rules
    induction rules with
    | nil => simp
    | cons r rules ih =>
      intro g
      rw [List.foldl_cons, ih, mem_nodes_addRule]
      rw [or_assoc, List.exists_mem_cons_iff]
  rw [ofPlan, hrun]
  simp

/-- A graph whose nodes stand in order, each once, and whose edges go between two different ones. -/
structure WellFormed (g : DependencyGraph) : Prop where
  sorted : g.nodes.Pairwise (· < ·)
  source : ∀ e ∈ g.edges, e.source ∈ g.nodes
  target : ∀ e ∈ g.edges, e.target ∈ g.nodes
  loopless : ∀ e ∈ g.edges, e.source ≠ e.target

/-- One more rule keeps a graph well formed. -/
theorem WellFormed.addRule (hg : g.WellFormed) (r : Rule) : (g.addRule r).WellFormed := by
  have hedge : ∀ {e}, e ∈ (g.addRule r).edges →
      e ∈ g.edges ∨ ∃ s ∈ inputs r, e = edgeOf r s := by
    intro e he
    rw [DependencyGraph.addRule, List.mem_append, List.mem_map] at he
    exact he.imp_right fun ⟨s, hs, heq⟩ => ⟨s, hs, heq.symm⟩
  refine ⟨?_, fun e he => ?_, fun e he => ?_, fun e he => ?_⟩
  · -- each name is put where it belongs
    rw [DependencyGraph.addRule]
    generalize r.output :: inputs r = names
    have hsorted := hg.sorted
    revert hsorted
    generalize g.nodes = ns
    induction names generalizing ns with
    | nil => exact id
    | cons n names ih => exact fun hsorted => ih _ (sorted_insertNode hsorted)
  · rw [mem_nodes_addRule]
    obtain he | ⟨s, hs, rfl⟩ := hedge he
    · exact .inl (hg.source e he)
    · exact .inr (.inr hs)
  · rw [mem_nodes_addRule]
    obtain he | ⟨s, hs, rfl⟩ := hedge he
    · exact .inl (hg.target e he)
    · exact .inr (.inl rfl)
  · obtain he | ⟨s, hs, rfl⟩ := hedge he
    · exact hg.loopless e he
    · exact bne_iff_ne.1 (List.mem_filter.1 hs).2

theorem wellFormed_ofPlan (plan : Plan) : (ofPlan plan).WellFormed := by
  have hrun : ∀ (rules : List Rule) (g : DependencyGraph), g.WellFormed →
      (rules.foldl addRule g).WellFormed := by
    intro rules
    induction rules with
    | nil => exact fun _ => id
    | cons r rules ih => exact fun g hg => ih _ (hg.addRule r)
  exact hrun plan.rules ⟨[], []⟩ ⟨.nil, nofun, nofun, nofun⟩

end DependencyGraph

/-! ### Texts that tell where they end -/

/-- A list is cut in one way only at the last item of a kind. -/
theorem append_cons_inj_of_not_mem {α : Type} {before before' after after' : List α} {x : α}
    (hafter : x ∉ after) (hafter' : x ∉ after')
    (h : before ++ x :: after = before' ++ x :: after') : before = before' ∧ after = after' := by
  -- whatever more stood in one of the two fronts would have the item in it
  have hmore : ∀ {more tail tail' : List α}, x ∉ tail → x :: tail = more ++ x :: tail' →
      more = [] := by
    intro more tail tail' htail hcut
    cases more with
    | nil => rfl
    | cons y more =>
      rw [(List.cons.inj hcut).2] at htail
      exact absurd (List.mem_append_right more List.mem_cons_self) htail
  rcases List.append_eq_append_iff.1 h with ⟨more, rfl, hcut⟩ | ⟨more, rfl, hcut⟩
  · obtain rfl := hmore hafter hcut
    exact ⟨(List.append_nil _).symm, (List.cons.inj hcut).2⟩
  · obtain rfl := hmore hafter' hcut
    exact ⟨List.append_nil _, (List.cons.inj hcut).2.symm⟩

/-- Texts from which what they stand for can be told, and where they end, whatever follows. -/
def SelfDelimiting {α : Type} (text : α → List Char) : Prop :=
  ∀ {a b : α} {rest rest' : List Char}, text a ++ rest = text b ++ rest' → a = b ∧ rest = rest'

namespace SelfDelimiting

variable {α : Type} {text : α → List Char} {xs ys : List α} {rest rest' : List Char}

/-- Several texts one behind the other, in front of something that does not start like them. -/
theorem flatMap (htext : SelfDelimiting text) (hrest : ∀ a t, rest ≠ text a ++ t)
    (hrest' : ∀ a t, rest' ≠ text a ++ t)
    (h : xs.flatMap text ++ rest = ys.flatMap text ++ rest') : xs = ys ∧ rest = rest' := by
  induction xs generalizing ys with
  | nil =>
    cases ys with
    | nil => exact ⟨rfl, h⟩
    | cons y ys =>
      rw [List.flatMap_cons, List.append_assoc] at h
      exact absurd h (hrest y _)
  | cons x xs ih =>
    rw [List.flatMap_cons, List.append_assoc] at h
    cases ys with
    | nil => exact absurd h.symm (hrest' x _)
    | cons y ys =>
      rw [List.flatMap_cons, List.append_assoc] at h
      obtain ⟨rfl, hlines⟩ := htext h
      obtain ⟨rfl, hend⟩ := ih hlines
      exact ⟨rfl, hend⟩

end SelfDelimiting

namespace DependencyGraph

/-! ### Names between quotes -/

/-- A character as it stands between double quotes. -/
def escapedChar (c : Char) : List Char :=
  if c = '\\' then ['\\', '\\'] else if c = '"' then ['\\', '"'] else [c]

theorem toList_escaped (s : String) : (escaped s).toList = s.toList.flatMap escapedChar := by
  simp only [escaped, Text.replaceChar, String.toList_ofList, List.flatMap_assoc]
  congr 1
  funext c
  rw [escapedChar]
  split
  next => rfl
  next => split <;> simp [*]

theorem escaped_append (s t : String) : escaped (s ++ t) = escaped s ++ escaped t := by
  apply String.toList_inj.1
  simp [toList_escaped]

theorem selfDelimiting_escapedChar : SelfDelimiting escapedChar := by
  intro c d rest rest' h
  grind [escapedChar]

/-- A quote that ends a name is not one of the name. -/
theorem escapedChar_ne_quote (c : Char) (rest rest' : List Char) :
    escapedChar c ++ rest ≠ '"' :: rest' := by
  simp only [escapedChar]
  split
  next => simp
  next => split <;> simp [*]

/-- A name between quotes. -/
def quoted (s : String) : List Char := '"' :: s.toList.flatMap escapedChar ++ ['"']

theorem selfDelimiting_quoted : SelfDelimiting quoted := by
  intro a b rest rest' h
  simp only [quoted, List.cons_append, List.append_assoc, List.cons.injEq, true_and,
    List.nil_append] at h
  obtain ⟨hab, h⟩ := selfDelimiting_escapedChar.flatMap
    (fun c t => (escapedChar_ne_quote c t rest).symm)
    (fun c t => (escapedChar_ne_quote c t rest').symm) h
  exact ⟨String.toList_inj.1 hab, (List.cons.inj h).2⟩

/-! ### Lines -/

theorem toList_nodeLine (s : String) :
    (nodeLine s).toList = "    ".toList ++ (quoted s ++ ";\n".toList) := by
  simp [nodeLine, quoted, toList_escaped]

/-- The label of an edge: the name of its rule, and the kind in parentheses. -/
def label (e : DependencyEdge) : String := e.ruleName ++ " (" ++ e.kind.name ++ ")"

theorem toList_edgeLine (e : DependencyEdge) :
    (edgeLine e).toList = "    ".toList ++ (quoted e.source ++ (" -> ".toList ++
      (quoted e.target ++ (" [label=".toList ++ (quoted (label e) ++ "];\n".toList))))) := by
  -- no kind holds a character that would have a backslash in front of it
  have hkind : escaped (" (" ++ e.kind.name ++ ")") = " (" ++ e.kind.name ++ ")" := by
    cases e.kind <;> decide +kernel
  have hlabel : (label e).toList.flatMap escapedChar =
      (escaped e.ruleName ++ (" (" ++ e.kind.name ++ ")")).toList := by
    have hsplit : label e = e.ruleName ++ (" (" ++ e.kind.name ++ ")") := by
      simp only [label, String.append_assoc]
    rw [← toList_escaped, hsplit, escaped_append, hkind]
  simp [edgeLine, quoted, hlabel, toList_escaped]

/-- The last opening parenthesis of a label is that in front of the kind. -/
theorem label_inj {e f : DependencyEdge} (hlabel : label e = label f) :
    e.ruleName = f.ruleName ∧ e.kind = f.kind := by
  have hchars := congrArg String.toList hlabel
  simp only [label, String.toList_append, List.append_assoc] at hchars
  change e.ruleName.toList ++ ([' '] ++ '(' :: (e.kind.name.toList ++ [')'])) =
    f.ruleName.toList ++ ([' '] ++ '(' :: (f.kind.name.toList ++ [')'])) at hchars
  rw [← List.append_assoc, ← List.append_assoc] at hchars
  have hparen : ∀ k : RuleKind, '(' ∉ k.name.toList ++ [')'] := fun k hk => by
    rcases List.mem_append.1 hk with hk | hk
    · exact RuleKind.paren_not_mem_name k hk
    · simp at hk
  obtain ⟨hname, hkind⟩ := append_cons_inj_of_not_mem (hparen _) (hparen _) hchars
  exact ⟨String.toList_inj.1 (List.append_cancel_right hname),
    RuleKind.name_injective (String.toList_inj.1 (List.append_cancel_right hkind))⟩

theorem selfDelimiting_nodeLine : SelfDelimiting fun n => (nodeLine n).toList := by
  intro a b rest rest' h
  simp only [toList_nodeLine, List.append_assoc, List.append_cancel_left_eq] at h
  obtain ⟨rfl, hrest⟩ := selfDelimiting_quoted h
  exact ⟨rfl, List.append_cancel_left hrest⟩

theorem nodeLine_injective : Function.Injective nodeLine := by
  intro a b hab
  have hlines : (nodeLine a).toList ++ [] = (nodeLine b).toList ++ [] := by rw [hab]
  exact (selfDelimiting_nodeLine hlines).1

theorem selfDelimiting_edgeLine : SelfDelimiting fun e => (edgeLine e).toList := by
  intro e f rest rest' h
  simp only [toList_edgeLine, List.append_assoc, List.append_cancel_left_eq] at h
  obtain ⟨hsource, h⟩ := selfDelimiting_quoted h
  obtain ⟨htarget, h⟩ := selfDelimiting_quoted (List.append_cancel_left h)
  obtain ⟨hlabel, h⟩ := selfDelimiting_quoted (List.append_cancel_left h)
  obtain ⟨hname, hkind⟩ := label_inj hlabel
  refine ⟨?_, List.append_cancel_left h⟩
  cases e
  cases f
  simp only [DependencyEdge.mk.injEq]
  exact ⟨hsource, htarget, hname, hkind⟩

/-- What stands behind the node in its line tells it from the line of an edge. -/
theorem edgeLine_ne_nodeLine (e : DependencyEdge) (n : String) (rest rest' : List Char) :
    (edgeLine e).toList ++ rest ≠ (nodeLine n).toList ++ rest' := by
  intro h
  simp only [toList_edgeLine, toList_nodeLine, List.append_assoc,
    List.append_cancel_left_eq] at h
  obtain ⟨-, h⟩ := selfDelimiting_quoted h
  simp at h

/-! ### Graphs -/

theorem toList_dot (name : String) (g : DependencyGraph) :
    (dot name g).toList = ("digraph " ++ name ++ " \x7b\n    rankdir=LR;\n").toList ++
      (g.nodes.flatMap (fun n => (nodeLine n).toList) ++
        (g.edges.flatMap (fun e => (edgeLine e).toList) ++ ['\x7d'])) := by
  simp only [dot, String.toList_append, String.toList_join, List.flatMap_map, List.append_assoc]
  rfl

/-- Two graphs of one text are one graph. -/
theorem dot_eq_iff {name : String} : dot name g = dot name g' ↔ g = g' := by
  refine ⟨fun htext => ?_, fun heq => heq ▸ rfl⟩
  have hlines := congrArg String.toList htext
  simp only [toList_dot, List.append_cancel_left_eq] at hlines
  have hend : ∀ (n : String) (edges : List DependencyEdge) (t : List Char),
      edges.flatMap (fun e => (edgeLine e).toList) ++ ['\x7d'] ≠ (nodeLine n).toList ++ t := by
    intro n edges t
    cases edges with
    | nil => simp [toList_nodeLine]
    | cons e edges =>
      rw [List.flatMap_cons, List.append_assoc]
      exact edgeLine_ne_nodeLine e n _ t
  have hbrace : ∀ (e : DependencyEdge) (t : List Char), ['\x7d'] ≠ (edgeLine e).toList ++ t := by
    simp [toList_edgeLine]
  obtain ⟨hnodes, hlines⟩ := selfDelimiting_nodeLine.flatMap
    (fun n t => hend n g.edges t) (fun n t => hend n g'.edges t) hlines
  obtain ⟨hedges, -⟩ := selfDelimiting_edgeLine.flatMap hbrace hbrace hlines
  cases g
  cases g'
  simp only [DependencyGraph.mk.injEq]
  exact ⟨hnodes, hedges⟩

/-- **The text of a plan's graph determines the graph**, whatever the columns, the prefixes and the
rules are called.  A text declares each node in one line, and each end of an edge is declared; no
edge leads from a column to itself. -/
theorem dot_determines (name : String) :
    (∀ plan plan' : Plan,
      dot name (ofPlan plan) = dot name (ofPlan plan') ↔ ofPlan plan = ofPlan plan') ∧
    ∀ plan : Plan,
      let g := ofPlan plan
      let declared := g.nodes.map nodeLine
      dot name g = "digraph " ++ name ++ " \x7b\n    rankdir=LR;\n" ++ String.join declared ++
        String.join (g.edges.map edgeLine) ++ "\x7d" ∧
      (∀ n ∈ g.nodes, declared.count (nodeLine n) = 1) ∧
      ∀ e ∈ g.edges, nodeLine e.source ∈ declared ∧ nodeLine e.target ∈ declared ∧
        e.source ≠ e.target := by
  refine ⟨fun _ _ => dot_eq_iff, fun plan => ⟨rfl, fun n hn => ?_, fun e he => ?_⟩⟩
  · have hnodup : (ofPlan plan).nodes.Nodup := (wellFormed_ofPlan plan).sorted.imp ne_of_lt
    exact List.count_eq_one_of_mem (hnodup.map nodeLine_injective) (List.mem_map_of_mem hn)
  · have hg := wellFormed_ofPlan plan
    exact ⟨List.mem_map_of_mem (hg.source e he), List.mem_map_of_mem (hg.target e he),
      hg.loopless e he⟩

/-- A rule whose names imitate the lines of a graph. -/
def imitatingRule : Rule :=
  ⟨"x (unnest)\"];\n    \"y", .region, some "a\";\n    \"b", .renameColumn, .none, none, 0, 0⟩

/-- The column with a line break in its name is declared once, and so is the one made from it. -/
theorem dot_determines_imitating :
    ∃ e ∈ (ofPlan ⟨"aws", [imitatingRule]⟩).edges, e.source = "a\";\n    \"b" ∧
      ((ofPlan ⟨"aws", [imitatingRule]⟩).nodes.map nodeLine).count (nodeLine e.source) = 1 ∧
      nodeLine e.target ∈ (ofPlan ⟨"aws", [imitatingRule]⟩).nodes.map nodeLine ∧
      e.source ≠ e.target := by
  obtain ⟨-, honce, hedges⟩ := (dot_determines "conversion_plan").2 ⟨"aws", [imitatingRule]⟩
  have hedge : edgeOf imitatingRule "a\";\n    \"b" ∈ (ofPlan ⟨"aws", [imitatingRule]⟩).edges := by
    decide +kernel
  obtain ⟨-, htarget, hne⟩ := hedges _ hedge
  exact ⟨_, hedge, rfl, honce _ ((wellFormed_ofPlan _).source _ hedge), htarget, hne⟩

end DependencyGraph

end FocusBilling
