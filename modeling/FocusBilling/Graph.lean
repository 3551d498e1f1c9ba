import FocusBilling.Plan
import FocusBilling.Sql.References

/-!
# The graph of dependencies

* `DependencyGraph` : the columns of a plan, and which is made from which by which rule;
* `DependencyGraph.ofPlan` : the graph of a plan;
* `DependencyGraph.dot` : the graph in the language of Graphviz.
-/

namespace FocusBilling

/-- That one column is used by a rule to make another. -/
structure DependencyEdge where
  /-- The column that is used. -/
  source : String
  /-- The column that is made. -/
  target : String
  /-- The name of the rule. -/
  ruleName : String
  /-- The kind of the rule. -/
  kind : RuleKind
  deriving DecidableEq

/-- Columns and the rules that connect them. -/
structure DependencyGraph where
  /-- The columns, each once, in order. -/
  nodes : List String
  /-- The uses of columns, in the order of the rules. -/
  edges : List DependencyEdge
  deriving DecidableEq

namespace Rule

/-- The columns that a rule reads, as far as its document tells. -/
def sources (r : Rule) : List String :=
  match r.args with
  | .sqlCondition args => Sql.conditionColumns (String.intercalate " " args.conditions)
  | .sqlQuery text => Sql.referencedColumns text
  | _ => r.sourceColumn.toList

end Rule

namespace DependencyGraph

/-- A name put where it belongs among names in order, unless it is there. -/
def insertNode (name : String) : List String → List String
  | [] => [name]
  | n :: ns =>
    match compare name n with
    | .lt => name :: n :: ns
    | .eq => n :: ns
    | .gt => n :: insertNode name ns

/-- The use of a column by a rule. -/
def edgeOf (r : Rule) (source : String) : DependencyEdge :=
  ⟨source, r.output, r.planName, r.kind⟩

/-- The columns that a rule reads, without the one that it writes. -/
def inputs (r : Rule) : List String := r.sources.filter fun s => s != r.output

/-- A graph with one more rule. -/
def addRule (g : DependencyGraph) (r : Rule) : DependencyGraph :=
  ⟨(r.output :: inputs r).foldl (fun ns n => insertNode n ns) g.nodes,
    g.edges ++ (inputs r).map (edgeOf r)⟩

/-- The graph of a plan. -/
def ofPlan (p : Plan) : DependencyGraph := p.rules.foldl addRule ⟨[], []⟩

/-- The columns from which a column is made directly, once for each use. -/
def inputsOf (g : DependencyGraph) (column : String) : List String :=
  (g.edges.filter fun e => e.target == column).map (·.source)

/-! ### Graphviz -/

/-- A text as it stands between double quotes. -/
def escaped (s : String) : String :=
  Text.replaceChar '"' "\\\"" (Text.replaceChar '\\' "\\\\" s)

/-- The line of a node. -/
def nodeLine (name : String) : String := "    \"" ++ escaped name ++ "\";\n"

/-- The line of an edge. -/
def edgeLine (e : DependencyEdge) : String :=
  "    \"" ++ escaped e.source ++ "\" -> \"" ++ escaped e.target ++ "\" [label=\"" ++
    escaped e.ruleName ++ " (" ++ e.kind.name ++ ")\"];\n"

/-- The name that a graph has unless it is given another. -/
def defaultName : String := "conversion_plan"

/-- The graph in the language of Graphviz. -/
def dot (name : String) (g : DependencyGraph) : String :=
  "digraph " ++ name ++ " \x7b\n    rankdir=LR;\n" ++ String.join (g.nodes.map nodeLine) ++
    String.join (g.edges.map edgeLine) ++ "\x7d"

end DependencyGraph

end FocusBilling
