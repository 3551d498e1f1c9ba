import FocusBilling.Converter
import FocusBilling.Document.Json
import FocusBilling.Input.RuleFile
import FocusBilling.Task.Failure

/-!
# Converting the billing data of a provider

* `Converter.load` : the plan of a provider from its rule files;
* `ConversionRequest.run` : a whole conversion, from rule files and data to segments;
* `ConversionRequest.prepare` : what must be in order before anything is written;
* `explainPlan`, `providersText` : the graph of a plan, and the providers, as texts.
-/

namespace FocusBilling

open Files (Node)

/-- A converter for one provider, from its rule files. -/
def Converter.load (root : Node) (folder provider : String) : Except Failure Converter := do
  let plan ← (Plan.ofProvider root folder provider).mapError fun e =>
    ⟨["load conversion plan for '" ++ provider ++ "'"], .input e⟩
  pure (.ofPlans [plan] .standard)

/-- What is to be converted, and how. -/
structure ConversionRequest where
  /-- The folder that holds one folder of rule files for each provider. -/
  ruleFolder : String
  /-- The provider. -/
  provider : String
  /-- The path of the data. -/
  dataPath : String
  /-- The format of the data; unless it is given the path tells it. -/
  dataFormat : Option DataFormat
  /-- How the data are loaded. -/
  loading : LoadOptions
  /-- The folder of the segments. -/
  exportFolder : String
  /-- How batches are exported. -/
  exporting : ExportOptions

/-- What a conversion has made. -/
structure ConversionOutcome where
  /-- What it came to. -/
  summary : ConversionSummary
  /-- The folder of the segments. -/
  folder : String
  /-- The paths of the segments, in order. -/
  segments : List String

/-- A conversion that has run to its end or to its first failure. -/
structure ConversionRun where
  /-- What it has made, or why it failed. -/
  result : Except Failure ConversionOutcome
  /-- The number of batches that were taken, the failed one included. -/
  taken : Nat
  /-- The segments that were written, in order. -/
  segments : List Segment
  /-- All files afterwards. -/
  root : Node

namespace ConversionRun

/-- What an observer is told while a conversion runs: the number of each batch that is taken. -/
def seen (r : ConversionRun) : List Nat := (List.range r.taken).map (· + 1)

end ConversionRun

namespace ConversionRequest

/-- The compiled plan of a request. -/
def plan (root : Node) (q : ConversionRequest) : Except Failure CompiledPlan := do
  let converter ← Converter.load root q.ruleFolder q.provider
  (converter.prepare q.provider).mapError fun e =>
    ⟨["compile conversion plan for '" ++ q.provider ++ "'"], .compile e⟩

/-- The data of a request. -/
def source (root : Node) (q : ConversionRequest) : Except Failure DataSource :=
  (DataSource.locate root q.dataPath q.dataFormat q.loading).mapError fun e =>
    ⟨["open input data"], .input e⟩

/-- What must be in order before anything is written: the plan and the data. -/
def prepare (root : Node) (q : ConversionRequest) : Except Failure (CompiledPlan × DataSource) := do
  let plan ← q.plan root
  pure (plan, ← q.source root)

/-- The export of a request, before its first batch. -/
def start (root : Node) (q : ConversionRequest) : Except Failure SegmentExport :=
  (SegmentExport.start root q.exportFolder q.exporting).mapError fun e =>
    ⟨["prepare export directory"], .start e⟩

/-- The conversion of data by a plan into an export. -/
def convert (root : Node) (plan : CompiledPlan) (source : DataSource) (x : SegmentExport) :
    Conversion SegmentExport InputError ExportError :=
  plan.convert SegmentExport.exporter (source.batches root) x

/-- A whole conversion. -/
def run (root : Node) (q : ConversionRequest) : ConversionRun :=
  match q.prepare root with
  | .error e => ⟨.error e, 0, [], root⟩
  | .ok (plan, source) =>
    match q.start root with
    | .error e => ⟨.error e, 0, [], root⟩
    | .ok x =>
      let c := convert root plan source x
      let result := c.result.mapError fun e =>
        (⟨["convert " ++ q.dataPath], .ofConvert e⟩ : Failure)
      ⟨result.map fun s => ⟨s, q.exportFolder, c.progress.state.files⟩,
        c.progress.taken, c.progress.state.written, c.progress.state.root⟩

end ConversionRequest

/-! ### Plans that are looked at without running them -/

/-- The graph of the plan of a provider as text. -/
def explainPlan (root : Node) (folder provider : String) : Except Failure String := do
  let converter ← Converter.load root folder provider
  let graph ← (converter.explain provider).mapError fun e =>
    ⟨["explain plan for '" ++ provider ++ "'"], .compile e⟩
  pure (graph.dot DependencyGraph.defaultName)

/-- The providers below a folder as JSON. -/
def providersText (root : Node) (folder : String) : Except Failure String := do
  let providers ← (Plan.providers root folder).mapError fun e =>
    ⟨["list providers in " ++ folder], .input e⟩
  pure (Json.indented (.entries [("providers", .list (providers.map .text))]))

end FocusBilling
