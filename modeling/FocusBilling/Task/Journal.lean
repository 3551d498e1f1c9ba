import FocusBilling.Log.Entry
import FocusBilling.Sql.Account
import FocusBilling.Task.Convert

/-!
# What tasks tell while they run

* `ConversionRequest.journal` : the log entries of a conversion that has run;
* `explainJournal` : those of the explanation of a plan;
* `CompiledPlan.executed` : the steps in SQL that are carried out on a batch.

Entries are told from the request and from what came of it; telling them changes nothing.  The
target of an event is what a filter is written against.
-/

namespace FocusBilling

open Files (Node)

/-- The items up to the first that is not good, that one included. -/
def upToFirstBad {α : Type} (good : α → Bool) : List α → List α
  | [] => []
  | a :: as => a :: if good a then upToFirstBad good as else []

namespace LogEvent

/-- An event about rule files. -/
def ofRules (level : LogLevel) (message : String) (fields : LogFields) : LogEvent :=
  ⟨level, "focus_ingest::plans", message, fields⟩

/-- An event about data. -/
def ofData (level : LogLevel) (message : String) (fields : LogFields) : LogEvent :=
  ⟨level, "focus_ingest::loader", message, fields⟩

/-- An event about a task. -/
def ofTask (level : LogLevel) (message : String) (fields : LogFields) : LogEvent :=
  ⟨level, "focus_cli::pipeline", message, fields⟩

/-- An event about a plan. -/
def ofPlan (level : LogLevel) (message : String) (fields : LogFields) : LogEvent :=
  ⟨level, "focus_transform::plan", message, fields⟩

/-- An event about a batch. -/
def ofBatch (level : LogLevel) (message : String) (fields : LogFields) : LogEvent :=
  ⟨level, "focus_transform::executor", message, fields⟩

/-- An event about segments. -/
def ofExport (level : LogLevel) (message : String) (fields : LogFields) : LogEvent :=
  ⟨level, "focus_output::segments", message, fields⟩

/-- What is told while a SQL text is read.  `trailingCommas` tells whether a comma may stand behind
the last entry of a list. -/
def ofSql (trailingCommas : Bool) (text : String) : List LogEvent :=
  (Sql.account trailingCommas text).map fun line => ⟨.debug, "sqlparser::parser", line, []⟩

end LogEvent

/-! ### Plans -/

namespace Plan

/-- The paths of the rule files of a provider, up to the first that holds no good rule. -/
def pathsRead (root : Node) (folder provider : String) : List String :=
  match rulePaths root folder provider with
  | .ok paths => upToFirstBad (fun p => (Rule.ofFile root p).toOption.isSome) paths
  | .error _ => []

/-- What is told while a plan is loaded. -/
def loadEvents (root : Node) (folder provider : String) : List LogEvent :=
  (pathsRead root folder provider).map (fun path =>
    .ofRules .debug "reading conversion rule" [("path", .plain path)]) ++
  match ofProvider root folder provider with
  | .ok plan => [.ofTask .info "loaded conversion plan"
      [("provider", .quoted provider), ("rule_count", .number plan.rules.length)]]
  | .error _ => []

end Plan

namespace CompiledPlan

/-- The rules that are compiled before the first that cannot be. -/
def compiledRules (registry : Registry) : CompiledPlan → List Rule → List Rule
  | _, [] => []
  | p, rule :: rules =>
    match addRule registry p rule with
    | .ok p => rule :: compiledRules registry p rules
    | .error _ => []

/-- What is told while a plan is compiled. -/
def compileEvents (registry : Registry) (plan : Plan) : List LogEvent :=
  (compiledRules registry (start plan.provider) plan.rules).map (fun r =>
    .ofPlan .debug "compiled conversion rule"
      [("rule", .plain r.planName), ("kind", .plain r.kind.name), ("alias", .plain r.output)]) ++
  match build registry plan with
  | .ok p => [.ofPlan .info "conversion plan built" [("provider", .plain p.provider),
      ("rule_count", .number plan.rules.length), ("expressions", .number p.assignments.length),
      ("sql_statements", .number p.statements.length)]]
  | .error _ => []

/-! ### Batches -/

/-- The steps in SQL that are carried out on a table, up to the first that fails, each with the
columns that it finds. -/
def executedOn : List SqlStep → Table → Sql.Catalog → List (SqlStep × List String)
  | [], _, _ => []
  | s :: rest, t, c =>
    (s, t.names) :: match s.run t c with
      | .ok (t, c) => executedOn rest t c
      | .error _ => []

/-- The steps in SQL that are carried out on a batch, up to the first that fails, each with the
columns that it finds. -/
def executed (p : CompiledPlan) (t : Table) : List (SqlStep × List String) :=
  match p.assignAll t with
  | .ok w => executedOn p.statements w.table .empty
  | .error _ => []

/-- What is told about a step in SQL: its clauses are looked at, then the statement is read. -/
def stepEvents (s : SqlStep) (columns : List String) : List LogEvent :=
  let statement := s.render (some columns)
  (match s with
    | .condition _ clauses _ => clauses.flatMap fun c => LogEvent.ofSql false (Sql.conditionText c)
    | .query _ => []) ++
  .ofBatch .debug "executing sql statement" [("sql", .plain statement)] ::
    LogEvent.ofSql true statement

/-- What is told about a segment. -/
def segmentEvents (batch : Nat) (s : Segment) : List LogEvent :=
  [.ofExport .debug "segment written"
      [("path", .plain s.path), ("rows", .number s.rows), ("columns", .number s.columns)],
    .ofBatch .debug "batch exported" [("batch", .number batch), ("rows", .number s.rows)]]

/-- What is told about batches, given the segments that came of them. -/
def batchEvents (p : CompiledPlan) : Nat → List (Except InputError Table) → List Segment →
    List LogEvent
  | batch, .ok t :: batches, segments =>
    (p.executed t).flatMap (fun (s, columns) => stepEvents s columns) ++
    match segments with
    | s :: segments => segmentEvents batch s ++ batchEvents p (batch + 1) batches segments
    | [] => []
  | _, _, _ => []

end CompiledPlan

namespace DataSource

/-- What is told when the first batch is asked for. -/
def openEvents (root : Node) (s : DataSource) : List LogEvent :=
  if s.opens root then
    let format := match s.format with
      | .csv => "Csv"
      | .parquet => "Parquet"
    [.ofData .debug "opened input" [("path", .plain s.path), ("format", .plain format),
      ("batch_size", .number s.options.size)]]
  else []

end DataSource

/-! ### Conversions -/

namespace ConversionRequest

/-- The whole of a conversion. -/
def span (q : ConversionRequest) : LogSpan :=
  ⟨"conversion", "focus_cli::pipeline", [("provider", .plain q.provider)]⟩

/-- The part of a conversion that deals with batches. -/
def batchSpan (q : ConversionRequest) : LogSpan :=
  ⟨"convert", "focus_transform::executor", [("provider", .plain q.provider)]⟩

/-- What is told at the end of a conversion. -/
def endEvents (q : ConversionRequest) (r : ConversionRun) : List LogEvent :=
  let rows := (r.segments.map Segment.rows).sum
  .ofExport .info "export closed" [("dir", .plain q.exportFolder),
      ("segments", .number r.segments.length), ("rows", .number rows)] ::
  match r.result with
  | .ok o => [.ofBatch .info "conversion finished"
      [("batches", .number o.summary.batches), ("rows", .number o.summary.rows)]]
  | .error e => [.ofBatch .error "conversion failed"
      [("batch", .number r.segments.length), ("error", .plain e.cause.message)]]

/-- What is told while batches are converted. Batches are looked at again only for details. -/
def batchJournal (root : Node) (q : ConversionRequest) (r : ConversionRun) (details : Bool)
    (plan : CompiledPlan) (source : DataSource) : List LogEntry :=
  let events := if details then
      source.openEvents root ++ plan.batchEvents 0 (source.batches root) r.segments
    else []
  LogEntry.within q.batchSpan ((events ++ q.endEvents r).map .ofEvent)

/-- The log entries of a conversion that has run. -/
def journal (root : Node) (q : ConversionRequest) (r : ConversionRun) (details : Bool) :
    List LogEntry :=
  let loaded := Plan.loadEvents root q.ruleFolder q.provider
  let compiled := match Converter.load root q.ruleFolder q.provider with
    | .ok c =>
      match c.plan q.provider with
      | .ok plan => CompiledPlan.compileEvents c.registry plan
      | .error _ => []
    | .error _ => []
  let converted := match q.prepare root, q.start root with
    | .ok (plan, source), .ok _ => batchJournal root q r details plan source
    | _, _ => []
  LogEntry.within q.span ((loaded ++ compiled).map .ofEvent ++ converted)

end ConversionRequest

/-- What is told while the columns that a rule reads are looked for. -/
def Rule.sourceEvents (r : Rule) : List LogEvent :=
  match r.args with
  | .sqlCondition args =>
    LogEvent.ofSql false (Sql.conditionText (String.intercalate " " args.conditions))
  | .sqlQuery text => LogEvent.ofSql false text
  | _ => []

/-- The log entries of the explanation of a plan. -/
def explainJournal (root : Node) (folder provider : String) (details : Bool) : List LogEntry :=
  let sources := match Plan.ofProvider root folder provider with
    | .ok plan => if details then plan.rules.flatMap Rule.sourceEvents else []
    | .error _ => []
  (Plan.loadEvents root folder provider ++ sources).map .ofEvent

end FocusBilling
