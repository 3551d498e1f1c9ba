import FocusBilling.Command.Settings
import FocusBilling.Command.Summary
import FocusBilling.Task.Journal

/-!
# The program

* `Program.run` : what words on the command line do to files, and what is printed;
* `Outcome` : the text for each stream, the exit code, and the files afterwards.

The program is a function of its words, one variable of the environment and the files; what it
prints depends on the time it took.
-/

namespace FocusBilling

open Files (Node Content Fault)

/-- What the program came to. -/
structure Outcome where
  /-- The exit code. -/
  code : Nat
  /-- What is printed, given the time it took. -/
  output : String → String
  /-- What is told about errors, and log entries without a file of their own. -/
  errors : String
  /-- All files afterwards. -/
  root : Node

/-- What a task came to. -/
structure TaskResult where
  /-- What is printed, given the time it took, or why the task failed. -/
  result : Except Failure (String → String)
  /-- What it told while it ran. -/
  entries : List LogEntry
  /-- All files afterwards. -/
  root : Node

namespace Program

/-- Lines as a text. -/
def textOfLines (lines : List String) : String := String.join (lines.map fun l => l ++ "\n")

/-! ### Log files -/

/-- A content with a text behind it; a table stays as it is. -/
def append (c : Content) (s : String) : Content :=
  match c with
  | .text t => .text (t ++ s)
  | .binary bytes => .binary (bytes ++ s.toUTF8.toList)
  | .table f => .table f

/-- The files with a text behind the content of the file at a path, which is made where it is
missing. -/
def appendTo (root : Node) (path text : String) : Except Fault Node :=
  let old := match root.find path with
    | .ok (.file c) => c
    | _ => .text ""
  root.write path (append old text)

/-! ### Tasks -/

/-- The conversion that options ask for. -/
def convert (root : Node) (s : Settings) (g : Given) (details : Bool) : TaskResult :=
  let q := ConversionRequest.ofOptions root s.ruleFolder g
  let r := q.run root
  ⟨r.result.map Summary.text, q.journal root r details, r.root⟩

/-- The event of a graph that has been written to a file. -/
def graphWritten (path : String) : LogEntry :=
  .ofEvent ⟨.info, "focus_converter::commands", "dependency graph written", [("path", .plain path)]⟩

/-- The graph of a plan, printed or written to a file. -/
def explain (root : Node) (s : Settings) (g : Given) (details : Bool) : TaskResult :=
  let provider := (g.get .explainedProvider).headD ""
  let told := explainJournal root s.ruleFolder provider details
  match explainPlan root s.ruleFolder provider, (g.get .output).head? with
  | .error e, _ => ⟨.error e, told, root⟩
  | .ok dot, none => ⟨.ok fun _ => dot ++ "\n", told, root⟩
  | .ok dot, some path =>
    match root.write path (.text (dot ++ "\n")) with
    | .ok root => ⟨.ok fun _ => "", told ++ [graphWritten path], root⟩
    | .error fault => ⟨.error ⟨["write " ++ path], .file fault⟩, told, root⟩

/-- The providers as JSON. -/
def listProviders (root : Node) (s : Settings) : TaskResult :=
  ⟨(providersText root s.ruleFolder).map fun t _ => t ++ "\n", [], root⟩

/-- A task with its options. -/
def task (root : Node) (s : Settings) (g : Given) (details : Bool) : Subcommand → TaskResult
  | .convert => convert root s g details
  | .explain => explain root s g details
  | .listProviders => listProviders root s

/-! ### The whole -/

/-- A task that is run, with its log entries where they belong. -/
def runTask (root : Node) (environment : Option String) (c : Subcommand) (before behind : Given) :
    Outcome :=
  let s := Settings.ofOptions before behind
  let filter := s.filter environment
  let opened := match s.logFile with
    | some path => appendTo root path ""
    | none => .ok root
  match opened with
  | .error fault => 
    ⟨1, fun _ => "", "error: failed to initialize logging: " ++ fault.message ++ "\n", root⟩
  | .ok root =>
    let r := task root s behind (filter.showsAny .debug) c
    let log := textOfLines (s.style.lines filter r.entries)
    let (errors, root) := match s.logFile with
      | some path => ("", (appendTo r.root path log).toOption.getD r.root)
      | none => (log, r.root)
    match r.result with
    | .ok output => ⟨0, output, errors, root⟩
    | .error e => ⟨1, fun _ => "", errors ++ "error: " ++ e.text ++ "\n", root⟩

/-- What is told about words that cannot be understood. -/
def refusal (e : UsageError) : String :=
  match e.message? with
  | some message => "error: " ++ message ++ "\n\nFor more information, try '--help'.\n"
  | none => Help.program false

/-- What words on the command line do. -/
def run (root : Node) (environment : Option String) (words : List String) : Outcome :=
  match CommandLine.read words with
  | .tell text => ⟨0, fun _ => text, "", root⟩
  | .refuse e => ⟨2, fun _ => "", refusal e, root⟩
  | .run c before behind => runTask root environment c before behind

end Program

end FocusBilling
