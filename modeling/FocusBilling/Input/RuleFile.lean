import FocusBilling.Input.Error
import FocusBilling.Plan
import FocusBilling.Rule.FileOrder
import FocusBilling.Yaml.Value

/-!
# Rule files

* `RuleDraft.ofYaml?` : the draft that a document spells;
* `RuleDraft.withFileName` : the draft with what the name of its file adds;
* `Rule.ofFile` : the rule in a file;
* `Plan.ofProvider`, `Plan.ofProviders` : the rules of a provider, and those of all providers, below
  the folder that holds one folder of rule files for each provider.
-/

namespace FocusBilling

namespace RuleDraft

open Yaml (Node)

/-- The only value under some keys, if there is any; a second one is refused. -/
def valueOf (keys : List String) (entries : List (String × Node)) : Option (Option Node) :=
  match entries.filter fun e => keys.contains e.1 with
  | [] => some none
  | [e] => some (some e.2)
  | _ => none

/-- The value under some keys, read if it is there. -/
def fieldOf {α : Type} (read : Node → Option α) (entries : List (String × Node))
    (keys : List String) : Option (Option α) := do
  match ← valueOf keys entries with
  | none => pure none
  | some n => n.asOption read

/-- The draft that a document spells: a mapping whose keys are texts, or nothing at all. -/
def ofYaml? : Node → Option RuleDraft
  | .scalar text _ _ => if text.isEmpty then some {} else none
  | .sequence _ _ => none
  | .mapping items _ => do
    let entries ← items.mapM fun (k, v) => k.asText?.map fun key => (key, v)
    let text := fieldOf Node.asText? entries
    let number := fieldOf Node.asOrder? entries
    pure ⟨← text ["plan_name"], ← text ["focus_column"], ← text ["column", "source_column"],
      ← text ["conversion_type"], ← fieldOf Node.asDocument? entries ["conversion_args"],
      ← text ["column_prefix"], ← number ["dimension_id"], ← number ["priority"]⟩

/-- The draft in a text. -/
def ofText? (text : String) : Option RuleDraft :=
  match Yaml.document? text with
  | none => none
  | some none => some {}
  | some (some n) => ofYaml? n

/-- The draft with what the name of its file adds: an order and a name, where it gives none. -/
def withFileName (path : String) (d : RuleDraft) : RuleDraft :=
  let order := FileOrder.ofPath? path
  { d with
    dimensionId := d.dimensionId <|> order.map (·.dimension)
    priority := d.priority <|> order.map (·.step)
    planName := d.planName <|> Path.stem? path }

end RuleDraft

open Files (Node)

namespace Rule

/-- The rule in the text of the file at a path. -/
def ofFileText (path text : String) : Except InputError Rule :=
  match RuleDraft.ofText? text with
  | none => .error (.ruleMalformed path)
  | some d => (d.withFileName path).validate.mapError (.ruleInvalid path)

/-- The rule in the file at a path. -/
def ofFile (root : Node) (path : String) : Except InputError Rule := do
  ofFileText path (← (root.readText path).mapError (.fileUnreadable path))

/-- Whether a name is that of a rule file, by its extension in any case. -/
def isFileName (name : String) : Bool :=
  (Path.extension? name).any fun e => ["yaml", "yml"].contains (Text.lower e)

end Rule

namespace Plan

/-- The names of the rule files among entries, in order. -/
def ruleFiles (entries : List (String × Node)) : List String :=
  (entries.filterMap fun (name, n) =>
    if !n.isFolder && Rule.isFileName name then some name else none).mergeSort fun a b => a ≤ b

/-- The names of the folders among entries, in order. -/
def folders (entries : List (String × Node)) : List String :=
  (entries.filterMap fun (name, n) => if n.isFolder then some name else none).mergeSort
    fun a b => a ≤ b

/-- The paths of the rule files of a provider, in the order in which they are read. -/
def rulePaths (root : Node) (folder provider : String) : Except InputError (List String) :=
  let home := Path.join folder provider
  match root.entriesAt? home with
  | none => .error (.providerNotFound provider folder)
  | some entries => .ok ((ruleFiles entries).map (Path.join home))

/-- The plan of a provider; the first file that holds no good rule refuses it. -/
def ofProvider (root : Node) (folder provider : String) : Except InputError Plan := do
  let rules ← (← rulePaths root folder provider).mapM (Rule.ofFile root)
  pure (.ofRules provider rules)

/-- The providers below a folder, in order. -/
def providers (root : Node) (folder : String) : Except InputError (List String) :=
  match root.entriesAt? folder with
  | none => .error (.folderNotFound folder)
  | some entries => .ok (folders entries)

/-- The plans of all providers below a folder, in order. -/
def ofProviders (root : Node) (folder : String) : Except InputError (List Plan) := do
  (← providers root folder).mapM (ofProvider root folder)

end Plan

end FocusBilling
