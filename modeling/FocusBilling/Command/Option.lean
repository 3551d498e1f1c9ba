import FocusBilling.Text.Ascii

/-!
# Options of the command line

* `CommandOption` : an option with all that is known about it;
* `CommandOption.usage` : the option as messages and help texts spell it;
* `Subcommand` : the tasks of the program, with the options of each.
-/

namespace FocusBilling

/-- What follows an option on the command line. -/
inductive OptionKind where
  /-- Nothing; the option is given or not. -/
  | flag
  /-- Nothing; it counts how often the option is given. -/
  | count
  /-- Nothing; the option asks for help. -/
  | help
  /-- Nothing; the option asks for the version. -/
  | version
  | text
  | path
  | number
  | choice (names : List String)
  /-- A text, each time the option is given. -/
  | texts
  deriving DecidableEq

/-- An option of the command line. -/
structure CommandOption where
  /-- The name behind two dashes. -/
  name : String
  /-- The letter behind one dash. -/
  letter : Option Char := none
  /-- What follows the option. -/
  kind : OptionKind
  /-- The name of what follows. -/
  valueName : String := ""
  /-- What the option is for. -/
  purpose : String
  /-- What holds without the option. -/
  default : Option String := none
  /-- Whether the option must be given. -/
  isRequired : Bool := false
  /-- Where help texts list the option. -/
  place : Nat := 0
  deriving DecidableEq

namespace CommandOption

/-- Whether a value follows the option. -/
def takesValue (o : CommandOption) : Bool :=
  match o.kind with
  | .flag | .count | .help | .version => false
  | _ => true

/-- The option as messages and help texts spell it. -/
def usage (o : CommandOption) : String :=
  match o.kind with
  | .flag | .help | .version => "--" ++ o.name
  | .count => "--" ++ o.name ++ "..."
  | _ => "--" ++ o.name ++ " <" ++ o.valueName ++ ">"

/-! ### The options of every task -/

/-- Where the rule files are. -/
def configDir : CommandOption :=
  { name := "config-dir", kind := .path, valueName := "DIR", place := 3
    purpose := "Directory holding one folder of YAML conversion rules per provider"
    default := some "conversion_configs" }

/-- More log entries. -/
def verbose : CommandOption :=
  { name := "verbose", letter := some 'v', kind := .count, place := 4
    purpose := "Increase logging verbosity" }

/-- Fewer log entries. -/
def quiet : CommandOption :=
  { name := "quiet", letter := some 'q', kind := .count, place := 5
    purpose := "Decrease logging verbosity" }

/-- When to use colours. -/
def color : CommandOption :=
  { name := "color", kind := .choice ["auto", "always", "never"], valueName := "WHEN", place := 6
    purpose := "Controls when to use color", default := some "auto" }

/-- The least grave level of log entries. -/
def logLevel : CommandOption :=
  { name := "log-level", kind := .choice ["error", "warn", "info", "debug", "trace"]
    valueName := "LOG_LEVEL", place := 7
    purpose := "Explicit log level (overrides -v/-q flags)" }

/-- The format of log entries. -/
def logFormat : CommandOption :=
  { name := "log-format", kind := .choice ["pretty", "compact", "json"]
    valueName := "LOG_FORMAT", place := 8
    purpose := "Log output format (pretty for human, json for machine parsing)"
    default := some "pretty" }

/-- Where log entries go. -/
def logFile : CommandOption :=
  { name := "log-file", kind := .path, valueName := "PATH", place := 9
    purpose := "Write logs to a file instead of stderr" }

/-- The options that may stand before a task and behind it. -/
def shared : List CommandOption := [configDir, verbose, quiet, color, logLevel, logFormat, logFile]

/-- Help for the program. -/
def programHelp : CommandOption :=
  { name := "help", letter := some 'h', kind := .help
    purpose := "Print help (see a summary with '-h')" }

/-- Help for a task. -/
def taskHelp : CommandOption :=
  { name := "help", letter := some 'h', kind := .help, purpose := "Print help" }

/-- The version of the program. -/
def version : CommandOption :=
  { name := "version", letter := some 'V', kind := .version, purpose := "Print version" }

/-- The options that may stand before the name of a task. -/
def ofProgram : List CommandOption := shared ++ [programHelp, version]

/-! ### The options of one task -/

/-- The provider whose plan is run. -/
def provider : CommandOption :=
  { name := "provider", kind := .text, valueName := "PROVIDER", isRequired := true, place := 0
    purpose := "Provider whose conversion plan is applied" }

/-- The provider whose plan is shown. -/
def explainedProvider : CommandOption :=
  { provider with purpose := "Provider whose plan is explained" }

/-- Where the data are. -/
def dataPath : CommandOption :=
  { name := "data-path", kind := .path, valueName := "PATH", isRequired := true, place := 1
    purpose := "Input file, or a directory of Parquet files" }

/-- The format of the data. -/
def dataFormat : CommandOption :=
  { name := "data-format", kind := .choice ["csv", "parquet"], valueName := "DATA_FORMAT"
    place := 2
    purpose := "Input format (default: from the file extension)" }

/-- The layout of Parquet files. -/
def parquetLayout : CommandOption :=
  { name := "parquet-layout", kind := .choice ["file", "dataset"], valueName := "PARQUET_LAYOUT"
    place := 3
    purpose := "Parquet input layout (default: dataset for directories, file otherwise)" }

/-- Where the segments go. -/
def exportPath : CommandOption :=
  { name := "export-path", kind := .path, valueName := "DIR", isRequired := true, place := 4
    purpose := "Directory receiving the converted segment files" }

/-- The format of the segments. -/
def exportFormat : CommandOption :=
  { name := "export-format", kind := .choice ["parquet", "csv"], valueName := "EXPORT_FORMAT"
    place := 5, purpose := "Segment file format", default := some "parquet" }

/-- Only FOCUS columns. -/
def focusOnly : CommandOption :=
  { name := "focus-only", kind := .flag, place := 6
    purpose := "Write only FOCUS columns, plus any --passthrough columns" }

/-- Columns that are kept beside FOCUS columns. -/
def passthrough : CommandOption :=
  { name := "passthrough", kind := .texts, valueName := "COLUMN", place := 7
    purpose := "Source column kept next to the FOCUS columns with --focus-only (repeatable)" }

/-- The number of rows of a batch. -/
def batchSize : CommandOption :=
  { name := "batch-size", kind := .number, valueName := "BATCH_SIZE", place := 8
    purpose := "Rows per batch", default := some "500000" }

/-- Less memory for separated values. -/
def lowMemory : CommandOption :=
  { name := "low-memory", kind := .flag, place := 9
    purpose := "Scan CSV input in low memory mode" }

/-- Where the graph goes. -/
def output : CommandOption :=
  { name := "output", kind := .path, valueName := "PATH", place := 1
    purpose := "Write the DOT text to a file instead of stdout" }

end CommandOption

/-- The tasks of the program. -/
inductive Subcommand where
  | convert
  | explain
  | listProviders
  deriving DecidableEq

namespace Subcommand

open CommandOption

/-- The tasks in the order in which help lists them. -/
def all : List Subcommand := [convert, explain, listProviders]

/-- The name of a task on the command line. -/
def name : Subcommand → String
  | convert => "convert"
  | explain => "explain"
  | listProviders => "list-providers"

/-- What a task does. -/
def purpose : Subcommand → String
  | convert => "Convert a billing export into FOCUS segment files"
  | explain => "Print the column dependency graph of a provider plan as DOT"
  | listProviders => "List providers with conversion rules, as JSON"

/-- The options of a task alone. -/
def ownOptions : Subcommand → List CommandOption
  | convert => [provider, dataPath, dataFormat, parquetLayout, exportPath, exportFormat, focusOnly,
      passthrough, batchSize, lowMemory]
  | explain => [explainedProvider, output]
  | listProviders => []

/-- The options that may stand behind a task. -/
def options (c : Subcommand) : List CommandOption := c.ownOptions ++ shared ++ [taskHelp]

/-- The task of a name. -/
def ofName? (s : String) : Option Subcommand := all.find? fun c => c.name = s

end Subcommand

end FocusBilling
