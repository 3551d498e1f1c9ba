import FocusBilling.Command.Reading
import FocusBilling.Log.Written
import FocusBilling.Task.Convert

/-!
# Settings from options

* `Settings` : what the options of every task say;
* `ConversionRequest.ofOptions` : the conversion that the options of its task ask for.
-/

namespace FocusBilling

namespace LogLevel

/-- The level of a name. -/
def ofName? (s : String) : Option LogLevel := all.find? fun l => l.name = s

end LogLevel

/-- What the options of every task say. -/
structure Settings where
  /-- The folder that holds one folder of rule files for each provider. -/
  ruleFolder : String
  /-- Which entries of this program are logged. -/
  limit : LogLimit
  /-- Whether some option says which entries are logged. -/
  isLimitGiven : Bool
  /-- How entries are written. -/
  style : LogStyle
  /-- Where entries go, if not to where errors go. -/
  logFile : Option String

namespace Settings

/-- The values of an option that may stand before a task and behind it; the later place counts. -/
def shared (before behind : Given) (o : CommandOption) : List String :=
  if behind.has o then behind.get o else before.get o

/-- The value of an option, or what holds without it. -/
def valueOr (values : List String) (o : CommandOption) : Option String := values.head? <|> o.default

/-- The format of a name. -/
def formatNamed : Option String → LogFormat
  | some "compact" => .compact
  | some "json" => .json
  | _ => .pretty

/-- What the options before a task and behind it say. Without options warnings are logged; each
that asks for more or fewer entries moves the limit by one level. -/
def ofOptions (before behind : Given) : Settings :=
  let values := shared before behind
  let value o := valueOr (values o) o
  let more := (values .verbose).length
  let fewer := (values .quiet).length
  let named := (value .logLevel).bind LogLevel.ofName?
  { ruleFolder := (value .configDir).getD ""
    limit :=
      match named with
      | some level => some level
      | none => LogLimit.ofRank (LogLevel.warn.rank + more - fewer)
    isLimitGiven := 0 < more + fewer || named.isSome
    style := ⟨formatNamed (value .logFormat), value .color == some "always"⟩
    logFile := value .logFile }

/-- The filter for log entries. What the environment says counts where no option does and where it
can be read. -/
def filter (s : Settings) (environment : Option String) : LogFilter :=
  let own := LogFilter.ofLimit s.limit
  if s.isLimitGiven then own else (environment.bind LogFilter.read?).getD own

end Settings

namespace DataFormat

/-- The format of a name. -/
def ofName? (s : String) : Option DataFormat := [csv, parquet].find? fun f => f.name = s

end DataFormat

namespace ConversionRequest

/-- The conversion that the options of its task ask for. Parquet files below a folder are one
dataset. -/
def ofOptions (root : Files.Node) (ruleFolder : String) (g : Given) : ConversionRequest :=
  let value o := Settings.valueOr (g.get o) o
  let dataPath := (value .dataPath).getD ""
  let size := ((value .batchSize).bind fun s => (Given.readNumber s).toOption).getD 0
  let layout : ParquetLayout :=
    match value .parquetLayout with
    | some "dataset" => .dataset
    | some _ => .file
    | none => if root.hasFolder dataPath then .dataset else .file
  { ruleFolder
    provider := (value .provider).getD ""
    dataPath
    dataFormat := (value .dataFormat).bind DataFormat.ofName?
    loading := { LoadOptions.withBatchSize {} size with layout }
    exportFolder := (value .exportPath).getD ""
    exporting :=
      { format := ((value .exportFormat).bind DataFormat.ofName?).getD .parquet
        keepSources := !g.has .focusOnly
        passthrough := g.get .passthrough } }

end ConversionRequest

end FocusBilling
