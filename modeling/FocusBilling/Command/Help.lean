import FocusBilling.Command.Option

/-!
# Help texts

* `Help.program` : help for the whole program, long or short;
* `Help.task` : help for one task;
* `Help.listing` : options with what they are for, in columns or, where a line would become too
  long, with the purpose on a line of its own.
-/

namespace FocusBilling.Help

/-- The name of the program. -/
def programName : String := "focus-converter"

/-- The version of the program. -/
def programVersion : String := "0.1.0"

/-- The answer to the question for the version. -/
def versionText : String := programName ++ " " ++ programVersion ++ "\n"

/-- What the program does. -/
def purpose : String := "Convert cloud provider billing exports to the FOCUS schema"

/-- What the program does, at length. -/
def longPurpose : String :=
  "Convert cloud provider billing exports to the FinOps FOCUS schema.\n\n" ++
  "Conversion rules are read per provider from YAML files and applied\n" ++
  "lazily to CSV or Parquet input, batch by batch."

/-- What the help task does. -/
def helpPurpose : String := "Print this message or the help of the given subcommand(s)"

/-! ### Options -/

/-- The key that orders options of one place. -/
def sortKey (o : CommandOption) : String :=
  match o.letter with
  | some c => String.ofList [c.toLower, '0']
  | none => o.name

/-- Whether an option may be listed before another. -/
def listedLe (a b : CommandOption) : Bool :=
  (compare a.place b.place).then (compare (sortKey a) (sortKey b)) |>.isLE

/-- Options in the order in which they are listed. -/
def sorted (os : List CommandOption) : List CommandOption := os.mergeSort listedLe

/-- A text with blanks behind it up to a width. -/
def padRight (width : Nat) (s : String) : String :=
  s ++ String.ofList (List.replicate (width - s.length) ' ')

/-- What an option takes where it is not given, and what it can take. -/
def notes (o : CommandOption) : List String :=
  (match o.default with
    | some d => ["[default: " ++ d ++ "]"]
    | none => []) ++
  (match o.kind with
    | .choice names => ["[possible values: " ++ String.intercalate ", " names ++ "]"]
    | _ => [])

/-- The letter of an option and its usage. -/
def lead (o : CommandOption) : String :=
  (match o.letter with
    | some c => "  -" ++ c.toString ++ ", "
    | none => "      ") ++ o.usage

/-- What an option is for, with its notes. -/
def explained (o : CommandOption) : String := String.intercalate " " (o.purpose :: notes o)

/-- The width of the widest usage. -/
def widest (os : List CommandOption) : Nat := (os.map fun o => o.usage.length).foldl max 0

/-- The width of a line. -/
def lineWidth : Nat := 100

/-- Whether some purpose does not fit beside the usages, which leave little room. -/
def needsOwnLine (os : List CommandOption) : Bool :=
  let taken := widest os + 12
  taken ≤ lineWidth && 40 * lineWidth < 100 * taken &&
    os.any fun o => lineWidth - taken < (explained o).length

/-- The blanks before what stands on a line of its own. -/
def indent : String := "          "

/-- Options with what they are for. -/
def listing (os : List CommandOption) : String :=
  let ownLine := needsOwnLine os
  String.join (os.map fun o =>
    if ownLine then lead o ++ "\n" ++ indent ++ explained o ++ "\n"
    else padRight (6 + widest os + 2) (lead o) ++ explained o ++ "\n")

/-- Options with what they are for, at length. -/
def longListing (os : List CommandOption) : String :=
  String.intercalate "\n" (os.map fun o =>
    let more := if (notes o).isEmpty then ""
      else indent ++ "\n" ++ String.join ((notes o).map fun n => indent ++ n ++ "\n")
    lead o ++ "\n" ++ indent ++ o.purpose ++ "\n" ++ more)

/-! ### Texts -/

/-- The tasks with what they do. -/
def tasks : String :=
  let rows := Subcommand.all.map (fun c => (c.name, c.purpose)) ++ [("help", helpPurpose)]
  let width := (rows.map fun r => r.1.length).foldl max 0 + 2
  String.join (rows.map fun (name, purpose) =>
    "  " ++ padRight width name ++ purpose ++ "\n")

/-- The options of the program with those that ask about it. -/
def programOptions (about : CommandOption) : List CommandOption :=
  sorted CommandOption.shared ++ [about, CommandOption.version]

/-- Help for the whole program. -/
def program (long : Bool) : String :=
  let usage := "\n\nUsage: " ++ programName ++ " [OPTIONS] <COMMAND>\n\nCommands:\n" ++ tasks ++
    "\nOptions:\n"
  if long then longPurpose ++ usage ++ longListing (programOptions CommandOption.programHelp)
  else
    purpose ++ usage ++ listing (programOptions
      { CommandOption.programHelp with purpose := "Print help (see more with '--help')" })

/-- Help for one task. -/
def task (c : Subcommand) : String :=
  let required := c.ownOptions.filter (·.isRequired)
  c.purpose ++ "\n\nUsage: " ++ programName ++ " " ++ c.name ++ " [OPTIONS]" ++
    String.join (required.map fun o => " " ++ o.usage) ++ "\n\nOptions:\n" ++
    listing (sorted (c.ownOptions ++ CommandOption.shared) ++ [CommandOption.taskHelp])

/-- Help for the help task. -/
def help : String :=
  helpPurpose ++ "\n\nUsage: " ++ programName ++ " help [COMMAND]...\n\nArguments:\n" ++
    "  [COMMAND]...  Print help for the subcommand(s)\n"

end FocusBilling.Help
