import FocusBilling.Command.Help
import FocusBilling.Number.Instances

/-!
# Reading the command line

* `Given` : the options that words have given so far;
* `Given.word` : one more word;
* `Words.read` : all words, those behind the name of a task apart;
* `UsageError` : why words cannot be understood.

An option may wait for its value: the next word is the value, unless it starts with a dash.  A value
is looked at only when something else follows it, or at the end.
-/

namespace FocusBilling

/-- Why a text is no number. -/
inductive NumberFault where
  | empty
  | invalidDigit
  | tooLarge
  deriving DecidableEq

namespace NumberFault

/-- The text of a fault. -/
def message : NumberFault → String
  | empty => "cannot parse integer from empty string"
  | invalidDigit => "invalid digit found in string"
  | tooLarge => "number too large to fit in target type"

end NumberFault

/-- Why words cannot be understood. -/
inductive UsageError where
  /-- A word that has no place. -/
  | unexpected (word : String)
  | valueMissing (option : CommandOption)
  | valueInvalid (option : CommandOption) (value : String)
  | numberInvalid (option : CommandOption) (value : String) (fault : NumberFault)
  /-- A value for an option that takes none. -/
  | valueUnwanted (option : CommandOption) (value : String)
  | repeated (option : CommandOption)
  | conflicting (first second : CommandOption)
  | requiredMissing (options : List CommandOption)
  | unknownTask (word : String)
  | taskMissing
  /-- There are no words at all. -/
  | nothing
  deriving DecidableEq

namespace UsageError

/-- The text of an error; without any words, help says more. -/
def message? : UsageError → Option String
  | unexpected word => some ("unexpected argument '" ++ word ++ "' found")
  | valueMissing o => some ("a value is required for '" ++ o.usage ++ "' but none was supplied")
  | valueInvalid o value => some ("invalid value '" ++ value ++ "' for '" ++ o.usage ++ "'")
  | numberInvalid o value fault =>
    some ("invalid value '" ++ value ++ "' for '" ++ o.usage ++ "': " ++ fault.message)
  | valueUnwanted o value =>
    some ("unexpected value '" ++ value ++ "' for '" ++ o.usage ++
      "' found; no more were expected")
  | repeated o => some ("the argument '" ++ o.usage ++ "' cannot be used multiple times")
  | conflicting a b =>
    some ("the argument '" ++ a.usage ++ "' cannot be used with '" ++ b.usage ++ "'")
  | requiredMissing os =>
    some ("the following required arguments were not provided:" ++
      String.join (os.map fun o => "\n  " ++ o.usage))
  | unknownTask word => some ("unrecognized subcommand '" ++ word ++ "'")
  | taskMissing =>
    some ("'" ++ Help.programName ++ "' requires a subcommand but one was not provided")
  | nothing => none

end UsageError

/-- Why the words do not lead to a task. -/
inductive Stop where
  | usage (error : UsageError)
  /-- Help is asked for, at length or not. -/
  | help (long : Bool)
  | version

/-- The options that words have given so far. -/
structure Given where
  /-- The options that may be given. -/
  known : List CommandOption
  /-- The values by the names of options, in the order in which they were last given. -/
  values : List (String × List String) := []
  /-- An option whose value is awaited, or not looked at yet. -/
  pending : Option (CommandOption × Option String) := none

namespace Given

/-- The values of an option. -/
def get (g : Given) (o : CommandOption) : List String := (g.values.lookup o.name).getD []

/-- Whether an option is given. -/
def has (g : Given) (o : CommandOption) : Bool := (g.values.lookup o.name).isSome

/-- An option put behind the others with its values. -/
def put (g : Given) (o : CommandOption) (values : List String) : Given :=
  { g with values := g.values.filter (fun v => v.1 != o.name) ++ [(o.name, values)] }

/-- The largest number that an option takes. -/
def largest : Nat := 2 ^ 64 - 1

/-- The number that digits spell behind others. -/
def digits (n : Nat) : List Char → Except NumberFault Nat
  | [] => .ok n
  | c :: cs =>
    if !Text.isDigit c then .error .invalidDigit
    else
      let n := 10 * n + Text.digitValue c
      if largest < n then .error .tooLarge else digits n cs

/-- The number that a text spells, perhaps behind a plus sign. -/
def readNumber (s : String) : Except NumberFault Nat :=
  match s.toList with
  | [] => .error .empty
  | ['+'] => .error .invalidDigit
  | '+' :: cs => digits 0 cs
  | cs => digits 0 cs

/-- Whether a value is one that an option takes. -/
def check (o : CommandOption) (value : String) : Except UsageError Unit :=
  match o.kind with
  | .path => if value.isEmpty then .error (.valueMissing o) else .ok ()
  | .choice names =>
    if names.contains value then .ok ()
    else .error (if value.isEmpty then .valueMissing o else .valueInvalid o value)
  | .number =>
    match readNumber value with
    | .ok _ => .ok ()
    | .error fault => .error (.numberInvalid o value fault)
  | _ => .ok ()

/-- An option with a value. -/
def accept (g : Given) (o : CommandOption) (value : String) : Except UsageError Given := do
  if o.kind != .texts && g.has o then .error (.repeated o)
  else
    check o value
    pure (g.put o (g.get o ++ [value]))

/-- The value that was not looked at yet, looked at. -/
def settle (g : Given) : Except UsageError Given :=
  match g.pending with
  | none => .ok g
  | some (o, none) => .error (.valueMissing o)
  | some (o, some value) => { g with pending := none }.accept o value

/-- An option that takes no value. -/
def mark (g : Given) (o : CommandOption) (long : Bool) : Except Stop Given := do
  let g ← g.settle.mapError .usage
  match o.kind with
  | .help => .error (.help long)
  | .version => .error .version
  | .count => pure (g.put o (g.get o ++ [""]))
  | _ => if g.has o then .error (.usage (.repeated o)) else pure (g.put o [])

/-- A word behind two dashes: the name of an option, perhaps with a value behind an equals sign. -/
def longWord (g : Given) (body : List Char) : Except Stop Given :=
  let name := String.ofList (body.takeWhile (· ≠ '='))
  let attached := match body.dropWhile (· ≠ '=') with
    | _ :: value => some (String.ofList value)
    | [] => none
  match g.known.find? fun o => o.name = name with
  | none => .error (.usage (.unexpected ("--" ++ name)))
  | some o =>
    match o.takesValue, attached with
    | true, some value => (do (← g.settle).accept o value).mapError .usage
    | true, none => do
      let g ← g.settle.mapError .usage
      pure { g with pending := some (o, none) }
    | false, some value => .error (.usage (.valueUnwanted o value))
    | false, none => g.mark o true

/-- The letters behind one dash. -/
def letters (g : Given) : List Char → Except Stop Given
  | [] => .ok g
  | c :: cs =>
    match g.known.find? fun o => o.letter == some c with
    | some o => do letters (← g.mark o false) cs
    | none => .error (.usage (.unexpected ("-" ++ c.toString)))

/-- Whether an option waits for its value. -/
def isWaiting (g : Given) : Bool :=
  match g.pending with
  | some (_, none) => true
  | _ => false

/-- One more word, unless it has no place among options. -/
def word (g : Given) (w : String) : Except Stop (Option Given) :=
  match w.toList with
  | '-' :: '-' :: body => (g.longWord body).map some
  | '-' :: c :: cs => (g.letters (c :: cs)).map some
  | _ =>
    match g.pending with
    | some (o, none) => .ok (some { g with pending := some (o, some w) })
    | _ => .ok none

/-- The first two of the options that exclude each other, if both are given. -/
def conflict? (g : Given) : Option (CommandOption × CommandOption) :=
  if g.has .verbose && g.has .quiet then
    let names := g.values.map (·.1)
    some (if names.idxOf CommandOption.verbose.name < names.idxOf CommandOption.quiet.name then
      (.verbose, .quiet) else (.quiet, .verbose))
  else none

/-- Options that go together, with all that must be given. -/
def complete (g : Given) : Except UsageError Given :=
  match g.conflict? with
  | some (a, b) => .error (.conflicting a b)
  | none =>
    match g.known.filter fun o => o.isRequired && !g.has o with
    | [] => .ok g
    | missing => .error (.requiredMissing missing)

end Given

namespace Words

/-- The words behind the name of a task; behind two dashes there is no place for any. -/
def readTask (g : Given) : List String → Except Stop Given
  | [] => do (← g.settle.mapError .usage).complete.mapError .usage
  | "--" :: rest =>
    match rest with
    | [] => readTask g []
    | w :: _ => .error (.usage (.unexpected w))
  | w :: rest => do
    match ← g.word w with
    | some g => readTask g rest
    | none => .error (.usage (.unexpected w))

/-- The words up to the name of a task, that name and the words behind it. -/
def readProgram (g : Given) : List String → Except Stop (Given × Option (String × List String))
  | [] => .ok (g, none)
  | w :: rest =>
    if !g.isWaiting && (w = "help" || (Subcommand.ofName? w).isSome) then .ok (g, some (w, rest))
    else if w = "--" then
      match rest with
      | [] => .ok (g, none)
      | x :: _ =>
        .error (.usage (if x = "help" || (Subcommand.ofName? x).isSome then .unexpected x
          else .unknownTask x))
    else do
      match ← g.word w with
      | some g => readProgram g rest
      | none => .error (.usage (.unknownTask w))

end Words

/-- What the words ask for. -/
inductive CommandLine where
  /-- A text is to be shown. -/
  | tell (text : String)
  | refuse (error : UsageError)
  /-- A task with the options before its name and those behind it. -/
  | run (task : Subcommand) (before behind : Given)

namespace CommandLine

/-- The help that words behind the name of the help task ask for. -/
def helpFor : List String → CommandLine
  | [] => .tell (Help.program true)
  | ["help"] => .tell Help.help
  | "help" :: x :: _ => .refuse (.unknownTask x)
  | w :: rest =>
    match Subcommand.ofName? w, rest with
    | none, _ => .refuse (.unknownTask w)
    | some c, [] => .tell (Help.task c)
    | some _, x :: _ => .refuse (.unknownTask x)

/-- What stopped the reading, given the help texts. -/
def ofStop (help : Bool → String) : Stop → CommandLine
  | .usage e => .refuse e
  | .help long => .tell (help long)
  | .version => .tell Help.versionText

/-- What the words ask for. -/
def read (words : List String) : CommandLine :=
  match Words.readProgram { known := CommandOption.ofProgram } words with
  | .error stop => ofStop Help.program stop
  | .ok (g, none) =>
    match g.settle with
    | .error e => .refuse e
    | .ok g => .refuse (if g.values.isEmpty then .nothing else .taskMissing)
  | .ok (g, some (w, rest)) =>
    match Subcommand.ofName? w with
    | none => helpFor rest
    | some c =>
      match Words.readTask { known := c.options } rest with
      | .error stop => ofStop (fun _ => Help.task c) stop
      | .ok behind =>
        match g.settle >>= Given.complete with
        | .ok before => .run c before behind
        | .error e => .refuse e

end CommandLine

end FocusBilling
