import FocusBilling.Files.Tree

/-!
# Patterns for paths

Some signs of a path stand for more than one name: `?` for any character, `*` for any number of
them, and `[` with the `]` behind it for one of the characters in between, or for none of them
behind a `!`.  As a whole name, `**` stands for everything below a folder.

* `Place`, `Place.read?` : what may stand at one place of a name, and the places that a text with
  signs asks for;
* `Place.fits` : whether a name is what some places ask for;
* `PathStep`, `PathStep.ofPart?` : one step on the way that a pattern leads;
* `Node.led` : where steps lead in a tree, each folder in the order of its names;
* `Node.filesLike?` : the contents of the files that a pattern stands for.
-/

namespace FocusBilling.Files

/-- What may stand at one place of a name. -/
inductive Place where
  | char (c : Char)
  | anyChar
  /-- Any number of characters. -/
  | run
  /-- A character in one of some ranges, or in none of them. -/
  | among (inside : Bool) (ranges : List (Char × Char))
  deriving DecidableEq

namespace Place

/-- Whether a character is a sign. -/
def isSign (c : Char) : Bool := c == '*' || c == '?' || c == '['

/-- The ranges that stand between brackets: two characters with a dash in between, or one. -/
def ranges : List Char → List (Char × Char)
  | a :: '-' :: b :: rest => (a, b) :: ranges rest
  | a :: rest => (a, a) :: ranges rest
  | [] => []

/-- The places that a text asks for, behind brackets that are still open, if any: whether a
character is to be inside them, and what they hold so far.  A bracket that is never closed asks for
nothing, and `**` is no part of a name. -/
def read? : Option (Bool × List Char) → List Char → Option (List Place)
  | none, [] => some []
  | some _, [] => none
  | some (inside, seen), c :: cs =>
    if c = ']' then (read? none cs).map (.among inside (ranges seen) :: ·)
    else read? (some (inside, seen ++ [c])) cs
  | none, '[' :: '!' :: c :: cs => read? (some (false, [c])) cs
  | none, '[' :: c :: cs => if c = '!' then none else read? (some (true, [c])) cs
  | none, ['['] => none
  | none, '*' :: cs => if cs.head? = some '*' then none else (read? none cs).map (.run :: ·)
  | none, '?' :: cs => (read? none cs).map (.anyChar :: ·)
  | none, c :: cs => (read? none cs).map (.char c :: ·)

/-- Whether one character may stand at a place. -/
def accepts : Place → Char → Bool
  | char d, c => c == d
  | anyChar, _ | run, _ => true
  | among inside ranges, c => (ranges.any fun (a, b) => a ≤ c && c ≤ b) == inside

/-- Whether a name is what some places ask for. -/
def fits : List Place → List Char → Bool
  | [], cs => cs.isEmpty
  | run :: ps, cs => (List.range (cs.length + 1)).any fun n => fits ps (cs.drop n)
  | _ :: _, [] => false
  | p :: ps, c :: cs => p.accepts c && fits ps cs

end Place

/-- One step on the way that a pattern leads. -/
inductive PathStep where
  /-- A part of a path without signs. -/
  | plain (part : Path.Part)
  /-- Every entry of a folder with a name that fits. -/
  | fitting (places : List Place)
  /-- Everything below a folder. -/
  | below
  deriving DecidableEq

namespace PathStep

/-- The step that a part of a pattern asks for, if it makes sense. -/
def ofPart? : Path.Part → Option PathStep
  | .name s =>
    if !s.any Place.isSign then some (.plain (.name s))
    else if s = ['*', '*'] then some .below
    else (Place.read? none s).map .fitting
  | p => some (.plain p)

/-- Whether an entry may have a name at a step. -/
def admits : PathStep → String → Bool
  | plain (.name s), name => String.ofList s == name
  | plain _, _ => false
  | fitting places, name => Place.fits places name.toList
  | below, _ => true

end PathStep

namespace Node

mutual

/-- The names of everything below a node. -/
def namesBelow : Node → List (List String)
  | file _ => []
  | folder entries => entryNamesBelow entries

/-- The names of entries and of everything below them. -/
def entryNamesBelow : List (String × Node) → List (List String)
  | [] => []
  | (name, n) :: rest => [name] :: n.namesBelow.map (name :: ·) ++ entryNamesBelow rest

end

/-- The names of the entries of a node, in order. -/
def entryNames : Node → List String
  | file _ => []
  | folder entries => (entries.map (·.1)).mergeSort fun a b => (compare a b).isLE

/-- Where steps lead in a tree, from names that are known. -/
def led (root : Node) : List PathStep → List String → List (List String)
  | [], names => [names]
  | .plain part :: steps, names =>
    match root.follow names [part] with
    | .ok names => if (root.at? names).isSome then root.led steps names else []
    | .error _ => []
  | .fitting places :: steps, names =>
    match root.at? names with
    | some n =>
      -- a folder and the one above it have names too, for those who ask for a dot
      let dotted := places.head? = some (.char '.') && n.isFolder
      (if dotted && Place.fits places ['.', '.'] && !names.isEmpty then
        root.led steps names.dropLast else []) ++
      (if dotted && Place.fits places ['.'] then root.led steps names else []) ++
      (n.entryNames.filter fun s => Place.fits places s.toList).flatMap fun s =>
        root.led steps (names ++ [s])
    | none => []
  | .below :: .below :: steps, names => root.led (.below :: steps) names
  | .below :: step :: steps, names =>
    ((((root.at? names).map namesBelow).getD []).mergeSort namesLe).flatMap fun found =>
      if found.getLast?.any step.admits then root.led steps (names ++ found) else []
  -- nothing but folders
  | [.below], _ => []

/-- The file at names, if it holds anything. -/
def filled? (root : Node) (names : List String) : Option Content :=
  match root.at? names with
  | some (file content) => if content.isEmpty then none else some content
  | _ => none

/-- The contents of the files that a pattern stands for, empty ones aside, if it makes sense. -/
def filesLike? (root : Node) (pattern : String) : Option (List Content) :=
  ((Path.parts pattern).mapM PathStep.ofPart?).map fun steps =>
    (root.led steps []).filterMap root.filled?

end Node

end FocusBilling.Files
