import FocusBilling.Files.Path
import FocusBilling.Frame.Table

/-!
# Files and folders

* `Files.Node` : a file with its content, or a folder with its entries;
* `Node.at?`, `Node.put` : the node at names below a folder, and a folder with a node put there;
* `Node.locate` : the names that a path stands for, or why it stands for nothing;
* `Node.find`, `Node.write`, `Node.makeFolders` : what programs do with paths.

A tree is the whole world of a program: a path leads nowhere else, and every name below a folder is
used once.
-/

namespace FocusBilling.Files

/-- What a file holds. -/
inductive Content where
  /-- Text in UTF-8. -/
  | text (s : String)
  /-- Bytes that are no text. -/
  | binary (bytes : List UInt8)
  /-- A table in columnar form. -/
  | table (frame : Frame)

namespace Content

/-- The content that bytes are. -/
def ofBytes (bytes : List UInt8) : Content :=
  match String.fromUTF8? ⟨bytes.toArray⟩ with
  | some s => .text s
  | none => .binary bytes

/-- Whether a file is empty. -/
def isEmpty : Content → Bool
  | text s => s.isEmpty
  | binary bytes => bytes.isEmpty
  | table _ => false

end Content

/-- Why a path cannot be used. -/
inductive Fault where
  | notFound
  | exists
  | notFolder
  | isFolder
  /-- A file that is wanted as a text is none. -/
  | notText
  deriving DecidableEq

namespace Fault

/-- The text of a fault. -/
def message : Fault → String
  | notFound => "No such file or directory (os error 2)"
  | .exists => "File exists (os error 17)"
  | notFolder => "Not a directory (os error 20)"
  | isFolder => "Is a directory (os error 21)"
  | notText => "stream did not contain valid UTF-8"

end Fault

/-- A file or a folder. -/
inductive Node where
  | file (content : Content)
  | folder (entries : List (String × Node))

namespace Node

/-- Whether a node is a folder. -/
def isFolder : Node → Bool
  | folder _ => true
  | file _ => false

/-- The node at names below a node. -/
def at? : List String → Node → Option Node
  | [], n => some n
  | name :: rest, folder entries => (entries.lookup name).bind (at? rest)
  | _ :: _, file _ => none

/-- Entries with the one of a name replaced, or added at the end. -/
def putEntry (name : String) (f : Option Node → Node) :
    List (String × Node) → List (String × Node)
  | [] => [(name, f none)]
  | (k, n) :: rest => if k = name then (k, f (some n)) :: rest else (k, n) :: putEntry name f rest

/-- A node with another put at names below it; folders on the way are made. -/
def put (n : Node) : List String → Node → Node
  | [], new => new
  | name :: rest, new =>
    match n with
    | folder entries =>
      folder (putEntry name (fun old => put (old.getD (folder [])) rest new) entries)
    | file content => file content

/-! ### Paths -/

/-- A folder at names, or why there is none. -/
def needFolder (root : Node) (names : List String) : Except Fault Unit :=
  match root.at? names with
  | none => .error .notFound
  | some (file _) => .error .notFolder
  | some (folder _) => .ok ()

/-- The names that parts lead to, from names that are known. -/
def follow (root : Node) (names : List String) : List Path.Part → Except Fault (List String)
  | [] => .ok names
  | .root :: _ => .error .notFound
  | .here :: rest => do
    root.needFolder names
    follow root names rest
  | .up :: rest => do
    root.needFolder names
    if names.isEmpty then .error .notFound else follow root names.dropLast rest
  | .name s :: rest => do
    root.needFolder names
    follow root (names ++ [String.ofList s]) rest

/-- Whether a path ends like the path of a folder. -/
def endsAsFolder (path : String) : Bool := path.toList.getLast? == some '/'

/-- The names that a path stands for. All but the last are those of folders; the last may be new. -/
def locate (root : Node) (path : String) : Except Fault (List String) :=
  if path.isEmpty then .error .notFound
  else root.follow [] (Path.parts path ++ if endsAsFolder path then [.here] else [])

/-- The node at a path. -/
def find (root : Node) (path : String) : Except Fault Node := do
  let names ← root.locate path
  match root.at? names with
  | some n => .ok n
  | none => .error .notFound

/-- Whether there is a folder at a path. -/
def hasFolder (root : Node) (path : String) : Bool :=
  match root.find path with
  | .ok n => n.isFolder
  | .error _ => false

/-- Whether there is anything at a path. -/
def has (root : Node) (path : String) : Bool := (root.find path).toOption.isSome

/-- The entries of a folder at a path, in the order in which the folder lists them. -/
def entriesAt? (root : Node) (path : String) : Option (List (String × Node)) :=
  match root.find path with
  | .ok (folder entries) => some entries
  | _ => none

/-- The text of the file at a path. -/
def readText (root : Node) (path : String) : Except Fault String := do
  match ← root.find path with
  | folder _ => .error .isFolder
  | file (.text s) => .ok s
  | file _ => .error .notText

/-- The tree with a file written at a path, in place of an earlier one. -/
def write (root : Node) (path : String) (content : Content) : Except Fault Node := do
  if path.isEmpty then .error .notFound
  else
    let names ← root.follow [] (Path.parts path)
    if endsAsFolder path || (root.at? names).any isFolder then .error .isFolder
    else .ok (root.put names (file content))

/-- The tree with folders made for parts, from names that are known. -/
def makeFrom (root : Node) (names : List String) : List Path.Part → Except Fault Node
  | [] => .ok root
  | .root :: _ => .error .notFound
  | .here :: rest => makeFrom root names rest
  | .up :: rest =>
    if names.isEmpty then .error .notFound else makeFrom root names.dropLast rest
  | .name s :: rest =>
    let here := names ++ [String.ofList s]
    match root.at? here with
    | some (folder _) => makeFrom root here rest
    | some (file _) => .error (if rest.isEmpty then .exists else .notFolder)
    | none => makeFrom (root.put here (folder [])) here rest

/-- The tree with the folders of a path made, as far as they are missing. -/
def makeFolders (root : Node) (path : String) : Except Fault Node :=
  root.makeFrom [] (Path.parts path)

/-! ### Walks -/

mutual

/-- The files below a node with their names, each folder in the order of its entries. -/
def files : Node → List (List String × Content)
  | file content => [([], content)]
  | folder entries => entryFiles entries

/-- The files below entries. -/
def entryFiles : List (String × Node) → List (List String × Content)
  | [] => []
  | (name, n) :: rest => n.files.map (fun (names, c) => (name :: names, c)) ++ entryFiles rest

end

/-- The order of names from the top of a tree. -/
def namesLe (a b : List String) : Bool := (compare a b).isLE

/-- The files below a node in order of their names. -/
def sortedFiles (n : Node) : List (List String × Content) :=
  n.files.mergeSort fun a b => namesLe a.1 b.1

end Node

end FocusBilling.Files
