import FocusBilling.Command.Program
import FocusBilling.Frame.Document

/-!
# The command line

* `main` : the program on the files below the working folder.

Only files and folders that some word names are looked at; what the program changes is written back.
A table is kept in its file as a document in JSON.
-/

namespace FocusBilling.Main

open Files (Node Content)

/-- The content of a file that holds bytes. -/
def contentOf (path : String) (bytes : ByteArray) : Content :=
  let content := Content.ofBytes bytes.toList
  match content, Path.extension? path with
  | .text s, some "parquet" =>
    match Json.read s with
    | some d => .table (Frame.ofDocument d)
    | none => content
  | _, _ => content

/-- The bytes that a file holds. -/
def bytesOf : Content → ByteArray
  | .text s => s.toUTF8
  | .binary bytes => ⟨bytes.toArray⟩
  | .table f => (Json.compact f.document).toUTF8

/-- The node at a path, if there is one. -/
partial def readNode (path : String) : IO (Option Node) := do
  try
    let place ← IO.FS.realPath path
    if ← place.isDir then
      let mut entries := []
      for entry in ← place.readDir do
        if let some n ← readNode (Path.join path entry.fileName) then
          entries := entries ++ [(entry.fileName, n)]
      return some (.folder entries)
    else if ← place.pathExists then
      return some (.file (contentOf path (← IO.FS.readBinFile path)))
    else return none
  catch _ => return none

/-- The paths that a word may name: all of it, or what follows an equals sign. -/
def pathsIn (word : String) : List String :=
  [word, String.ofList ((word.toList.dropWhile (· ≠ '=')).drop 1)]

/-- The folders above the last name of a path, which may be all there is of it. -/
def foldersAbove (names : List String) : List (List String) :=
  (List.range names.length).map fun n => names.take n

/-- A tree with what is at a path below the working folder, and with the folders above it. -/
def addPath (root : Node) (path : String) : IO Node := do
  let names := (Path.parts path).filterMap fun p => match p with
    | .name s => some (String.ofList s)
    | _ => none
  if names.isEmpty || path.toList.head? == some '/' then return root
  let mut root := root
  for above in foldersAbove names do
    if !above.isEmpty && (root.at? above).isNone then
      if ← (← IO.FS.realPath (String.intercalate "/" above)).isDir then
        root := root.put above (.folder [])
  match ← readNode (String.intercalate "/" names) with
  | some n => return root.put names n
  | none => return root

/-- The files that words name. -/
def readFiles (words : List String) : IO Node := do
  let mut root := Node.folder []
  for path in "conversion_configs" :: words.flatMap pathsIn do
    try root ← addPath root path catch _ => pure ()
  return root

/-- Write what is new below a node. -/
partial def writeChanges (path : String) (old : Option Node) : Node → IO Unit
  | .file c => do
    let isKnown := match old with
      | some (.file d) => bytesOf d == bytesOf c
      | _ => false
    if !isKnown then IO.FS.writeBinFile path (bytesOf c)
  | .folder entries => do
    if old.isNone then IO.FS.createDirAll path
    for (name, n) in entries do
      writeChanges (Path.join path name) (old.bind (Node.at? [name])) n

/-- A time as a text: seconds with two places. -/
def secondsText (milliseconds : Nat) : String :=
  let hundredths := (milliseconds + 5) / 10
  toString (hundredths / 100) ++ "." ++ Text.padded 2 (hundredths % 100) ++ "s"

end FocusBilling.Main

open FocusBilling FocusBilling.Main in
/-- The program on the files below the working folder. -/
def main (words : List String) : IO UInt32 := do
  let start ← IO.monoMsNow
  let root ← readFiles words
  let outcome := Program.run root (← IO.getEnv "RUST_LOG") words
  writeChanges "" (some root) outcome.root
  let stop ← IO.monoMsNow
  IO.eprint outcome.errors
  IO.print (outcome.output (secondsText (stop - start)))
  return outcome.code.toUInt32
