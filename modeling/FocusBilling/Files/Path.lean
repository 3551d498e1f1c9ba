import FocusBilling.Text.Ascii

/-!
# Paths

Paths as texts whose parts are separated by slashes.

* `Path.parts` : the parts that matter; empty ones and later dots are skipped;
* `Path.fileName?`, `Path.stem?`, `Path.extension?` : what the last part says;
* `Path.join` : a path below another.
-/

namespace FocusBilling.Path

/-- One part of a path. -/
inductive Part where
  /-- The slash at the start. -/
  | root
  /-- A dot at the start. -/
  | here
  /-- Two dots. -/
  | up
  /-- A name. -/
  | name (s : List Char)
  deriving DecidableEq

/-- The part that a text between slashes stands for; a dot counts only at the very start. -/
def partOf (first : Bool) (s : List Char) : Option Part :=
  if s = [] then none
  else if s = ['.'] then (if first then some .here else none)
  else if s = ['.', '.'] then some .up
  else some (.name s)

/-- The parts of a path. -/
def parts (p : String) : List Part :=
  let cs := p.toList
  let pieces := Text.splitOn '/' cs
  let rooted := cs.head? == some '/'
  let body := (pieces.zipIdx).filterMap fun (s, i) => partOf (i == 0 && !rooted) s
  if rooted then .root :: body else body

/-- The name in the last part. -/
def fileName? (p : String) : Option (List Char) :=
  match (parts p).getLast? with
  | some (.name s) => some s
  | _ => none

/-- A name cut at its last dot; a dot at the start does not count. -/
def cut (s : List Char) : List Char × Option (List Char) :=
  let tail := s.reverse.takeWhile (· ≠ '.')
  let head := s.reverse.dropWhile (· ≠ '.')
  match head with
  | [] => (s, none)
  | _ :: before => if before.isEmpty then (s, none) else (before.reverse, some tail.reverse)

/-- The last name without its extension. -/
def stem? (p : String) : Option String := (fileName? p).map fun s => String.ofList (cut s).1

/-- The extension of the last name. -/
def extension? (p : String) : Option String :=
  (fileName? p).bind fun s => (cut s).2.map String.ofList

/-- A path below another; a path from the root replaces it. -/
def join (base p : String) : String :=
  if p.toList.head? == some '/' || base.isEmpty then p
  else if base.toList.getLast? == some '/' then base ++ p
  else base ++ "/" ++ p

end FocusBilling.Path
