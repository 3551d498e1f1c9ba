import FocusBilling.Document
import FocusBilling.Number.Decimal
import FocusBilling.Number.Layout

/-!
# JSON texts

Documents read from and written as JSON.

* `Json.read` : the document of a JSON text;
* `Json.compact` : a document on one line without spaces;
* `Json.indented` : a document over several lines, two spaces a level.
-/

namespace FocusBilling.Json

open Text

/-! ### Reading -/

/-- The blanks of JSON. -/
def isSpace (c : Char) : Bool := c == ' ' || c == '\t' || c == '\n' || c == '\r'

/-- The text after leading blanks. -/
def skip (cs : List Char) : List Char := cs.dropWhile isSpace

/-- Four hexadecimal digits. -/
def hex4 : List Char → Option (Nat × List Char)
  | a :: b :: c :: d :: rest =>
    if [a, b, c, d].all isHexDigit then some (digitsValue 16 [a, b, c, d], rest) else none
  | _ => none

/-- The character of an escape, after its backslash.  Two escaped surrogates are one
character; a lone one is the replacement character. -/
def escape : List Char → Option (Char × List Char)
  | 'n' :: r => some ('\n', r)
  | 't' :: r => some ('\t', r)
  | 'r' :: r => some ('\r', r)
  | 'b' :: r => some ('\x08', r)
  | 'f' :: r => some ('\x0c', r)
  | 'u' :: r => do
    let (n, r) ← hex4 r
    if 0xD800 ≤ n ∧ n < 0xDC00 then
      match r with
      | '\\' :: 'u' :: r2 =>
        match hex4 r2 with
        | some (m, r3) =>
          if 0xDC00 ≤ m ∧ m < 0xE000 then
            some (Char.ofNat (0x10000 + (n - 0xD800) * 0x400 + (m - 0xDC00)), r3)
          else some ('\ufffd', r)
        | none => none
      | _ => some ('\ufffd', r)
    else if 0xDC00 ≤ n ∧ n < 0xE000 then some ('\ufffd', r)
    else some (Char.ofNat n, r)
  | c :: r => some (c, r)
  | [] => none

/-- The characters of a string up to its closing quote, and what follows. -/
def stringBody : Nat → List Char → List Char → Option (String × List Char)
  | 0, _, _ => none
  | _ + 1, _, [] => none
  | _ + 1, acc, '"' :: rest => some (String.ofList acc.reverse, rest)
  | n + 1, acc, '\\' :: rest =>
    match escape rest with
    | some (c, rest) => stringBody n (c :: acc) rest
    | none => none
  | n + 1, acc, c :: rest => stringBody n (c :: acc) rest

/-- A number: whole ones stay whole, unless they carry a point, an exponent or are a negative
zero. -/
def number (cs : List Char) : Option (Document × List Char) := do
  let (d, rest) ← Decimal.scan cs
  let used := cs.take (cs.length - rest.length)
  let whole := used.all fun c => isDigit c || c == '-'
  if whole && !(d.negative && d.mant == 0) then
    some (Document.ofInt (Binary.signed d.negative d.mant), rest)
  else some (.float (d.toBinary .double), rest)

mutual

/-- One value, after blanks. -/
def value : Nat → List Char → Option (Document × List Char)
  | 0, _ => none
  | n + 1, cs =>
    match skip cs with
    | '"' :: rest => (stringBody (rest.length + 1) [] rest).map fun (s, r) => (.text s, r)
    | '[' :: rest =>
      match skip rest with
      | ']' :: r => some (.list [], r)
      | r => (items n [] r).map fun (xs, r) => (.list xs, r)
    | '\x7b' :: rest =>
      match skip rest with
      | '\x7d' :: r => some (.entries [], r)
      | r => (members n [] r).map fun (xs, r) => (Document.ofEntries xs, r)
    | 'n' :: 'u' :: 'l' :: 'l' :: r => some (.null, r)
    | 't' :: 'r' :: 'u' :: 'e' :: r => some (.bool true, r)
    | 'f' :: 'a' :: 'l' :: 's' :: 'e' :: r => some (.bool false, r)
    | r => number r

/-- The items of a sequence up to its closing bracket. -/
def items : Nat → List Document → List Char → Option (List Document × List Char)
  | 0, _, _ => none
  | n + 1, acc, cs =>
    match value n cs with
    | none => none
    | some (v, r) =>
      match skip r with
      | ',' :: r => items n (v :: acc) r
      | ']' :: r => some ((v :: acc).reverse, r)
      | _ => none

/-- The entries up to the closing brace. -/
def members : Nat → List (String × Document) → List Char →
    Option (List (String × Document) × List Char)
  | 0, _, _ => none
  | n + 1, acc, cs =>
    match skip cs with
    | '"' :: r =>
      match stringBody (r.length + 1) [] r with
      | none => none
      | some (key, r) =>
        match skip r with
        | ':' :: r =>
          match value n r with
          | none => none
          | some (v, r) =>
            match skip r with
            | ',' :: r => members n ((key, v) :: acc) r
            | '\x7d' :: r => some (((key, v) :: acc).reverse, r)
            | _ => none
        | _ => none
    | _ => none

end

/-- The document of a JSON text. -/
def read (s : String) : Option Document :=
  let cs := s.toList
  match value (cs.length + 1) cs with
  | some (v, rest) => if (skip rest).isEmpty then some v else none
  | none => none

/-! ### Writing -/

/-- One character inside a JSON string. -/
def quotedChar (c : Char) : List Char :=
  if c = '"' then ['\\', '"']
  else if c = '\\' then ['\\', '\\']
  else if c = '\n' then ['\\', 'n']
  else if c = '\r' then ['\\', 'r']
  else if c = '\t' then ['\\', 't']
  else if c = '\x08' then ['\\', 'b']
  else if c = '\x0c' then ['\\', 'f']
  else if c.toNat < 32 then
    ['\\', 'u', '0', '0', (Nat.digitChar (c.toNat / 16)), (Nat.digitChar (c.toNat % 16))]
  else [c]

/-- A JSON string. -/
def quoted (s : String) : String :=
  String.ofList ('"' :: (s.toList.flatMap quotedChar ++ ['"']))

/-- A scalar as JSON; `none` for sequences and entries. -/
def scalar : Document → Option String
  | .null => some "null"
  | .bool b => some (if b then "true" else "false")
  | .int n => some (toString n)
  | .float x => some (if x.isFinite then Layout.document.write .double x else "null")
  | .text s => some (quoted s)
  | _ => none

/-- Texts with a separator between them. -/
def joined (sep : String) : List String → String
  | [] => ""
  | s :: rest => rest.foldl (fun acc x => acc ++ sep ++ x) s

mutual

/-- A document on one line without spaces. -/
def compact : Document → String
  | .null => "null"
  | .bool b => if b then "true" else "false"
  | .int n => toString n
  | .float x => if x.isFinite then Layout.document.write .double x else "null"
  | .text s => quoted s
  | .list xs => "[" ++ joined "," (compactItems xs) ++ "]"
  | .entries xs => "\x7b" ++ joined "," (compactMembers xs) ++ "\x7d"

/-- The items of a sequence, each on its own. -/
def compactItems : List Document → List String
  | [] => []
  | x :: xs => compact x :: compactItems xs

/-- The entries, each on its own. -/
def compactMembers : List (String × Document) → List String
  | [] => []
  | (k, x) :: xs => (quoted k ++ ":" ++ compact x) :: compactMembers xs

end

/-- A line break and the indentation of a level. -/
def newline (level : Nat) : String := "\n" ++ String.ofList (List.replicate (2 * level) ' ')

mutual

/-- A document over several lines, two spaces a level. -/
def indentedAt (level : Nat) : Document → String
  | .null => "null"
  | .bool b => if b then "true" else "false"
  | .int n => toString n
  | .float x => if x.isFinite then Layout.document.write .double x else "null"
  | .text s => quoted s
  | .list [] => "[]"
  | .list (x :: xs) =>
    "[" ++ newline (level + 1) ++
      joined ("," ++ newline (level + 1)) (indentedItems (level + 1) (x :: xs)) ++
      newline level ++ "]"
  | .entries [] => "\x7b\x7d"
  | .entries (x :: xs) =>
    "\x7b" ++ newline (level + 1) ++
      joined ("," ++ newline (level + 1)) (indentedMembers (level + 1) (x :: xs)) ++
      newline level ++ "\x7d"

/-- The items of a sequence, each on its own. -/
def indentedItems (level : Nat) : List Document → List String
  | [] => []
  | x :: xs => indentedAt level x :: indentedItems level xs

/-- The entries, each on its own. -/
def indentedMembers (level : Nat) : List (String × Document) → List String
  | [] => []
  | (k, x) :: xs => (quoted k ++ ": " ++ indentedAt level x) :: indentedMembers level xs

end

/-- A document over several lines, two spaces a level. -/
def indented (d : Document) : String := indentedAt 0 d

end FocusBilling.Json
