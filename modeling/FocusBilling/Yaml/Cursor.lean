import FocusBilling.Text.Ascii

/-!
# A place in a YAML text

* `Yaml.Cursor` : what is left of a text, with the line and the column of its first character;
* `Yaml.isBreak`, `Yaml.isSpace` : line breaks, and the blanks within a line;
* `Yaml.isPrintable` : the characters that may occur at all.
-/

namespace FocusBilling.Yaml

/-- The characters that may occur in a text. -/
def isPrintable (c : Char) : Bool :=
  let n := c.toNat
  n == 0x09 || n == 0x0a || n == 0x0d || (0x20 ≤ n && n ≤ 0x7e) || n == 0x85 ||
    (0xa0 ≤ n && n ≤ 0xd7ff) || (0xe000 ≤ n && n ≤ 0xfffd) || 0x10000 ≤ n

/-- The characters that end a line. -/
def isBreak (c : Char) : Bool := [0x0a, 0x0d, 0x85, 0x2028, 0x2029].contains c.toNat

/-- A blank within a line. -/
def isSpace (c : Char) : Bool := c = ' ' || c = '\t'

/-- What is left of a text. -/
structure Cursor where
  /-- The characters. -/
  rest : List Char
  /-- The line of the first one, from zero. -/
  line : Nat
  /-- Its column, from zero. -/
  column : Nat
  /-- How many characters stand before it. -/
  index : Nat

namespace Cursor

/-- The character at some distance. -/
def at? (k : Cursor) (n : Nat) : Option Char := k.rest[n]?

/-- Whether a character stands next. -/
def starts (k : Cursor) (c : Char) : Bool := k.rest.head? == some c

/-- Whether a blank, a line break or the end stands at some distance. -/
def blankAt (k : Cursor) (n : Nat) : Bool :=
  match k.at? n with
  | some c => isSpace c || isBreak c
  | none => true

/-- Whether a line break or the end stands next. -/
def atLineEnd (k : Cursor) : Bool := k.rest.head?.all isBreak

/-- Some characters further on in the line. -/
def skip (k : Cursor) (n : Nat) : Cursor :=
  ⟨k.rest.drop n, k.line, k.column + n, k.index + n⟩

/-- A line break: what it counts as, and the place behind it. -/
def lineBreak (k : Cursor) : List Char × Cursor :=
  match k.rest with
  | '\r' :: '\n' :: rest => (['\n'], ⟨rest, k.line + 1, 0, k.index + 2⟩)
  | c :: rest =>
    (if c.toNat = 0x2028 || c.toNat = 0x2029 then [c] else ['\n'],
      ⟨rest, k.line + 1, 0, k.index + 1⟩)
  | [] => ([], k)

/-- The place behind the blanks of a line. -/
def skipSpaces (k : Cursor) : Cursor := k.skip (k.rest.takeWhile isSpace).length

/-- The place at the end of the line. -/
def skipLine (k : Cursor) : Cursor := k.skip (k.rest.takeWhile fun c => !isBreak c).length

/-- Whether a marker of three characters stands at the start of a line. -/
def atMarker (k : Cursor) (marker : List Char) : Bool :=
  k.column == 0 && marker.isPrefixOf k.rest && k.blankAt 3

/-- Whether a marker for the start or the end of a document stands next. -/
def atDocumentMarker (k : Cursor) : Bool :=
  k.atMarker ['-', '-', '-'] || k.atMarker ['.', '.', '.']

end Cursor

end FocusBilling.Yaml
