import FocusBilling.Sql.Keyword
import FocusBilling.Text.Ascii

/-!
# Tokens of SQL

* `Sql.Place`, `Sql.Span` : places in a text;
* `Sql.Token` : words, literals and signs, without blanks and comments;
* `Sql.Located` : a token with its place;
* `Sql.Token.isKeyword` : whether a token is an unquoted word, in any case.
-/

namespace FocusBilling.Sql

/-- A place in a text, both counted from one. -/
structure Place where
  /-- The line. -/
  line : Nat
  /-- The column. -/
  column : Nat
  deriving DecidableEq

namespace Place

/-- Nowhere. -/
def nowhere : Place := ⟨0, 0⟩

/-- The place behind a character. -/
def behind (p : Place) (c : Char) : Place :=
  if c = '\n' then ⟨p.line + 1, 1⟩ else ⟨p.line, p.column + 1⟩

/-- The place behind characters. -/
def behindAll (p : Place) (cs : List Char) : Place := cs.foldl behind p

end Place

/-- A part of a text. -/
structure Span where
  /-- Where it starts. -/
  start : Place
  /-- The place behind it. -/
  stop : Place
  deriving DecidableEq

namespace Span

/-- No part of a text. -/
def nowhere : Span := ⟨.nowhere, .nowhere⟩

end Span

/-- How a text is written down. -/
inductive TextStyle where
  /-- Between single quotes. -/
  | plain
  /-- Between double quotes. -/
  | doubled
  /-- Between single quotes behind `E`, with escapes. -/
  | escaped
  /-- Behind `N`. -/
  | national
  /-- Behind `U&`, with code points. -/
  | unicode
  /-- Behind `X` or `0x`: hexadecimal digits. -/
  | hexadecimal
  /-- Behind `B`, between single quotes. -/
  | bytes
  /-- Behind `B`, between double quotes. -/
  | bytesDoubled
  /-- Behind `R`, between single quotes. -/
  | raw
  /-- Behind `R`, between double quotes. -/
  | rawDoubled
  /-- Behind `R`, between three single quotes. -/
  | rawTripled
  /-- Behind `R`, between three double quotes. -/
  | rawDoubledTripled
  deriving DecidableEq

/-- A token of a SQL text. -/
inductive Token where
  /-- A name or a keyword; a quoted one is never a keyword. -/
  | word (text : String) (quote : Option Char)
  /-- A number as written, perhaps marked as long. -/
  | number (text : String) (isLong : Bool)
  /-- A text. -/
  | text (style : TextStyle) (value : String)
  /-- A text between dollar signs, perhaps with a tag. -/
  | dollarText (tag : Option String) (value : String)
  /-- A placeholder such as `?` or `$1`. -/
  | placeholder (text : String)
  /-- A sign. -/
  | sign (text : String)
  /-- A character that means nothing. -/
  | stray (c : Char)
  deriving DecidableEq

namespace Token

/-- Whether a token is an unquoted word that spells a keyword, given in capitals. -/
def isKeyword (k : String) : Token → Bool
  | .word w none => w.toList.map Char.toUpper == k.toList
  | _ => false

/-- The capitals of an unquoted word, under which keywords are looked up. -/
def keyword? : Token → Option String
  | .word w none => some (Text.upper w)
  | _ => none

/-- Whether a token is a given sign. -/
def isSign (s : String) : Token → Bool
  | .sign t => t == s
  | _ => false

/-- Whether a token is a word without a meaning of its own. -/
def isPlainWord : Token → Bool
  | .word _ (some _) => true
  | .word w none => !isReservedWord (Text.upper w)
  | _ => false

end Token

/-- A token with its place. -/
structure Located where
  /-- The token. -/
  token : Token
  /-- Where it stands. -/
  span : Span

end FocusBilling.Sql
