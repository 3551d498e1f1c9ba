import FocusBilling.Yaml.Written

/-!
# Tokens of YAML

* `Yaml.Token` : scalars, properties of nodes, and the signs that structure a text;
* `Yaml.tokens?` : the tokens of a text.

Indentation opens and closes blocks, which have tokens of their own.  That something is a key is
known only when the colon behind it is met; the tokens that say so are then put in front of it.
-/

namespace FocusBilling.Yaml

/-- The tag of a node, before its handle is looked up. -/
structure WrittenTag where
  /-- The handle. -/
  handle : String
  /-- What follows the handle. -/
  rest : String
  deriving DecidableEq

/-- A token. -/
inductive Token where
  | directive (name : String) (handle replacement : String)
  | documentStart
  | documentEnd
  | blockSequence
  | blockMapping
  | blockEnd
  | sequenceStart
  | sequenceEnd
  | mappingStart
  | mappingEnd
  | entry
  | comma
  | key
  | value
  | reference (name : String)
  | anchor (name : String)
  | tag (tag : WrittenTag)
  | scalar (text : String) (isPlain : Bool)
  deriving DecidableEq

/-- Where a key may have started. -/
structure KeyStart where
  /-- How many tokens stand before it. -/
  position : Nat
  /-- Its place in the text. -/
  cursor : Cursor
  /-- Whether it has to be a key. -/
  isRequired : Bool

/-- A text while its tokens are found. -/
structure Scan where
  /-- What is left of the text. -/
  cursor : Cursor
  /-- The tokens found. -/
  tokens : Array Token
  /-- The column of the current block. -/
  indent : Int
  /-- The columns of the blocks around it. -/
  outer : List Int
  /-- Whether a key may start here. -/
  keyAllowed : Bool
  /-- Where a key may have started, in the current flow collection and in those around it. -/
  keys : List (Option KeyStart)

namespace Scan

/-- A text before its first token. -/
def start (s : String) : Scan := ⟨⟨s.toList, 0, 0, 0⟩, #[], -1, [], true, [none]⟩

/-- Whether a flow collection is open. -/
def inFlow (s : Scan) : Bool := s.keys.length > 1

/-- One more token. -/
def push (s : Scan) (t : Token) : Scan := { s with tokens := s.tokens.push t }

/-- A place further on. -/
def moveTo (s : Scan) (k : Cursor) : Scan := { s with cursor := k }

/-- Whether a key may start at the next token. -/
def allowKey (s : Scan) (yes : Bool) : Scan := { s with keyAllowed := yes }

/-! ### Blocks and keys -/

/-- The open blocks that are indented deeper than a column are closed. -/
def closeBlocks (column : Int) (s : Scan) : Scan :=
  if s.inFlow then s
  else
    let rec go (indent : Int) (tokens : Array Token) : List Int → Int × List Int × Array Token
      | [] => (indent, [], tokens)
      | o :: os =>
        if indent > column then go o (tokens.push .blockEnd) os else (indent, o :: os, tokens)
    let (indent, outer, tokens) := go s.indent s.tokens s.outer
    { s with indent := indent, outer := outer, tokens := tokens }

/-- A block opened at a column, if it is deeper than the current one; its token stands at a
position. -/
def openBlock (column : Nat) (position : Nat) (t : Token) (s : Scan) : Scan :=
  if s.inFlow || (column : Int) ≤ s.indent then s
  else
    let before := s.tokens.toList.take position
    let after := s.tokens.toList.drop position
    { s with
      outer := s.indent :: s.outer
      indent := column
      tokens := (before ++ t :: after).toArray }

/-- The innermost place where a key may have started is given up; it must not be one that is
required. -/
def dropKey (s : Scan) : Option Scan :=
  match s.keys with
  | some k :: ks => if k.isRequired then none else some { s with keys := none :: ks }
  | _ => some s

/-- A key may start here. -/
def saveKey (s : Scan) : Option Scan := do
  if s.keyAllowed then
    let required := !s.inFlow && s.indent == (s.cursor.column : Int)
    let s ← s.dropKey
    match s.keys with
    | _ :: ks => pure { s with keys := some ⟨s.tokens.size, s.cursor, required⟩ :: ks }
    | [] => pure s
  else pure s

/-- A key stands in one line and within a bounded number of characters. -/
def dropStale (s : Scan) : Option Scan := do
  let keys ← s.keys.mapM fun
    | none => some none
    | some k =>
      if k.cursor.line < s.cursor.line || k.cursor.index + 1024 < s.cursor.index then
        if k.isRequired then none else some none
      else some (some k)
  pure { s with keys := keys }

/-! ### Between tokens -/

/-- The place of the next token: blanks, comments and line breaks are passed over, and a line break
outside a flow collection allows a key. -/
def nextPlace : Nat → Scan → Scan
  | 0, s => s
  | n + 1, s =>
    let k := s.cursor
    let tabs := s.inFlow || !s.keyAllowed
    let k := if k.index == 0 && k.rest.head?.any (fun c => c.toNat = 0xfeff) then k.skip 1 else k
    let k := k.skip (k.rest.takeWhile fun c => c = ' ' || (tabs && c = '\t')).length
    let k := if k.starts '#' then k.skipLine else k
    if k.rest.head?.any isBreak then
      let s := s.moveTo k.lineBreak.2
      nextPlace n (if s.inFlow then s else s.allowKey true)
    else s.moveTo k

/-! ### Names, tags and directives -/

/-- The characters of names of anchors. -/
def isNameChar (c : Char) : Bool := Text.isLetter c || Text.isDigit c || c = '_' || c = '-'

/-- The name of an anchor or a reference behind its sign. -/
def anchorName (k : Cursor) : Option (String × Cursor) :=
  let k := k.skip 1
  let name := k.rest.takeWhile isNameChar
  let k := k.skip name.length
  let ended := k.blankAt 0 ||
    k.rest.head?.any fun c => ['?', ':', ',', ']', '\x7d', '%', '@', '\x60'].contains c
  if name.isEmpty || !ended then none else some (String.ofList name, k)

/-- The characters of a tag. -/
def isTagChar (verbatim : Bool) (c : Char) : Bool :=
  isNameChar c ||
    [';', '/', '?', ':', '@', '&', '=', '+', '$', '.', '!', '~', '*', '\'', '(', ')',
      '%'].contains c
    || (verbatim && [',', '[', ']'].contains c)

/-- A tag. -/
def tagAt (inFlow : Bool) (k : Cursor) : Option (WrittenTag × Cursor) := do
  let (tag, k) ←
    if k.at? 1 == some '<' then do
      let k := k.skip 2
      let uri := k.rest.takeWhile (isTagChar true)
      let k := k.skip uri.length
      if uri.isEmpty || !k.starts '>' then none
      else pure (WrittenTag.mk "" (String.ofList uri), k.skip 1)
    else
      let name := (k.rest.drop 1).takeWhile isNameChar
      let k' := k.skip (name.length + 1)
      if k'.starts '!' then
        let k' := k'.skip 1
        let rest := k'.rest.takeWhile (isTagChar false)
        if rest.isEmpty then none
        else pure (WrittenTag.mk (String.ofList ('!' :: (name ++ ['!']))) (String.ofList rest),
          k'.skip rest.length)
      else
        let rest := (k.rest.drop 1).takeWhile (isTagChar false)
        let k := k.skip (rest.length + 1)
        if rest.isEmpty then pure (WrittenTag.mk "" "!", k)
        else pure (WrittenTag.mk "!" (String.ofList rest), k)
  if k.blankAt 0 || (inFlow && k.starts ',') then pure (tag, k) else none

/-- The words of a line up to a comment. -/
def words (cs : List Char) : List (List Char) :=
  let step (acc : List (List Char)) (c : Char) : List (List Char) :=
    if isSpace c then [] :: acc
    else match acc with
      | w :: ws => (w ++ [c]) :: ws
      | [] => [[c]]
  ((cs.foldl step [[]]).reverse.filter fun w => !w.isEmpty).takeWhile fun w => w.head? != some '#'

/-- Whether a word is a version such as `1.2`. -/
def isVersion (w : List Char) : Bool :=
  let major := w.takeWhile Text.isDigit
  let minor := (w.dropWhile Text.isDigit).drop 1
  !major.isEmpty && (w.dropWhile Text.isDigit).head? == some '.' && !minor.isEmpty &&
    minor.all Text.isDigit && major.length ≤ 9 && minor.length ≤ 9

/-- Whether a word is the handle of tags. -/
def isHandle (w : List Char) : Bool :=
  w == ['!'] || (w.length ≥ 2 && w.head? == some '!' && w.getLast? == some '!' &&
    ((w.drop 1).dropLast).all isNameChar)

/-- A directive. -/
def directiveAt (k : Cursor) : Option (Token × Cursor) :=
  let line := (k.skip 1).rest.takeWhile fun c => !isBreak c
  let k' := k.skip (line.length + 1)
  match words line with
  | [name, version] =>
    if name == "YAML".toList && isVersion version then
      some (.directive "YAML" "" (String.ofList version), k')
    else none
  | [name, handle, target] =>
    if name == "TAG".toList && isHandle handle then
      some (.directive "TAG" (String.ofList handle) (String.ofList target), k')
    else none
  | _ => none

/-! ### Tokens -/

/-- The signs that start no plain scalar. -/
def indicators : List Char :=
  ['-', '?', ':', ',', '[', ']', '\x7b', '\x7d', '#', '&', '*', '!', '|', '>', '\'', '"', '%',
    '@', '\x60']

/-- Whether a plain scalar starts with a character. -/
def startsPlain (s : Scan) (c : Char) : Bool :=
  let k := s.cursor
  let spaceNext := (k.at? 1).any isSpace
  !(isSpace c || indicators.contains c) || (c = '-' && !spaceNext) ||
    (!s.inFlow && (c = '?' || c = ':') && !k.blankAt 1)

/-- A token that stands for a node of its own. -/
def node (s : Scan) (read : Cursor → Option (Token × Cursor)) : Option Scan := do
  let s ← s.saveKey
  let (t, k) ← read s.cursor
  pure (((s.allowKey false).push t).moveTo k)

/-- The start of a flow collection. -/
def openFlow (s : Scan) (t : Token) : Option Scan := do
  let s ← s.saveKey
  pure ((({ s with keys := none :: s.keys }.allowKey true).push t).moveTo (s.cursor.skip 1))

/-- The end of a flow collection. -/
def closeFlow (s : Scan) (t : Token) : Option Scan := do
  let s ← s.dropKey
  let keys := match s.keys with
    | _ :: k :: ks => k :: ks
    | ks => ks
  pure ((({ s with keys := keys }.allowKey false).push t).moveTo (s.cursor.skip 1))

/-- A marker of three characters at the start of a line. -/
def marker (s : Scan) (t : Token) : Option Scan := do
  let s ← (s.closeBlocks (-1)).dropKey
  pure (((s.allowKey false).push t).moveTo (s.cursor.skip 3))

/-- The dash of a sequence. -/
def entryToken (s : Scan) : Option Scan := do
  if !s.inFlow && !s.keyAllowed then none
  else
    let s ← (s.openBlock s.cursor.column s.tokens.size .blockSequence).dropKey
    pure (((s.allowKey true).push .entry).moveTo (s.cursor.skip 1))

/-- The sign of a key. -/
def keyToken (s : Scan) : Option Scan := do
  if !s.inFlow && !s.keyAllowed then none
  else
    let s ← (s.openBlock s.cursor.column s.tokens.size .blockMapping).dropKey
    pure (((s.allowKey (!s.inFlow)).push .key).moveTo (s.cursor.skip 1))

/-- The colon of a value; where a key may have started before it, that is one. -/
def valueToken (s : Scan) : Option Scan :=
  match s.keys with
  | some k :: ks =>
    let before := s.tokens.toList.take k.position
    let after := s.tokens.toList.drop k.position
    let s := { s with tokens := (before ++ Token.key :: after).toArray, keys := none :: ks }
    let s := s.openBlock k.cursor.column k.position .blockMapping
    some (((s.allowKey false).push .value).moveTo (s.cursor.skip 1))
  | _ =>
    if !s.inFlow && !s.keyAllowed then none
    else
      let s := s.openBlock s.cursor.column s.tokens.size .blockMapping
      some (((s.allowKey (!s.inFlow)).push .value).moveTo (s.cursor.skip 1))

/-- A plain scalar. -/
def plainToken (s : Scan) : Option Scan := do
  let s ← s.saveKey
  let (text, broken, k) ← plain s.inFlow s.indent s.cursor
  pure (((s.allowKey broken).push (.scalar text true)).moveTo k)

/-- A block scalar. -/
def blockToken (s : Scan) (literal : Bool) : Option Scan := do
  let s ← s.dropKey
  let (text, k) ← block literal s.indent s.cursor
  pure (((s.allowKey true).push (.scalar text false)).moveTo k)

/-- The next token, which starts with a character. -/
def token (s : Scan) (c : Char) : Option Scan :=
  let k := s.cursor
  if k.column == 0 && c = '%' then do
    let s ← (s.closeBlocks (-1)).dropKey
    let (t, k) ← directiveAt s.cursor
    pure (((s.allowKey false).push t).moveTo k)
  else if k.atMarker ['-', '-', '-'] then s.marker .documentStart
  else if k.atMarker ['.', '.', '.'] then s.marker .documentEnd
  else if c = '[' then s.openFlow .sequenceStart
  else if c = '\x7b' then s.openFlow .mappingStart
  else if c = ']' then s.closeFlow .sequenceEnd
  else if c = '\x7d' then s.closeFlow .mappingEnd
  else if c = ',' then do
    let s ← s.dropKey
    pure (((s.allowKey true).push .comma).moveTo (k.skip 1))
  else if c = '-' && k.blankAt 1 then s.entryToken
  else if c = '?' && (s.inFlow || k.blankAt 1) then s.keyToken
  else if c = ':' && (s.inFlow || k.blankAt 1) then s.valueToken
  else if c = '*' then s.node fun k => (anchorName k).map fun (n, k) => (.reference n, k)
  else if c = '&' then s.node fun k => (anchorName k).map fun (n, k) => (.anchor n, k)
  else if c = '!' then s.node fun k => (tagAt s.inFlow k).map fun (t, k) => (.tag t, k)
  else if c = '|' && !s.inFlow then s.blockToken true
  else if c = '>' && !s.inFlow then s.blockToken false
  else if c = '\'' then s.node fun k => (quoted true k).map fun (t, k) => (.scalar t false, k)
  else if c = '"' then s.node fun k => (quoted false k).map fun (t, k) => (.scalar t false, k)
  else if s.startsPlain c then s.plainToken
  else none

/-- The end of the text: every block is closed. -/
def finish (s : Scan) : Option (List Token) := do
  let s ← (s.closeBlocks (-1)).dropKey
  pure s.tokens.toList

/-- All tokens from a place on. -/
def run : Nat → Scan → Option (List Token)
  | 0, _ => none
  | n + 1, s => do
    let s ← (nextPlace (s.cursor.rest.length + 1) s).dropStale
    let s := s.closeBlocks s.cursor.column
    match s.cursor.rest with
    | [] => s.finish
    | c :: _ => run n (← s.token c)

end Scan

/-- The tokens of a text. -/
def tokens? (s : String) : Option (List Token) :=
  if s.toList.all isPrintable then Scan.run (s.length + 2) (.start s) else none

end FocusBilling.Yaml
