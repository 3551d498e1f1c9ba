import FocusBilling.Yaml.Cursor

/-!
# Scalars as they are written

* `Yaml.plain`, `Yaml.quoted`, `Yaml.block` : the three ways to write a scalar; each gives its text
  and the place behind it.

A line break within a plain or quoted scalar counts as a space, and further ones are kept.
-/

namespace FocusBilling.Yaml

/-- Blanks and line breaks between two parts of a scalar. -/
structure Gap where
  /-- Blanks, as long as no line has ended. -/
  blanks : List Char := []
  /-- The first line break, once a line has ended. -/
  first : Option (List Char) := none
  /-- Further line breaks. -/
  more : List Char := []

namespace Gap

/-- What a gap counts as in the text of a scalar. -/
def folded (g : Gap) : List Char :=
  match g.first with
  | none => g.blanks
  | some ['\n'] => if g.more.isEmpty then [' '] else g.more
  | some b => b ++ g.more

/-- Whether a line has ended. -/
def broken (g : Gap) : Bool := g.first.isSome

end Gap

/-- Blanks and line breaks from a place on.  In a plain scalar a tab may not stand for the
indentation of a further line. -/
def gap (tabLimit : Option Nat) : Nat → Gap → Cursor → Option (Gap × Cursor)
  | 0, g, k => some (g, k)
  | n + 1, g, k =>
    match k.rest with
    | c :: _ =>
      if isSpace c then
        if g.broken && c = '\t' && tabLimit.any (k.column < ·) then none
        else if g.broken then gap tabLimit n g (k.skip 1)
        else gap tabLimit n { g with blanks := g.blanks ++ [c] } (k.skip 1)
      else if isBreak c then
        let (b, k') := k.lineBreak
        if g.broken then gap tabLimit n { g with more := g.more ++ b } k'
        else gap tabLimit n { blanks := [], first := some b, more := [] } k'
      else some (g, k)
    | [] => some (g, k)

/-! ### Plain scalars -/

/-- The characters of a plain scalar up to a blank or an indicator; none where a colon stands
right before an indicator of a flow collection. -/
def plainRun (inFlow : Bool) : List Char → Option (List Char)
  | [] => some []
  | c :: cs =>
    if isSpace c || isBreak c then some []
    else
      let nextBlank := match cs with
        | d :: _ => isSpace d || isBreak d
        | [] => true
      let nextMark := match cs with
        | d :: _ => [',', '?', '[', ']', '\x7b', '\x7d'].contains d
        | [] => false
      if inFlow && c = ':' && nextMark then none
      else if c = ':' && nextBlank then some []
      else if inFlow && [',', '[', ']', '\x7b', '\x7d'].contains c then some []
      else (plainRun inFlow cs).map (c :: ·)

/-- A plain scalar: its text, whether a line ended behind it, and the place behind that. -/
def plainFrom (inFlow : Bool) (indent : Int) :
    Nat → List Char → Gap → Cursor → Option (List Char × Bool × Cursor)
  | 0, _, _, _ => none
  | n + 1, text, before, k =>
    if k.atDocumentMarker || k.starts '#' then some (text, before.broken, k)
    else do
      let run ← plainRun inFlow k.rest
      let (text, after) :=
        if run.isEmpty then (text, before) else (text ++ before.folded ++ run, {})
      let k := k.skip run.length
      if !(k.rest.head?.any fun c => isSpace c || isBreak c) then
        pure (text, after.broken, k)
      else
        let limit := (max 0 (indent + 1)).toNat
        let (g, k') ← gap (some limit) (k.rest.length + 1) after k
        if !inFlow && (k'.column : Int) < indent + 1 then pure (text, g.broken, k')
        else plainFrom inFlow indent n text g k'

/-- A plain scalar: its text, whether a line ended behind it, and the place behind that. -/
def plain (inFlow : Bool) (indent : Int) (k : Cursor) : Option (String × Bool × Cursor) :=
  (plainFrom inFlow indent (k.rest.length + 2) [] {} k).map fun (text, broken, k) =>
    (String.ofList text, broken, k)

/-! ### Quoted scalars -/

/-- How many hexadecimal digits follow the letter of an escape. -/
def codeLength? (c : Char) : Option Nat :=
  match c with
  | 'x' => some 2
  | 'u' => some 4
  | 'U' => some 8
  | _ => none

/-- The character that a letter behind a backslash stands for. -/
def escaped? (c : Char) : Option Nat :=
  match c with
  | '0' => some 0
  | 'a' => some 7
  | 'b' => some 8
  | 't' | '\t' => some 9
  | 'n' => some 10
  | 'v' => some 11
  | 'f' => some 12
  | 'r' => some 13
  | 'e' => some 27
  | ' ' => some 32
  | '"' => some 34
  | '/' => some 47
  | '\\' => some 92
  | 'N' => some 0x85
  | '_' => some 0xa0
  | 'L' => some 0x2028
  | 'P' => some 0x2029
  | _ => none

/-- The character of a code, if it has one. -/
def charOf? (n : Nat) : Option Char :=
  if n > 0x10ffff || (0xd800 ≤ n && n ≤ 0xdfff) then none else some (Char.ofNat n)

/-- An escape behind its backslash: the character, and how many characters it takes. -/
def escape? (cs : List Char) : Option (Char × Nat) := do
  let c ← cs.head?
  match codeLength? c with
  | some n =>
    let digits := (cs.drop 1).take n
    if digits.length = n && digits.all Text.isHexDigit then
      pure (← charOf? (Text.digitsValue 16 digits), n + 1)
    else none
  | none => pure (← charOf? (← escaped? c), 1)

/-- The characters of a quoted scalar up to a blank or the closing quote, whether a line break was
escaped behind them, and the place behind. -/
def quotedRun (single : Bool) :
    Nat → List Char → Cursor → Option (List Char × Bool × Cursor)
  | 0, _, _ => none
  | n + 1, text, k =>
    match k.rest with
    | [] => some (text, false, k)
    | c :: cs =>
      if isSpace c || isBreak c then some (text, false, k)
      else if single then
        if c = '\'' then
          if cs.head? == some '\'' then quotedRun single n (text ++ ['\'']) (k.skip 2)
          else some (text, false, k)
        else quotedRun single n (text ++ [c]) (k.skip 1)
      else if c = '"' then some (text, false, k)
      else if c = '\\' then
        if cs.head?.any isBreak then some (text, true, ((k.skip 1).lineBreak).2)
        else do
          let (e, size) ← escape? cs
          quotedRun single n (text ++ [e]) (k.skip (size + 1))
      else quotedRun single n (text ++ [c]) (k.skip 1)

/-- A quoted scalar behind its opening quote: its text, and the place behind the closing one. -/
def quotedFrom (single : Bool) : Nat → List Char → Cursor → Option (List Char × Cursor)
  | 0, _, _ => none
  | n + 1, text, k =>
    if k.atDocumentMarker || k.rest.isEmpty then none
    else do
      let (text, joined, k) ← quotedRun single (k.rest.length + 1) text k
      if !joined && k.starts (if single then '\'' else '"') then pure (text, k.skip 1)
      else
        let start : Gap := if joined then { first := some [] } else {}
        let (g, k) ← gap none (k.rest.length + 1) start k
        quotedFrom single n (text ++ g.folded) k

/-- A quoted scalar: its text, and the place behind it. -/
def quoted (single : Bool) (k : Cursor) : Option (String × Cursor) :=
  (quotedFrom single (k.rest.length + 2) [] (k.skip 1)).map fun (text, k) =>
    (String.ofList text, k)

/-! ### Block scalars -/

/-- What becomes of the line breaks at the end of a block scalar. -/
inductive Chomping where
  | strip
  | clip
  | keep
  deriving DecidableEq

/-- The signs behind the indicator of a block scalar, in either order: what becomes of its last
line breaks, and a number of columns by which it is indented. -/
def blockHeader (cs : List Char) : Option ((Chomping × Option Nat) × Nat) :=
  let chomping? (c : Char) : Option Chomping :=
    if c = '+' then some .keep else if c = '-' then some .strip else none
  let increment? (c : Char) : Option Nat := if Text.isDigit c then some (c.toNat - 48) else none
  match cs with
  | a :: rest =>
    match chomping? a, increment? a with
    | some p, _ =>
      match rest.head?.bind increment? with
      | some 0 => none
      | some n => some ((p, some n), 2)
      | none => some ((p, none), 1)
    | none, some 0 => none
    | none, some n =>
      match rest.head?.bind chomping? with
      | some p => some ((p, some n), 2)
      | none => some ((.clip, some n), 1)
    | none, none => some ((.clip, none), 0)
  | [] => some ((.clip, none), 0)

/-- Line breaks and indentation in front of a line of a block scalar: the breaks, the deepest
column, and the place behind.  An indentation of zero is not known yet. -/
def blockBreaks (indent : Nat) :
    Nat → Nat → List Char → Cursor → Option (List Char × Nat × Cursor)
  | 0, _, _, _ => none
  | n + 1, deepest, breaks, k =>
    let spaces := (k.rest.takeWhile (· = ' ')).length
    let k := k.skip (if indent = 0 then spaces else min spaces (indent - k.column))
    let deepest := max deepest k.column
    if (indent = 0 || k.column < indent) && k.starts '\t' then none
    else if k.rest.head?.any isBreak then
      let (b, k) := k.lineBreak
      blockBreaks indent n deepest (breaks ++ b) k
    else some (breaks, deepest, k)

/-- The lines of a block scalar: its text without the last line breaks, the break behind the last
line, those behind it, and the place behind. -/
def blockLines (literal : Bool) (indent : Nat) :
    Nat → List Char → Bool → List Char → List Char → Cursor →
      Option (List Char × List Char × List Char × Cursor)
  | 0, _, _, _, _, _ => none
  | n + 1, text, leadingBlank, last, breaks, k =>
    if k.column != indent || k.rest.isEmpty then some (text, last, breaks, k)
    else do
      let blank := k.rest.head?.any isSpace
      let joint :=
        if !literal && last == ['\n'] && !leadingBlank && !blank then
          if breaks.isEmpty then [' '] else breaks
        else last ++ breaks
      let line := k.rest.takeWhile fun c => !isBreak c
      let k := k.skip line.length
      let (last, k) := k.lineBreak
      let (breaks, _, k) ← blockBreaks indent (k.rest.length + 1) 0 [] k
      blockLines literal indent n (text ++ joint ++ line) blank last breaks k

/-- A block scalar: its text, and the place behind it. -/
def block (literal : Bool) (parentIndent : Int) (k : Cursor) : Option (String × Cursor) := do
  let k := k.skip 1
  let ((chomping, increment), size) ← blockHeader k.rest
  let k := (k.skip size).skipSpaces
  let k := if k.starts '#' then k.skipLine else k
  if !k.atLineEnd then none
  else
    let k := k.lineBreak.2
    let base := (max 0 parentIndent).toNat
    let known := match increment with
      | some n => base + n
      | none => 0
    let (breaks, deepest, k) ← blockBreaks known (k.rest.length + 1) 0 [] k
    let indent := if known > 0 then known else max (max deepest (parentIndent + 1).toNat) 1
    let (text, last, breaks, k) ← blockLines literal indent (k.rest.length + 1) [] false [] breaks k
    let tail := match chomping with
      | .strip => []
      | .clip => last
      | .keep => last ++ breaks
    pure (String.ofList (text ++ tail), k)

end FocusBilling.Yaml
