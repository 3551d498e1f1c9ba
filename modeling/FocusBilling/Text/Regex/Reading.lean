import FocusBilling.Number.Instances
import FocusBilling.Text.Regex

/-!
# Reading regular expressions

* `Regex.read?` : the expression that a pattern spells; `none` for a text that is no pattern;
* `Regex.Mode` : what the flags of a pattern say.

Patterns know groups with and without names, flags, bounds, classes inside classes and what they
have in common, properties of characters, and landmarks; they know neither references to groups nor
conditions on what stands around a match.
-/

namespace FocusBilling.Regex

/-- What the flags of a pattern say. -/
structure Mode where
  /-- Whether case is left out of account. -/
  ignoreCase : Bool := false
  /-- Whether `^` and `$` stand for the ends of lines. -/
  lines : Bool := false
  /-- Whether a point stands for line breaks too. -/
  dotAll : Bool := false
  /-- Whether classes are those of all scripts. -/
  anyScript : Bool := true
  /-- Whether blanks and comments in the pattern count for nothing. -/
  spaced : Bool := false
  /-- Whether carriage returns end lines. -/
  returns : Bool := false

namespace Mode

/-- A class as a mode reads it. -/
def classOf (m : Mode) (accepts : Char → Bool) : Char → Bool :=
  if m.ignoreCase then foldCase m.anyScript accepts else accepts

/-- The expression of one character. -/
def literal (m : Mode) (c : Char) : Regex := .char (m.classOf (· = c))

/-- A mode with a flag set or cleared; `none` for a letter that is no flag. -/
def set? (m : Mode) (on : Bool) : Char → Option Mode
  | 'i' => some { m with ignoreCase := on }
  | 'm' => some { m with lines := on }
  | 's' => some { m with dotAll := on }
  | 'u' => some { m with anyScript := on }
  | 'x' => some { m with spaced := on }
  | 'R' => some { m with returns := on }
  | 'U' => some m
  | _ => none

/-- What follows the blanks and comments that count for nothing. -/
def skip (m : Mode) : List Char → List Char
  | [] => []
  | c :: cs =>
    if !m.spaced then c :: cs
    else if Text.isBlank c then skip m cs
    else if c = '#' then skipComment m cs
    else c :: cs
where
  /-- What follows a comment and what counts for nothing behind it. -/
  skipComment (m : Mode) : List Char → List Char
    | [] => []
    | c :: cs => if c = '\n' then skip m cs else skipComment m cs

end Mode

/-! ### Escapes -/

/-- What an escape stands for. -/
inductive Escape where
  | char (c : Char)
  | chars (accepts : Char → Bool)
  | mark (m : Landmark)

/-- The characters with a meaning of their own. -/
def isMeta (c : Char) : Bool := "\\.+*?()|[]\x7b\x7d^$#&-~".toList.contains c

/-- The character of hexadecimal digits. -/
def hexChar? (ds : List Char) : Option Char :=
  let n := Text.digitsValue 16 ds
  if ds.isEmpty || !ds.all Text.isHexDigit || ds.length > 12 then none
  else if n < 0xd800 || (0xdfff < n && n < 0x110000) then some (Char.ofNat n) else none

/-- The character behind `\x`, `\u` or `\U`, and what follows it. -/
def readHex (width : Nat) (cs : List Char) : Option (Char × List Char) :=
  match cs with
  | '\x7b' :: rest =>
    let ds := rest.takeWhile (· ≠ '\x7d')
    match rest.drop ds.length with
    | _ :: rest => (hexChar? ds).map (·, rest)
    | [] => none
  | cs =>
    let ds := cs.take width
    if ds.length < width then none else (hexChar? ds).map (·, cs.drop width)

/-- The class behind `\p` or `\P`, and what follows it. -/
def readProperty (m : Mode) (negated : Bool) (cs : List Char) :
    Option ((Char → Bool) × List Char) :=
  let made (text : List Char) (rest : List Char) : Option ((Char → Bool) × List Char) :=
    if !m.anyScript then none
    else
      (property? text).map fun f =>
        let f := m.classOf f
        (fun c => f c != negated, rest)
  match cs with
  | '\x7b' :: rest =>
    let text := rest.takeWhile (· ≠ '\x7d')
    match rest.drop text.length with
    | _ :: rest => made text rest
    | [] => none
  | c :: rest => if c = '\\' then none else made [c] rest
  | [] => none

/-- The landmarks named in braces behind `\b`. -/
def wordMark? (anyScript : Bool) (name : String) : Option Landmark :=
  match name with
  | "start" => some (.wordStart anyScript)
  | "end" => some (.wordEnd anyScript)
  | "start-half" => some (.noWordBefore anyScript)
  | "end-half" => some (.noWordAfter anyScript)
  | _ => none

/-- What stands behind `\b`. -/
def readWordEdge (m : Mode) (cs : List Char) : Option (Escape × List Char) :=
  let edge : Escape := .mark (.wordEdge m.anyScript false)
  match cs with
  | '\x7b' :: rest =>
    if (rest.dropWhile Text.isBlank).head?.any fun c => Text.isLetter c || c = '-' then
      let name := rest.takeWhile (· ≠ '\x7d')
      match rest.drop name.length with
      | _ :: rest =>
        (wordMark? m.anyScript (Text.trim (String.ofList name))).map fun k => (.mark k, rest)
      | [] => none
    else some (edge, cs)
  | _ => some (edge, cs)

/-- What stands behind a backslash, and what follows it. -/
def readEscape (m : Mode) : List Char → Option (Escape × List Char)
  | [] => none
  | c :: cs =>
    if c = 'x' then (readHex 2 cs).map fun (c, r) => (.char c, r)
    else if c = 'u' then (readHex 4 cs).map fun (c, r) => (.char c, r)
    else if c = 'U' then (readHex 8 cs).map fun (c, r) => (.char c, r)
    else if c = 'p' || c = 'P' then
      (readProperty m (c = 'P') cs).map fun (f, r) => (.chars f, r)
    else
      match letterClass? m.anyScript c with
      | some f =>
        if !m.anyScript && (c = 'D' || c = 'S' || c = 'W') then none else some (.chars f, cs)
      | none =>
        if isMeta c then some (.char c, cs)
        else
          match c with
          | 'a' => some (.char '\x07', cs)
          | 'f' => some (.char '\x0c', cs)
          | 't' => some (.char '\t', cs)
          | 'n' => some (.char '\n', cs)
          | 'r' => some (.char '\r', cs)
          | 'v' => some (.char '\x0b', cs)
          | 'A' => some (.mark .textStart, cs)
          | 'z' => some (.mark .textEnd, cs)
          | 'b' => readWordEdge m cs
          | 'B' => some (.mark (.wordEdge m.anyScript true), cs)
          | '<' => some (.mark (.wordStart m.anyScript), cs)
          | '>' => some (.mark (.wordEnd m.anyScript), cs)
          | _ =>
            if c.toNat < 128 && !Text.isLetter c && !Text.isDigit c then some (.char c, cs)
            else none

/-! ### Classes -/

/-- How two classes are joined. -/
inductive ClassOp where
  | intersection | difference | symmetricDifference

namespace ClassOp

/-- The class that two classes make. -/
def apply (op : ClassOp) (f g : Char → Bool) : Char → Bool :=
  match op with
  | intersection => fun c => f c && g c
  | difference => fun c => f c && !g c
  | symmetricDifference => fun c => f c != g c

end ClassOp

/-- A class in the making: what stands left of the last operator, and the entries behind it. -/
structure OpenClass where
  /-- The class left of the last operator, and the operator. -/
  left : Option ((Char → Bool) × ClassOp)
  /-- The entries behind it. -/
  entries : Char → Bool

namespace OpenClass

/-- A class with one more entry. -/
def add (o : OpenClass) (f : Char → Bool) : OpenClass :=
  { o with entries := fun c => o.entries c || f c }

/-- The class of all that has been read. -/
def close (m : Mode) (o : OpenClass) : Char → Bool :=
  match o.left with
  | some (f, op) => op.apply f (m.classOf o.entries)
  | none => m.classOf o.entries

/-- A class with an operator behind it. -/
def operator (m : Mode) (o : OpenClass) (op : ClassOp) : OpenClass :=
  ⟨some (o.close m, op), fun _ => false⟩

end OpenClass

/-- A class between brackets and colons behind its first bracket, and what follows it. -/
def readAsciiClass (cs : List Char) : Option ((Char → Bool) × List Char) :=
  match cs with
  | ':' :: rest =>
    let (negated, rest) := match rest with
      | '^' :: r => (true, r)
      | r => (false, r)
    let name := rest.takeWhile (· ≠ ':')
    match rest.drop name.length with
    | ':' :: ']' :: rest =>
      (asciiClass? (String.ofList name)).map fun f => (fun c => f c != negated, rest)
    | _ => none
  | _ => none

/-- One entry of a class that is no class itself, and what follows it. -/
def readClassItem (m : Mode) : List Char → Option (Escape × List Char)
  | [] => none
  | '\\' :: cs =>
    match readEscape m cs with
    | some (.mark _, _) | none => none
    | some found => some found
  | c :: cs => some (.char c, cs)

/-- The start of a class behind its bracket and sign: dashes, or a closing bracket, that stand for
themselves. -/
def readClassStart (m : Mode) : Nat → Bool → OpenClass → List Char → OpenClass × List Char
  | 0, _, o, cs => (o, cs)
  | n + 1, isFirst, o, cs =>
    match m.skip cs with
    | '-' :: rest => readClassStart m n false (o.add (· = '-')) rest
    | ']' :: rest => if isFirst then (o.add (· = ']'), rest) else (o, ']' :: rest)
    | cs => (o, cs)

mutual

/-- A class behind its opening bracket, and what follows it. -/
def readClass (m : Mode) : Nat → List Char → Option ((Char → Bool) × List Char)
  | 0, _ => none
  | n + 1, cs =>
    let cs := m.skip cs
    let (negated, cs) := match cs with
      | '^' :: rest => (true, rest)
      | cs => (false, cs)
    let (o, cs) := readClassStart m (cs.length + 1) true ⟨none, fun _ => false⟩ cs
    if negated && !m.anyScript then none
    else (readEntries m n o cs).map fun (f, rest) => (fun c => f c != negated, rest)

/-- The entries of a class up to its closing bracket, and what follows it. -/
def readEntries (m : Mode) : Nat → OpenClass → List Char → Option ((Char → Bool) × List Char)
  | 0, _, _ => none
  | n + 1, o, cs =>
    match m.skip cs with
    | [] => none
    | ']' :: rest => some (o.close m, rest)
    | '[' :: rest =>
      match readAsciiClass rest with
      | some (f, rest) => readEntries m n (o.add f) rest
      | none =>
        (readClass m n rest).bind fun (f, rest) => readEntries m n (o.add f) rest
    | '&' :: '&' :: rest => readEntries m n (o.operator m .intersection) rest
    | '-' :: '-' :: rest => readEntries m n (o.operator m .difference) rest
    | '~' :: '~' :: rest => readEntries m n (o.operator m .symmetricDifference) rest
    | cs =>
      match readClassItem m cs with
      | none => none
      | some (item, rest) =>
        let rest := m.skip rest
        let goesOn := match rest with
          | '-' :: r => (m.skip r).head?.any fun c => c ≠ ']' && c ≠ '-'
          | _ => false
        if goesOn then
          match item, readClassItem m (m.skip (rest.drop 1)) with
          | .char a, some (.char b, rest) =>
            if a ≤ b then readEntries m n (o.add fun c => a ≤ c && c ≤ b) rest else none
          | _, _ => none
        else
          match item with
          | .char a => readEntries m n (o.add (· = a)) rest
          | .chars f => readEntries m n (o.add f) rest
          | .mark _ => none

end

/-! ### Repetitions -/

/-- A number with blanks around it, and what follows it. -/
def readCount (cs : List Char) : Option (Nat × List Char) :=
  let cs := cs.dropWhile Text.isBlank
  let ds := cs.takeWhile Text.isDigit
  let n := Text.digitsValue 10 ds
  if ds.isEmpty || n ≥ 2 ^ 32 then none
  else some (n, (cs.drop ds.length).dropWhile Text.isBlank)

/-- The bounds of a repetition behind its opening brace, and what follows them. -/
def readBounds (m : Mode) (cs : List Char) : Option ((Nat × Option Nat) × List Char) := do
  let (low, rest) ← readCount (m.skip cs)
  match rest with
  | '\x7d' :: rest => pure ((low, some low), rest)
  | ',' :: rest =>
    match m.skip rest with
    | '\x7d' :: rest => pure ((low, none), rest)
    | rest => do
      let (high, rest) ← readCount rest
      match rest with
      | '\x7d' :: rest => if high < low then none else pure ((low, some high), rest)
      | _ => none
  | _ => none

/-- The number of parts of an expression. -/
def size : Regex → Nat
  | seq a b | either a b => size a + size b + 1
  | many a => size a + 1
  | _ => 1

/-- How large an expression may grow. -/
def maxSize : Nat := 200000

/-- The repetitions behind an expression, and what follows them. -/
def readRepeats (m : Mode) : Nat → Regex → List Char → Option (Regex × List Char)
  | 0, _, _ => none
  | n + 1, r, cs =>
    let lazily (rest : List Char) : List Char := match rest with
      | '?' :: rest => rest
      | _ => rest
    match m.skip cs with
    | '*' :: rest => readRepeats m n (many r) (lazily rest)
    | '+' :: rest => readRepeats m n (seq r (many r)) (lazily rest)
    | '?' :: rest => readRepeats m n (either empty r) (lazily rest)
    | '\x7b' :: rest => do
      let ((low, high), rest) ← readBounds m rest
      if size r * (high.getD low + 1) > maxSize then none
      else readRepeats m n (repeated r low high) (lazily rest)
    | cs => some (r, cs)

/-! ### Groups -/

/-- How a group opens. -/
inductive Opening where
  /-- A group whose inside has a mode. -/
  | group (mode : Mode)
  | named (name : String)
  /-- No group: the mode of all that follows. -/
  | flags (mode : Mode)

/-- Flags up to a colon or a closing bracket: the mode, whether there was any flag, and what follows
them from that sign on. -/
def readFlags (m : Mode) (on : Bool) (seen : List Char) :
    List Char → Option (Mode × List Char × List Char)
  | [] => none
  | c :: cs =>
    if c = ':' || c = ')' then
      if seen.head? = some '-' then none else some (m, seen, c :: cs)
    else if c = '-' then
      if seen.contains '-' then none else readFlags m false ('-' :: seen) cs
    else if seen.contains c then none
    else (m.set? on c).bind fun m => readFlags m on (c :: seen) cs

/-- Whether a text may name a group. -/
def isGroupName (cs : List Char) : Bool :=
  match cs with
  | [] => false
  | c :: rest =>
    (c = '_' || Text.isAlphabetic c) && rest.all fun c =>
      c = '_' || c = '.' || c = '[' || c = ']' || Text.isAlphabetic c || Text.isAnyDigit c

/-- How a group opens behind its bracket, and what follows it. -/
def readOpening (m : Mode) (cs : List Char) : Option (Opening × List Char) :=
  let name (rest : List Char) : Option (Opening × List Char) :=
    let text := rest.takeWhile (· ≠ '>')
    match rest.drop text.length with
    | _ :: rest => if isGroupName text then some (.named (String.ofList text), rest) else none
    | [] => none
  match m.skip cs with
  | '?' :: rest =>
    match rest with
    | '=' :: _ | '!' :: _ | '<' :: '=' :: _ | '<' :: '!' :: _ => none
    | 'P' :: '<' :: rest => name rest
    | '<' :: rest => name rest
    | _ =>
      match readFlags m true [] rest with
      | some (mode, seen, ')' :: rest) => if seen.isEmpty then none else some (.flags mode, rest)
      | some (mode, _, _ :: rest) => some (.group mode, rest)
      | _ => none
  | _ => some (.group m, cs)

/-! ### Patterns -/

/-- What stands for one character other than itself, or for a place. -/
def readSign? (m : Mode) (c : Char) : Option (Option Regex) :=
  match c with
  | '.' =>
    if !m.anyScript then some none
    else some (some (.char fun c => m.dotAll || (c ≠ '\n' && !(m.returns && c = '\r'))))
  | '^' => some (some (.at (if m.lines then .lineStart m.returns else .textStart)))
  | '$' => some (some (.at (if m.lines then .lineEnd m.returns else .textEnd)))
  | _ => none

/-- Alternatives up to a closing bracket or the end, behind what has been read of the current one
and the alternatives before it; the names of groups must differ. -/
def readAlternatives : Nat → Mode → List String → Regex → Regex → List Char →
    Option (Regex × List String × List Char)
  | 0, _, _, _, _, _ => none
  | n + 1, m, names, current, before, cs =>
    let item (names : List String) (r : Regex) (rest : List Char) :
        Option (Regex × List String × List Char) :=
      (readRepeats m (rest.length + 1) r rest).bind fun (r, rest) =>
        readAlternatives n m names (andThen current r) before rest
    match m.skip cs with
    | [] => some (either before current, names, [])
    | ')' :: rest => some (either before current, names, ')' :: rest)
    | '|' :: rest => readAlternatives n m names empty (either before current) rest
    | '(' :: rest =>
      let group (mode : Mode) (names : List String) (rest : List Char) :
          Option (Regex × List String × List Char) :=
        match readAlternatives n mode names empty never rest with
        | some (r, names, ')' :: rest) => item names r rest
        | _ => none
      match readOpening m rest with
      | some (.flags mode, rest) =>
        match mode.skip rest with
        | '*' :: _ | '+' :: _ | '?' :: _ | '\x7b' :: _ => none
        | _ => readAlternatives n mode names current before rest
      | some (.named name, rest) =>
        if names.contains name then none else group m (name :: names) rest
      | some (.group mode, rest) => group mode names rest
      | none => none
    | '[' :: rest =>
      (readClass m (rest.length + 1) rest).bind fun (f, rest) => item names (.char f) rest
    | '*' :: _ | '+' :: _ | '?' :: _ | '\x7b' :: _ => none
    | '\\' :: rest =>
      match readEscape m rest with
      | some (.char c, rest) => item names (m.literal c) rest
      | some (.chars f, rest) => item names (.char f) rest
      | some (.mark k, rest) => item names (.at k) rest
      | none => none
    | c :: rest =>
      match readSign? m c with
      | some (some r) => item names r rest
      | some none => none
      | none => item names (m.literal c) rest

/-- The expression that a pattern spells. -/
def read? (pattern : String) : Option Regex :=
  match readAlternatives (2 * pattern.length + 2) {} [] empty never pattern.toList with
  | some (r, _, []) => some r
  | _ => none

end FocusBilling.Regex
