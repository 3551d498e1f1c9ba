import FocusBilling.Document
import FocusBilling.Number.Decimal
import FocusBilling.Yaml.Node

/-!
# What YAML scalars stand for

* `Yaml.Node.asText?`, `Yaml.Node.asOption`, `Yaml.Node.asOrder?` : a node where a text, an optional
  value or a number is wanted;
* `Yaml.Node.asDocument?` : a node where anything goes.

A plain scalar that spells nothing, a truth value or a number is one, unless a text is wanted.
-/

namespace FocusBilling.Yaml

/-- Whether a text spells a missing value. -/
def spellsNull (s : String) : Bool := ["null", "Null", "NULL", "~"].contains s

/-- The truth value that a text spells. -/
def bool? (s : String) : Option Bool :=
  if ["true", "True", "TRUE"].contains s then some true
  else if ["false", "False", "FALSE"].contains s then some false
  else none

/-- Digits of a base without anything else. -/
def digits? (base : Nat) (cs : List Char) : Option Nat :=
  let isDigitOf (c : Char) : Bool := Text.isHexDigit c && Text.digitValue c < base
  if cs.isEmpty || !cs.all isDigitOf then none else some (Text.digitsValue base cs)

/-- Whether a text is a number with zeros in front, which counts as a text. -/
def hasLeadingZero (cs : List Char) : Bool :=
  let cs := match cs with
    | '-' :: r | '+' :: r => r
    | _ => cs
  match cs with
  | '0' :: r => !r.isEmpty && r.all Text.isDigit
  | _ => false

/-- A whole number without its sign, in any of the bases; the text as a whole is given for the
test of leading zeros. -/
def magnitude? (whole cs : List Char) : Option Nat :=
  match cs with
  | '0' :: 'x' :: r => digits? 16 r
  | '0' :: 'o' :: r => digits? 8 r
  | '0' :: 'b' :: r => digits? 2 r
  | _ => if hasLeadingZero whole then none else digits? 10 cs

/-- The whole number that a text spells. -/
def whole? (s : String) : Option Int :=
  let cs := s.toList
  match cs with
  | '-' :: r => (magnitude? cs r).map fun n => -(n : Int)
  | '+' :: r => (magnitude? cs r).map Int.ofNat
  | _ => (magnitude? cs cs).map Int.ofNat

/-- The floating-point number that a text spells. -/
def float? (s : String) : Option Binary :=
  let cs := s.toList
  let rest := match cs with
    | '+' :: r => r
    | _ => cs
  let signed := rest.head?.any fun c => c = '+' || c = '-'
  if cs.head? == some '+' && signed then none
  else if [".inf", ".Inf", ".INF"].contains (String.ofList rest) then some (.infinite false)
  else if ["-.inf", "-.Inf", "-.INF"].contains s then some (.infinite true)
  else if [".nan", ".NaN", ".NAN"].contains s then some .nan
  else (Decimal.binary? .double rest).filter Binary.isFinite

/-- A whole number as a document; one that is too large cannot be kept. -/
def wholeDocument (n : Int) : Option Document := if Document.fits n then some (.int n) else none

/-- A floating-point number as a document; one that is not finite counts as missing. -/
def floatDocument (x : Binary) : Document := if x.isFinite then .float x else .null

/-- What a plain scalar stands for. -/
def plainDocument (s : String) : Option Document :=
  if s.isEmpty || spellsNull s then some .null
  else
    match bool? s with
    | some b => some (.bool b)
    | none =>
      match whole? s with
      | some n => wholeDocument n
      | none =>
        if hasLeadingZero s.toList then some (.text s)
        else
          match float? s with
          | some x => some (floatDocument x)
          | none => some (.text s)

/-- The common part of the tags of the language. -/
def tagBase : String := "tag:yaml.org,2002:"

/-- What a scalar with a tag stands for. -/
def taggedDocument (tag s : String) (isPlain : Bool) : Option Document :=
  if tag = tagBase ++ "bool" then (bool? s).map .bool
  else if tag = tagBase ++ "int" then (whole? s).bind wholeDocument
  else if tag = tagBase ++ "float" then (float? s).map floatDocument
  else if tag = tagBase ++ "null" then (if spellsNull s then some .null else none)
  else if tag.toList.head? == some '!' && isPlain then plainDocument s
  else some (.text s)

/-- Whether a tag is one of the text's own. -/
def isLocalTag (tag : Option String) : Bool :=
  tag.any fun t => t.toList.head? == some '!' && t.length > 1

namespace Node

/-- A node where a text is wanted: any scalar, as it is written. -/
def asText? : Node → Option String
  | scalar text _ _ => some text
  | _ => none

/-- Whether nothing is written where something may be left out; a scalar that is said to be missing
and is not is refused. -/
def isMissing? : Node → Option Bool
  | scalar text isPlain tag =>
    if !isPlain then some false
    else
      match tag with
      | some t =>
        if t = tagBase ++ "null" then (if spellsNull text then some true else none) else some false
      | none => some (text.isEmpty || spellsNull text)
  | _ => some false

/-- A value that may be left out. -/
def asOption {α : Type} (read : Node → Option α) (n : Node) : Option (Option α) := do
  if ← n.isMissing? then pure none else some <$> read n

/-- A node where a number of an order is wanted. -/
def asOrder? : Node → Option Nat
  | scalar text true _ =>
    match whole? text with
    | some n => if 0 ≤ n && n < 2 ^ 32 then some n.toNat else none
    | none => none
  | _ => none

mutual

/-- A node where anything goes, nesting at most so deep. -/
def asDocumentWithin (depth : Nat) : Node → Option Document
  | scalar text isPlain tag =>
    if isLocalTag tag then none
    else
      match tag with
      | some t => taggedDocument t text isPlain
      | none => if isPlain then plainDocument text else some (.text text)
  | sequence items tag =>
    if isLocalTag tag then none
    else
      match depth with
      | 0 => none
      | d + 1 => (itemsWithin d items).map .list
  | mapping entries tag =>
    if isLocalTag tag then none
    else
      match depth with
      | 0 => none
      | d + 1 => (entriesWithin d entries).map Document.ofEntries

/-- Nodes one after another. -/
def itemsWithin (depth : Nat) : List Node → Option (List Document)
  | [] => some []
  | n :: ns => do
    let d ← asDocumentWithin depth n
    pure (d :: (← itemsWithin depth ns))

/-- Entries one after another. -/
def entriesWithin (depth : Nat) : List (Node × Node) → Option (List (String × Document))
  | [] => some []
  | (k, v) :: rest => do
    let key ← k.asText?
    let d ← asDocumentWithin depth v
    pure ((key, d) :: (← entriesWithin depth rest))

end

/-- How deep a document may nest below its outermost mapping. -/
def depthLimit : Nat := 127

/-- A node where anything goes. -/
def asDocument? (n : Node) : Option Document := asDocumentWithin depthLimit n

end Node

end FocusBilling.Yaml
