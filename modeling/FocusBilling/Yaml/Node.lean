import FocusBilling.Yaml.Token

/-!
# YAML documents

* `Yaml.Node` : scalars, sequences and mappings, with the tags of scalars and collections;
* `Yaml.document?` : the single document of a text; a text without content has none.

A reference stands for the node of its anchor, which must have ended before it.
-/

namespace FocusBilling.Yaml

/-- A node of a document. -/
inductive Node where
  /-- A scalar with its tag; a plain one may stand for something else than a text. -/
  | scalar (text : String) (isPlain : Bool) (tag : Option String)
  | sequence (items : List Node) (tag : Option String)
  | mapping (entries : List (Node × Node)) (tag : Option String)
  deriving Inhabited

/-- What is known while nodes are read. -/
structure Reading where
  /-- The tokens that are left. -/
  tokens : List Token
  /-- The nodes of anchors. -/
  anchors : List (String × Node)
  /-- The handles of tags. -/
  handles : List (String × String)

/-- A reader of nodes. -/
abbrev Read (α : Type) := StateT Reading Option α

namespace Read

/-- The next token, which stays. -/
def peek : Read (Option Token) := fun r => some (r.tokens.head?, r)

/-- The next token is taken. -/
def take : Read Unit := fun r => some ((), { r with tokens := r.tokens.tail })

/-- Whether the next token is a given one, which is then taken. -/
def takes (t : Token) : Read Bool := fun r =>
  if r.tokens.head? == some t then some (true, { r with tokens := r.tokens.tail })
  else some (false, r)

/-- A token that must be next. -/
def expect (t : Token) : Read Unit := do
  if ← takes t then pure () else failure

/-- Whether one of some tokens is next, or none at all. -/
def atAny (ts : List Token) : Read Bool := fun r =>
  some ((r.tokens.head?).all ts.contains, r)

end Read

open Read

/-- A scalar that is not written at all. -/
def emptyScalar : Node := .scalar "" true none

/-- A tag with its handle looked up. -/
def resolveTag (t : WrittenTag) : Read String := fun r =>
  if t.handle = "" then some (t.rest, r)
  else (r.handles.lookup t.handle).map fun base => (base ++ t.rest, r)

/-- The anchor and the tag in front of a node, in either order. -/
def properties : Read (Option String × Option String) := do
  match ← peek with
  | some (.anchor name) =>
    take
    match ← peek with
    | some (.tag t) =>
      take
      pure (some name, some (← resolveTag t))
    | _ => pure (some name, none)
  | some (.tag t) =>
    take
    let tag ← resolveTag t
    match ← peek with
    | some (.anchor name) =>
      take
      pure (some name, some tag)
    | _ => pure (none, some tag)
  | _ => pure (none, none)

/-- The node of a reference. -/
def aliased (name : String) : Read Node := fun r => (r.anchors.lookup name).map fun n => (n, r)

/-- A node kept under its anchor. -/
def anchored (name : Option String) (n : Node) : Read Node := fun r =>
  match name with
  | some a => some (n, { r with anchors := (a, n) :: r.anchors })
  | none => some (n, r)

/-! ### Collections -/

/-- Items as long as a step gives one, at most so many. -/
def many (step : Read (Option Node)) : Nat → Read (List Node)
  | 0 => failure
  | n + 1 => do
    match ← step with
    | some x => do pure (x :: (← many step n))
    | none => pure []

/-- Entries as long as a step gives one, at most so many. -/
def manyEntries (step : Read (Option (Node × Node))) : Nat → Read (List (Node × Node))
  | 0 => failure
  | n + 1 => do
    match ← step with
    | some x => do pure (x :: (← manyEntries step n))
    | none => pure []

/-- A node, or an empty scalar where one of some tokens is next. -/
def unlessAt (ts : List Token) (node : Read Node) : Read Node := do
  if ← atAny ts then pure emptyScalar else node

/-- An item of a sequence in a block. -/
def blockItem (node : Read Node) : Read (Option Node) := do
  if ← takes .entry then some <$> unlessAt [.entry, .blockEnd] node
  else do
    expect .blockEnd
    pure none

/-- An item of a sequence that is not indented below its key. -/
def flatItem (node : Read Node) : Read (Option Node) := do
  if ← takes .entry then some <$> unlessAt [.entry, .key, .value, .blockEnd] node
  else pure none

/-- An entry of a mapping in a block. -/
def blockEntry (node : Read Node) : Read (Option (Node × Node)) := do
  let ends := [Token.key, .value, .blockEnd]
  if ← takes .blockEnd then pure none
  else do
    let key ← if ← takes .key then unlessAt ends node
      else if (← peek) == some .value then pure emptyScalar
      else failure
    let value ← if ← takes .value then unlessAt ends node else pure emptyScalar
    pure (some (key, value))

/-- The value of an entry in a flow collection that ends with a token. -/
def flowValue (close : Token) (node : Read Node) : Read Node := do
  if ← takes .value then unlessAt [.comma, close] node else pure emptyScalar

/-- An item of a flow sequence; the first has no comma before it. -/
def flowItem (node : Read Node) : Read (Option Node) := do
  if ← takes .sequenceEnd then pure none
  else if ← takes .key then do
    let key ← unlessAt [.value, .comma, .sequenceEnd] node
    let value ← flowValue .sequenceEnd node
    pure (some (.mapping [(key, value)] none))
  else some <$> node

/-- An entry of a flow mapping; the first has no comma before it. -/
def flowEntry (node : Read Node) : Read (Option (Node × Node)) := do
  if ← takes .mappingEnd then pure none
  else if ← takes .key then do
    let key ← unlessAt [.value, .comma, .mappingEnd] node
    let value ← flowValue .mappingEnd node
    pure (some (key, value))
  else if (← peek) == some .value then do
    pure (some (emptyScalar, ← flowValue .mappingEnd node))
  else do
    pure (some (← node, emptyScalar))

/-- A comma in front of an item, unless the collection ends. -/
def afterComma {α : Type} (close : Token) (item : Read (Option α)) : Read (Option α) := do
  if (← peek) == some close then item
  else do
    expect .comma
    item

/-- How many tokens are left. -/
def left : Read Nat := fun r => some (r.tokens.length + 1, r)

/-- The items of a flow collection, with commas between them. -/
def flowMany (node : Read Node) : Read (List Node) := do
  match ← flowItem node with
  | none => pure []
  | some x => do pure (x :: (← many (afterComma .sequenceEnd (flowItem node)) (← left)))

/-- The entries of a flow mapping, with commas between them. -/
def flowManyEntries (node : Read Node) : Read (List (Node × Node)) := do
  match ← flowEntry node with
  | none => pure []
  | some x => do pure (x :: (← manyEntries (afterComma .mappingEnd (flowEntry node)) (← left)))

/-! ### Nodes -/

/-- The content of a node behind its properties; the nodes inside are read by `inner`, which is
told whether blocks may start, and whether a sequence need not be indented. -/
def content (inner : Bool → Bool → Read Node) (inBlock flat : Bool) (hasProperties : Bool)
    (tag : Option String) : Read Node := do
  match ← peek with
  | some .entry =>
    if flat then do
      pure (.sequence (← many (flatItem (inner true false)) (← left)) tag)
    else if hasProperties then pure (.scalar "" true tag)
    else failure
  | some (.scalar text isPlain) =>
    take
    pure (.scalar text isPlain tag)
  | some .sequenceStart =>
    take
    pure (.sequence (← flowMany (inner false false)) tag)
  | some .mappingStart =>
    take
    pure (.mapping (← flowManyEntries (inner false false)) tag)
  | some .blockSequence =>
    if inBlock then do
      take
      pure (.sequence (← many (blockItem (inner true false)) (← left)) tag)
    else if hasProperties then pure (.scalar "" true tag)
    else failure
  | some .blockMapping =>
    if inBlock then do
      take
      pure (.mapping (← manyEntries (blockEntry (inner true true)) (← left)) tag)
    else if hasProperties then pure (.scalar "" true tag)
    else failure
  | _ => if hasProperties then pure (.scalar "" true tag) else failure

/-- A node that nests at most so deep. -/
def node : Nat → Bool → Bool → Read Node
  | 0, _, _ => failure
  | n + 1, inBlock, flat => do
    match ← peek with
    | some (.reference name) =>
      take
      aliased name
    | _ =>
      let (name, tag) ← properties
      let found ← content (node n) inBlock flat (name.isSome || tag.isSome) tag
      anchored name found

/-! ### Documents -/

/-- The handles that need no directive. -/
def defaultHandles : List (String × String) := [("!", "!"), ("!!", "tag:yaml.org,2002:")]

/-- Directives in front of a document; none may stand twice. -/
def directives : List (String × String) → Bool → List Token →
    Option (List (String × String) × Bool × List Token)
  | handles, versioned, .directive name handle target :: ts =>
    if name = "YAML" then
      if versioned || !(["1.1", "1.2"].contains target) then none
      else directives handles true ts
    else if (handles.lookup handle).isSome then none
    else directives ((handle, target) :: handles) versioned ts
  | handles, versioned, ts => some (handles, versioned, ts)

/-- A document from its first token on. -/
def documentNode (handles : List (String × String)) (ts : List Token) :
    Option (Option Node × List Token) :=
  let bare := match ts.head? with
    | none | some .documentStart | some .documentEnd | some (.directive ..) => true
    | _ => false
  if bare then some (none, ts)
  else
    ((node (ts.length + 1) true false).run ⟨ts, [], handles⟩).map fun (n, r) =>
      (some n, r.tokens)

/-- The single document of a text: nothing where the text has no content. -/
def document? (s : String) : Option (Option Node) := do
  let ts ← tokens? s
  let (given, versioned, rest) ← directives [] false (ts.dropWhile (· == .documentEnd))
  let hasStart := rest.head? == some .documentStart
  if (versioned || !given.isEmpty) && !hasStart then none
  else
    let rest := if hasStart then rest.tail else rest
    let (found, rest) ← documentNode (given ++ defaultHandles) rest
    match rest.dropWhile (· == .documentEnd) with
    | [] => pure found
    | _ => none

end FocusBilling.Yaml
