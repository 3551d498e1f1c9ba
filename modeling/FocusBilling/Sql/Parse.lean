import FocusBilling.Number.Instances
import FocusBilling.Sql.Expression

/-!
# Reading tokens

The steps from which the SQL grammar is put together.

* `Sql.Reader` : the tokens that are left, and what has been heard while reading;
* `Sql.Parse` : a step of a reader, which may fail;
* `Sql.Parse.attempt` : a step that gives the tokens back when it fails;
* `Sql.Grammar` : the readers of the nested forms, one level of nesting down.

A text that nests too deeply fails for good: such a failure is not taken back.  What has been heard
is kept even where a step is taken back.
-/

namespace FocusBilling.Sql

/-- Why tokens cannot be read. -/
inductive ParseFailure where
  /-- The text nests too deeply. -/
  | tooDeep
  /-- Something else was expected. -/
  | unexpected
  deriving DecidableEq

/-- What is heard while expressions are read. -/
inductive Event where
  /-- An expression starts. -/
  | opened
  /-- The first part of an expression. -/
  | operand (value : Expr)
  /-- The token at which an operator is looked for; none at the end. -/
  | ahead (token : Option Located)
  /-- How tight the operator there binds. -/
  | strength (n : Nat)

/-- A reader. -/
structure Reader where
  /-- The tokens that are left. -/
  tokens : List Located
  /-- Whether a comma may stand behind the last entry of a list. -/
  trailingCommas : Bool
  /-- Whether rows of a hierarchy are spoken of. -/
  inHierarchy : Bool
  /-- What has been heard, the last first. -/
  heard : List Event

/-- A step of a reader, which may fail. -/
abbrev Parse (α : Type) := ExceptT ParseFailure (StateM Reader) α

namespace Parse

variable {α β : Type}

/-- Refuse what follows. -/
def fail : Parse α := throw .unexpected

/-- The tokens that follow, which stay. -/
def rest : Parse (List Located) := do pure (← get).tokens

/-- Go on at some tokens. -/
def goTo (ts : List Located) : Parse Unit := modify fun r => { r with tokens := ts }

/-- Something is heard. -/
def tell (e : Event) : Parse Unit := modify fun r => { r with heard := e :: r.heard }

/-- The next token with its place, which stays. -/
def peekLocated : Parse (Option Located) := do pure (← rest).head?

/-- The next token, which stays. -/
def peek : Parse (Option Token) := do pure ((← rest).head?.map (·.token))

/-- The token so many places ahead, which stays. -/
def peekAt (n : Nat) : Parse (Option Token) := do pure ((← rest)[n]?.map (·.token))

/-- The next token with its place. -/
def nextLocated : Parse Located := do
  match ← rest with
  | t :: ts => do
    goTo ts
    pure t
  | [] => fail

/-- The next token. -/
def next : Parse Token := do pure (← nextLocated).token

/-- A step that gives the tokens back when it fails, unless the text nests too deeply. -/
def attempt (p : Parse α) : Parse (Option α) := do
  let ts ← rest
  tryCatch (do pure (some (← p))) fun
    | .unexpected => do
      goTo ts
      pure none
    | .tooDeep => throw .tooDeep

/-- Whether the next token passes a test; it is then taken. -/
def taken (test : Token → Bool) : Parse Bool := do
  match ← rest with
  | t :: ts =>
    if test t.token then do
      goTo ts
      pure true
    else pure false
  | [] => pure false

/-- Whether the next token is a keyword, which is then taken. -/
def keyword (k : String) : Parse Bool := taken (Token.isKeyword k)

/-- What follows keywords, if all of them are next. -/
def dropKeywords : List String → List Located → Option (List Located)
  | [], ts => some ts
  | _ :: _, [] => none
  | k :: ks, t :: ts => if t.token.isKeyword k then dropKeywords ks ts else none

/-- Whether the next tokens are keywords, which are then taken together. -/
def keywords (ks : List String) : Parse Bool := do
  match dropKeywords ks (← rest) with
  | some ts => do
    goTo ts
    pure true
  | none => pure false

/-- The first of some keywords that is next, which is then taken. -/
def oneOf (ks : List String) : Parse (Option String) := do
  match ← rest with
  | t :: ts =>
    match ks.find? fun k => t.token.isKeyword k with
    | some k => do
      goTo ts
      pure (some k)
    | none => pure none
  | [] => pure none

/-- Refuse what follows unless something holds. -/
def need (p : Parse Bool) : Parse Unit := do
  if ← p then pure () else fail

/-- A keyword that must be next. -/
def expectKeyword (k : String) : Parse Unit := need (keyword k)

/-- Keywords that must be next, each on its own. -/
def expectKeywords (ks : List String) : Parse Unit := ks.forM expectKeyword

/-- One of some keywords, which must be next. -/
def expectOneOf (ks : List String) : Parse String := do
  match ← oneOf ks with
  | some k => pure k
  | none => fail

/-- Whether the next token is a sign, which is then taken. -/
def sign (s : String) : Parse Bool := taken (Token.isSign s)

/-- A sign that must be next. -/
def expectSign (s : String) : Parse Unit := need (sign s)

/-- Whether a sign is next, which stays. -/
def peekSign (s : String) : Parse Bool := do pure ((← peek).any (Token.isSign s))

/-- Whether a keyword is next, which stays. -/
def peekKeyword (k : String) : Parse Bool := do pure ((← peek).any (Token.isKeyword k))

/-- Whether one of some keywords is next, which stays. -/
def peekOneOf (ks : List String) : Parse Bool := do
  let t ← peek
  pure (ks.any fun k => t.any (Token.isKeyword k))

/-- Whether a query is next. -/
def peekQuery : Parse Bool := peekOneOf ["SELECT", "WITH"]

/-- Repeat a step as long as it gives something, at most once for each token left. -/
def whileSome (step : Parse (Option α)) : Parse (List α) := do
  go ((← rest).length + 1) []
where
  /-- So many repetitions at most, with what has been found, the last first. -/
  go : Nat → List α → Parse (List α)
    | 0, acc => pure acc.reverse
    | n + 1, acc => do
      match ← step with
      | some a => go n (a :: acc)
      | none => pure acc.reverse

/-- Change a value by a step as long as the step gives something, at most once for each token
left. -/
def iterate (step : α → Parse (Option α)) (start : α) : Parse α := do
  go ((← rest).length + 1) start
where
  /-- So many changes at most. -/
  go : Nat → α → Parse α
    | 0, a => pure a
    | n + 1, a => do
      match ← step a with
      | some b => go n b
      | none => pure a

/-- A step if a condition holds. -/
def givenThat (c : Parse Bool) (p : Parse α) : Parse (Option α) := do
  if ← c then pure (some (← p)) else pure none

/-- A list if a condition holds, else none of its items. -/
def listedAfter (c : Parse Bool) (p : Parse (List α)) : Parse (List α) := do
  if ← c then p else pure []

/-! ### Lists -/

/-- Keywords that are no name of a column without `AS`. -/
def reservedForColumn : List String :=
  ["WITH", "EXPLAIN", "ANALYZE", "SELECT", "WHERE", "GROUP", "SORT", "HAVING", "ORDER", "TOP",
    "LATERAL", "VIEW", "LIMIT", "OFFSET", "FETCH", "UNION", "EXCEPT", "INTERSECT", "CLUSTER",
    "DISTRIBUTE", "RETURNING", "FROM", "INTO", "END"]

/-- Keywords that are no name of a table without `AS`. -/
def reservedForTable : List String :=
  ["WITH", "EXPLAIN", "ANALYZE", "SELECT", "WHERE", "GROUP", "SORT", "HAVING", "ORDER", "PIVOT",
    "UNPIVOT", "TOP", "LATERAL", "VIEW", "LIMIT", "OFFSET", "FETCH", "UNION", "EXCEPT",
    "INTERSECT", "ON", "JOIN", "INNER", "CROSS", "FULL", "LEFT", "RIGHT", "NATURAL", "USING",
    "CLUSTER", "DISTRIBUTE", "GLOBAL", "ANTI", "SEMI", "RETURNING", "ASOF", "OUTER", "SET",
    "QUALIFY", "WINDOW", "END", "FOR", "PARTITION", "PREWHERE", "SETTINGS", "FORMAT", "START",
    "CONNECT", "MATCH_RECOGNIZE"]

/-- Whether a list ends behind a comma. -/
def endsList : List Located → Bool
  | [] => true
  | t :: _ =>
    match t.token with
    | .sign s => [")", ";", "]", "\x7d"].contains s
    | t => reservedForColumn.any fun k => t.isKeyword k

/-- Whether one more entry of a list follows; its comma is then taken. -/
def moreEntries : Parse Bool := do
  if ← sign "," then
    let r ← get
    pure !(r.trailingCommas && endsList r.tokens)
  else pure false

/-- Items with commas between them, at least one. -/
def commaSeparated (p : Parse α) : Parse (List α) := do
  let first ← p
  let others ← whileSome (givenThat moreEntries p)
  pure (first :: others)

/-- Items with commas between them up to a closing sign, which stays; perhaps none. -/
def commaSeparatedUntil (close : String) (p : Parse α) : Parse (List α) := do
  if ← peekSign close then pure []
  else
    let r ← get
    match r.tokens with
    | a :: b :: _ =>
      if r.trailingCommas && a.token.isSign "," && b.token.isSign close then
        let _ ← next
        pure []
      else commaSeparated p
    | _ => commaSeparated p

/-- What stands between round brackets. -/
def inBrackets (p : Parse α) : Parse α := do
  expectSign "("
  let a ← p
  expectSign ")"
  pure a

/-- What stands between round brackets, if an opening one is next. -/
def optionalBrackets (p : Parse α) : Parse (Option α) := do
  if ← peekSign "(" then pure (some (← inBrackets p)) else pure none

/-! ### Names and values -/

/-- The name of a word. -/
def nameOf (t : Located) : Option Name :=
  match t.token with
  | .word s q => some ⟨s, q, t.span⟩
  | .text .plain s => some ⟨s, some '\'', .nowhere⟩
  | _ => none

/-- A name: a word or a text between single quotes. -/
def identifier : Parse Name := do
  match nameOf (← nextLocated) with
  | some n => pure n
  | none => fail

/-- Items with points between them. -/
def pointSeparated (p : Parse α) : Parse (List α) := do
  let first ← p
  let others ← whileSome (givenThat (sign ".") p)
  pure (first :: others)

/-- Names with points between them. -/
def objectName : Parse (List Name) := pointSeparated identifier

/-- Names in brackets. -/
def columnList : Parse (List Name) := inBrackets (commaSeparated identifier)

/-- Names in brackets, if an opening one is next. -/
def optionalColumnList : Parse (List Name) := do pure ((← optionalBrackets
  (commaSeparated identifier)).getD [])

/-- A text, or a word without a meaning of its own. -/
def literalText : Parse String := do
  let t ← next
  match t with
  | .text .plain s | .text .doubled s | .text .escaped s | .text .unicode s => pure s
  | .word s _ => if t.isPlainWord then pure s else fail
  | _ => fail

/-- A whole number without a sign. -/
def wholeNumber : Parse Nat := do
  match ← next with
  | .number s _ =>
    let n := Text.digitsValue 10 s.toList
    if s.toList.all Text.isDigit && !s.isEmpty && n < 2 ^ 64 then pure n else fail
  | _ => fail

/-- A value that is written out. -/
def value : Parse Value := do
  let t ← next
  match t with
  | .number s long => pure (.number s long)
  | .text style s => pure (.text style s)
  | .dollarText tag s => pure (.dollarText tag s)
  | .placeholder s => pure (.placeholder s)
  | .word s (some q) => if q = '"' then pure (.text .doubled s) else fail
  | .word _ none =>
    match t.keyword? with
    | some "TRUE" => pure (.bool true)
    | some "FALSE" => pure (.bool false)
    | some "NULL" => pure .null
    | _ => fail
  | .sign s =>
    if s = ":" || s = "@" then
      match ← next with
      | .word w _ => pure (.placeholder (s ++ w))
      | .number n false => pure (.placeholder (s ++ n))
      | _ => fail
    else fail
  | .stray _ => fail

/-- A name behind an optional `AS`.  Without it, a word that may start a later clause is no
name. -/
def optionalAlias (reserved : List String) : Parse (Option Name) := do
  let afterAs ← keyword "AS"
  match ← rest with
  | t :: ts =>
    let isName := match t.token with
      | .word _ none => afterAs || !(reserved.any fun k => t.token.isKeyword k)
      | .word _ (some _) | .text .plain _ => true
      | _ => false
    match nameOf t with
    | some n =>
      if isName then do
        goTo ts
        pure (some n)
      else pure none
    | none => if afterAs then fail else pure none
  | [] => if afterAs then fail else pure none

end Parse

/-- The readers of the nested forms. -/
structure Grammar where
  /-- An expression whose operators bind tighter than a bound. -/
  subexpr : Nat → Parse Expr
  /-- A query. -/
  query : Parse Query
  /-- A statement. -/
  statement : Parse Statement

namespace Grammar

/-- Nothing may nest any deeper. -/
def limit : Grammar := ⟨fun _ => throw .tooDeep, throw .tooDeep, throw .tooDeep⟩

/-- A whole expression. -/
def expr (g : Grammar) : Parse Expr := g.subexpr 0

end Grammar

end FocusBilling.Sql
