import FocusBilling.Sql.Operand

/-!
# Reading operators

* `Sql.precedence` : how tight the operator binds that the next tokens spell; zero for none;
* `Sql.operator` : an expression with one more operator behind it;
* `Sql.expressionIn` : an expression whose operators bind tighter than a bound.
-/

namespace FocusBilling.Sql

open Parse

variable (g : Grammar)

/-- How tight an operator spelled by a sign binds. -/
def signPrecedence (s : String) : Nat :=
  if ["=", "==", "<", "<=", "<>", ">", ">=", "~", "~*", "!~", "!~*", "~~", "~~*", "!~~", "!~~*",
      "<=>"].contains s then 20
  else if s = "|" then 21
  else if ["^", "#", ">>", "<<"].contains s then 22
  else if s = "&" then 23
  else if s = "+" || s = "-" then 30
  else if ["*", "/", "//", "%", "||"].contains s then 40
  else if ["::", "!", "[", "&&", "^@"].contains s then 50
  else if ["->", "->>", "#>", "#>>", "@>", "<@", "#-", "@?", "@@"].contains s then 16
  else 0

/-- How tight an operator spelled by a keyword binds; `NOT` as the operator behind it. -/
def wordPrecedence (ts : List Located) : Nat :=
  match ts with
  | [] => 0
  | t :: rest =>
    match t.token.keyword? with
    | none => 0
    | some k =>
      if k = "OR" then 5
      else if k = "AND" then 10
      else if k = "XOR" then 24
      else if k = "AT" then
        (match dropKeywords ["TIME", "ZONE"] rest with
          | some _ => 41
          | none => 0)
      else if k = "NOT" then
        (match rest.head?.bind fun t => t.token.keyword? with
          | some "IN" | some "BETWEEN" => 20
          | some "LIKE" | some "ILIKE" | some "RLIKE" | some "REGEXP" | some "SIMILAR" => 19
          | _ => 0)
      else if k = "IS" then 17
      else if ["IN", "BETWEEN", "OPERATOR"].contains k then 20
      else if ["LIKE", "ILIKE", "RLIKE", "REGEXP", "SIMILAR"].contains k then 19
      else if k = "DIV" then 40
      else 0

/-- How tight the operator binds that the next tokens spell. -/
def precedence : List Located → Nat
  | ⟨.sign s, _⟩ :: _ => signPrecedence s
  | ts => wordPrecedence ts

/-- The operator between two values that a sign spells. -/
def signOp? (s : String) : Option BinaryOp :=
  match s with
  | "+" => some .plus
  | "-" => some .minus
  | "*" => some .times
  | "/" => some .divide
  | "%" => some .modulo
  | "//" => some .wholeDivide
  | "||" => some .concat
  | "=" | "==" => some .eq
  | "<>" => some .ne
  | "<" => some .lt
  | "<=" => some .le
  | ">" => some .gt
  | ">=" => some .ge
  | "<=>" => some .same
  | "&" => some .bitAnd
  | "|" => some .bitOr
  | "^" => some .bitXor
  | "<<" => some .shiftLeft
  | ">>" => some .shiftRight
  | "&&" => some .overlap
  | "^@" => some .startsWith
  | "~" => some (.finds false false)
  | "~*" => some (.finds true false)
  | "!~" => some (.finds false true)
  | "!~*" => some (.finds true true)
  | "~~" => some (.like false false)
  | "~~*" => some (.like true false)
  | "!~~" => some (.like false true)
  | "!~~*" => some (.like true true)
  | "->" => some .arrow
  | "->>" => some .longArrow
  | "#>" => some .hashArrow
  | "#>>" => some .hashLongArrow
  | "@>" => some .contains
  | "<@" => some .containedBy
  | "#-" => some .hashMinus
  | "@?" => some .hasPath
  | "@@" => some .pathMatches
  | _ => none

/-- A token as an operator of its own name spells it. -/
def Token.spelling : Token → String
  | .word s none | .number s _ | .placeholder s | .sign s => s
  | .word s (some q) => String.singleton q ++ s ++ String.singleton q
  | .text _ s => "'" ++ s ++ "'"
  | .dollarText _ s => "$$" ++ s ++ "$$"
  | .stray c => String.singleton c

/-- The operator between two values that a token spells, which has been taken. -/
def binaryOp? (t : Token) : Parse (Option BinaryOp) := do
  match t with
  | .sign s => pure (signOp? s)
  | t =>
    match t.keyword? with
    | some "AND" => pure (some .and)
    | some "OR" => pure (some .or)
    | some "XOR" => pure (some .xor)
    | some "OPERATOR" => inBrackets do
      pure (some (.custom (← pointSeparated do pure (← next).spelling)))
    | _ => pure none

/-- Operators that `ANY` and `ALL` may follow. -/
def isComparison : BinaryOp → Bool
  | .eq | .ne | .lt | .le | .gt | .ge | .finds _ _ | .like _ _ => true
  | _ => false

/-- An operator between two values, perhaps over all items of the second. -/
def binaryForm (left : Expr) (op : BinaryOp) (bound : Nat) : Parse Expr := do
  match ← oneOf ["ANY", "ALL", "SOME"] with
  | some k => do
    let here ← rest
    expectSign "("
    let right ← if ← peekQuery then do
        goTo here
        g.subexpr bound
      else do
        let e ← g.subexpr bound
        expectSign ")"
        pure e
    if isComparison op then pure (.quantified (k == "ALL") (k == "SOME") op left right) else fail
  | none => do pure (.binary op left (← g.subexpr bound))

/-- What stands behind `IS`. -/
def isForm (left : Expr) : Parse Expr := do
  if ← keyword "NULL" then pure (.isTest .null false left)
  else if ← keywords ["NOT", "NULL"] then pure (.isTest .null true left)
  else if ← keyword "TRUE" then pure (.isTest .true false left)
  else if ← keywords ["NOT", "TRUE"] then pure (.isTest .true true left)
  else if ← keyword "FALSE" then pure (.isTest .false false left)
  else if ← keywords ["NOT", "FALSE"] then pure (.isTest .false true left)
  else if ← keyword "UNKNOWN" then pure (.isTest .unknown false left)
  else if ← keywords ["NOT", "UNKNOWN"] then pure (.isTest .unknown true left)
  else if ← keywords ["DISTINCT", "FROM"] then pure (.isDistinct false left (← g.expr))
  else if ← keywords ["NOT", "DISTINCT", "FROM"] then pure (.isDistinct true left (← g.expr))
  else fail

/-- What stands behind `IN`. -/
def inForm (left : Expr) (negated : Bool) : Parse Expr := do
  if ← keyword "UNNEST" then pure (.inArray negated left (← inBrackets g.expr))
  else inBrackets do
    if ← peekQuery then pure (.inQuery negated left (← g.query))
    else pure (.inList negated left (← commaSeparated g.expr))

/-- What stands behind `LIKE` and its relatives. -/
def likeForm (kind : LikeKind) (left : Expr) (negated : Bool) : Parse Expr := do
  let any ← if kind = .similar then pure false else keyword "ANY"
  let pattern ← g.subexpr 19
  pure (.like kind negated any left pattern (← givenThat (keyword "ESCAPE") literalText))

/-- An operator spelled by a keyword, perhaps behind `NOT`. -/
def wordOperator (left : Expr) : Parse Expr := do
  let negated ← keyword "NOT"
  let isRegexp ← keyword "REGEXP"
  let isRlike ← keyword "RLIKE"
  if isRegexp || isRlike then pure (.regexp isRegexp negated left (← g.subexpr 19))
  else if ← keyword "IN" then inForm g left negated
  else if ← keyword "BETWEEN" then
    let low ← g.subexpr 20
    expectKeyword "AND"
    pure (.between negated left low (← g.subexpr 20))
  else if ← keyword "LIKE" then likeForm g .like left negated
  else if ← keyword "ILIKE" then likeForm g .ilike left negated
  else if ← keywords ["SIMILAR", "TO"] then likeForm g .similar left negated
  else fail

/-- What stands behind an opening bracket: an index, or the bounds of a slice. -/
def subscriptForm (left : Expr) : Parse Expr := do
  let low ← if ← sign ":" then pure none else pure (some (← g.expr))
  if ← sign "]" then
    match low with
    | some e => pure (.index left e)
    | none => pure (.slice left none none none)
  else
    if low.isSome then expectSign ":"
    if ← sign "]" then pure (.slice left low none none)
    else
      let high ← g.expr
      if ← sign "]" then pure (.slice left low (some high) none)
      else
        expectSign ":"
        if ← sign "]" then pure (.slice left low (some high) none)
        else
          let stride ← g.expr
          expectSign "]"
          pure (.slice left low (some high) (some stride))

/-- An expression with one more operator behind it. -/
def operator (left : Expr) (bound : Nat) : Parse Expr := do
  let here ← rest
  let t ← next
  match ← binaryOp? t with
  | some op => binaryForm g left op bound
  | none =>
    match t with
    | .sign "::" => pure (.cast .colons left (← typeName) none)
    | .sign "[" => subscriptForm g left
    | .sign _ => fail
    | _ =>
      match t.keyword? with
      | some "IS" => isForm g left
      | some "AT" => do
        expectKeywords ["TIME", "ZONE"]
        pure (.atZone left (← g.subexpr bound))
      | some "NOT" | some "IN" | some "BETWEEN" | some "LIKE" | some "ILIKE" | some "SIMILAR"
      | some "REGEXP" | some "RLIKE" => do
        goTo here
        wordOperator g left
      | _ => fail

/-- An expression whose operators bind tighter than a bound. -/
def expressionIn (bound : Nat) : Parse Expr := do
  tell .opened
  let first ← operandIn g
  tell (.operand first)
  iterate (fun left => do
    let p := precedence (← rest)
    tell (.ahead (← peekLocated))
    tell (.strength p)
    if bound ≥ p then pure none else pure (some (← operator g left p))) first

end FocusBilling.Sql
