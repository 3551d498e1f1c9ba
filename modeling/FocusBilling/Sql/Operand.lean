import FocusBilling.Sql.Call
import FocusBilling.Sql.TypeReading

/-!
# Reading operands

The forms of an expression that no operator stands between: literals, names, calls, brackets
and the forms that a keyword opens.

* `Sql.operandIn` : an operand, its nested forms read by a grammar one level down.

A keyword that opens a form may also be the name of a column: where the form cannot be read, the
word is taken as a name, unless it is one of the few in `reservedAsName`.
-/

namespace FocusBilling.Sql

open Parse

variable (g : Grammar)

/-- Keywords that name no column even where their form cannot be read. -/
def reservedAsName : List String := ["EXISTS", "INTERVAL", "STRUCT", "TRIM"]

/-! ### Units of time -/

/-- The fields of a date. -/
def dateFields : List String :=
  ["YEAR", "YEARS", "MONTH", "MONTHS", "WEEK", "WEEKS", "DAY", "DAYOFWEEK", "DAYOFYEAR", "DAYS",
    "DATE", "DATETIME", "HOUR", "HOURS", "MINUTE", "MINUTES", "SECOND", "SECONDS", "CENTURY",
    "DECADE", "DOY", "DOW", "EPOCH", "ISODOW", "ISOYEAR", "ISOWEEK", "JULIAN", "MICROSECOND",
    "MICROSECONDS", "MILLENIUM", "MILLENNIUM", "MILLISECOND", "MILLISECONDS", "NANOSECOND",
    "NANOSECONDS", "QUARTER", "TIME", "TIMEZONE", "TIMEZONE_ABBR", "TIMEZONE_HOUR",
    "TIMEZONE_MINUTE", "TIMEZONE_REGION"]

/-- The fields of a date that may stand behind an interval. -/
def intervalUnits : List String :=
  ["YEAR", "YEARS", "MONTH", "MONTHS", "WEEK", "WEEKS", "DAY", "DAYS", "HOUR", "HOURS", "MINUTE",
    "MINUTES", "SECOND", "SECONDS", "CENTURY", "DECADE", "DOW", "DOY", "EPOCH", "ISODOW",
    "ISOYEAR", "JULIAN", "MICROSECOND", "MICROSECONDS", "MILLENIUM", "MILLENNIUM", "MILLISECOND",
    "MILLISECONDS", "NANOSECOND", "NANOSECONDS", "QUARTER", "TIMEZONE", "TIMEZONE_HOUR",
    "TIMEZONE_MINUTE"]

/-- A field of a date, or any other name in its place. -/
def dateField : Parse DateField := do
  let t ← nextLocated
  match nameOf t with
  | none => fail
  | some n =>
    match t.token.keyword? with
    | some k =>
      if k = "WEEK" then
        if ← sign "(" then
          let day ← identifier
          expectSign ")"
          pure (.weekFrom day)
        else pure (.known k)
      else pure (if dateFields.contains k then .known k else .custom n)
    | none => pure (.custom n)

/-- An interval behind its keyword; `operand` reads its value. -/
def intervalForm (operand : Parse Expr) : Parse Expr := do
  let value ← operand
  let unit ← givenThat (peekOneOf intervalUnits) dateField
  if unit = some (.known "SECOND") then
    let (precision, fraction) ← optionalSizes
    pure (.interval value unit precision none fraction)
  else
    let precision ← optionalSize
    if ← keyword "TO" then
      let last ← dateField
      let fraction ← if last = .known "SECOND" then optionalSize else pure none
      pure (.interval value unit precision (some last) fraction)
    else pure (.interval value unit precision none none)

/-! ### Forms that a keyword opens -/

/-- A type and a text of that type. -/
def typedForm (interval : Parse Expr) : Parse Expr := do
  match ← typeName with
  | .plain l => if l = "Interval" then interval else pure (.typed (.plain l) (← literalText))
  | .custom .. => fail
  | t => pure (.typed t (← literalText))

/-- `CASE` behind its keyword. -/
def caseForm : Parse Expr := do
  let operand ← if ← keyword "WHEN" then pure none
    else do
      let e ← g.expr
      expectKeyword "WHEN"
      pure (some e)
  let branch : Parse (Expr × Expr) := do
    let c ← g.expr
    expectKeyword "THEN"
    pure (c, ← g.expr)
  let first ← branch
  let others ← whileSome (givenThat (keyword "WHEN") branch)
  let otherwise ← givenThat (keyword "ELSE") g.expr
  expectKeyword "END"
  let branches := first :: others
  pure (.cases operand (branches.map (·.1)) (branches.map (·.2)) otherwise)

/-- The format of a cast, if it follows. -/
def optionalFormat : Parse (Option CastFormat) := givenThat (keyword "FORMAT") do
  let format ← value
  pure ⟨format, ← givenThat (keywords ["AT", "TIME", "ZONE"]) value⟩

/-- `CAST` and its lenient spellings behind the keyword. -/
def castForm (kind : CastKind) : Parse Expr := inBrackets do
  let e ← g.expr
  expectKeyword "AS"
  let t ← typeName
  pure (.cast kind e t (← optionalFormat))

/-- `CONVERT` behind its keyword. -/
def convertForm (lenient : Bool) : Parse Expr := inBrackets do
  let e ← g.expr
  if ← keyword "USING" then pure (.convert lenient e none (some (← objectName)))
  else
    expectSign ","
    let t ← typeName
    pure (.convert lenient e (some t) (← givenThat (keywords ["CHARACTER", "SET"]) objectName))

/-- `EXISTS` behind its keyword. -/
def existsForm (negated : Bool) : Parse Expr := inBrackets do
  pure (.exists negated (← g.query))

/-- `EXTRACT` behind its keyword. -/
def extractForm : Parse Expr := inBrackets do
  let field ← dateField
  let comma ← if ← keyword "FROM" then pure false
    else do
      expectSign ","
      pure true
  pure (.extract field comma (← g.expr))

/-- `CEIL` and `FLOOR` behind the keyword. -/
def roundingForm (up : Bool) : Parse Expr := inBrackets do
  let e ← g.expr
  if ← keyword "TO" then pure (.rounding up e (.field (← dateField)))
  else if ← sign "," then
    match ← value with
    | .number n long => pure (.rounding up e (.scale (.number n long)))
    | _ => fail
  else pure (.rounding up e .whole)

/-- `POSITION` behind its keyword. -/
def positionForm (interval : Parse Expr) (name : Name) : Parse Expr := do
  let found ← attempt <| inBrackets do
    let e ← g.subexpr 20
    expectKeyword "IN"
    pure (.position e (← g.expr))
  match found with
  | some e => pure e
  | none => do pure (.call (← callBehind g interval [name] false))

/-- `SUBSTRING` behind its keyword. -/
def substringForm : Parse Expr := inBrackets do
  let e ← g.expr
  let comma ← sign ","
  let start ← givenThat (if comma then pure true else keyword "FROM") g.expr
  let count ← givenThat (do if ← keyword "FOR" then pure true else sign ",") g.expr
  pure (.substring e start count comma)

/-- `OVERLAY` behind its keyword. -/
def overlayForm : Parse Expr := inBrackets do
  let e ← g.expr
  expectKeyword "PLACING"
  let what ← g.expr
  expectKeyword "FROM"
  let start ← g.expr
  pure (.overlay e what start (← givenThat (keyword "FOR") g.expr))

/-- The end that a keyword names. -/
def trimSide : String → TrimSide
  | "BOTH" => .both
  | "LEADING" => .leading
  | _ => .trailing

/-- `TRIM` behind its keyword. -/
def trimForm : Parse Expr := inBrackets do
  let side := (← oneOf ["BOTH", "LEADING", "TRAILING"]).map trimSide
  let e ← g.expr
  if ← keyword "FROM" then pure (.trim (← g.expr) side (some e) [])
  else if ← sign "," then pure (.trim e none none (← commaSeparated g.expr))
  else pure (.trim e side none [])

/-- `NOT` behind its keyword. -/
def notForm : Parse Expr := do
  if ← keyword "EXISTS" then existsForm g true
  else pure (.unary .not (← g.subexpr 15))

/-- `MATCH (…) AGAINST (…)` behind its keyword. -/
def matchForm : Parse Expr := do
  let columns ← columnList
  expectKeyword "AGAINST"
  inBrackets do
    let v ← value
    let modifier ←
      if ← keywords ["IN", "NATURAL", "LANGUAGE", "MODE"] then
        if ← keywords ["WITH", "QUERY", "EXPANSION"] then
          pure (some "InNaturalLanguageModeWithQueryExpansion")
        else pure (some "InNaturalLanguageMode")
      else if ← keywords ["IN", "BOOLEAN", "MODE"] then pure (some "InBooleanMode")
      else if ← keywords ["WITH", "QUERY", "EXPANSION"] then pure (some "WithQueryExpansion")
      else pure none
    pure (.matchAgainst columns v modifier)

/-- `STRUCT`, its keyword still ahead. -/
def structForm : Parse Expr := do
  match ← typeWithin with
  | (.fields _ names types, false) =>
    inBrackets do
      let values ← commaSeparated do
        let e ← g.expr
        if ← keyword "AS" then
          if names.isEmpty then pure (.named e (← identifier)) else fail
        else pure e
      pure (.struct names types values)
  | _ => fail

/-- The entries of a map up to the closing brace. -/
def mapForm : Parse Expr := do
  expectSign "\x7b"
  let entries ← commaSeparatedUntil "\x7d" do
    let k ← g.expr
    expectSign ":"
    pure [k, ← g.expr]
  expectSign "\x7d"
  pure (.map entries.flatten)

/-- What an opening brace opens: a call, or fields up to the closing brace. -/
def braceForm (interval : Parse Expr) : Parse Expr := do
  let called ← attempt do
    expectKeyword "FN"
    callBehind g interval (← objectName) true
  match called with
  | some c => do
    expectSign "\x7d"
    pure (.call c)
  | none => do
    let fields ← commaSeparatedUntil "\x7d" do
      let n ← identifier
      expectSign ":"
      pure (n, ← g.expr)
    expectSign "\x7d"
    pure (.record (fields.map (·.1)) (fields.map (·.2)))

/-- The items of an array up to the closing bracket. -/
def arrayForm (named : Bool) : Parse Expr := do
  let items ← commaSeparatedUntil "]" g.expr
  expectSign "]"
  pure (.array named items)

/-- A function of the clock, with or without brackets. -/
def clockForm (name : Name) : Parse Expr := do
  if ← sign "(" then
    let (shape, args, order, clauses) ← argumentList g
    pure (.call ⟨⟨[name], false, .absent, shape, none, none⟩, [], args, order, clauses, [], [], [],
      []⟩)
  else pure (.call (bareCall name))

/-- `ARRAY` behind its keyword, if brackets follow. -/
def namedArrayForm (name : Name) : Parse (Option Expr) := do
  if ← sign "[" then pure (some (← arrayForm g true))
  else if ← sign "(" then
    let q ← g.query
    expectSign ")"
    pure (some (.call ⟨⟨[name], false, .absent, .query, none, none⟩, [], [.subquery q], [], [], [],
      [], [], []⟩))
  else pure none

/-- The form that a keyword opens; `none` where it opens no form.  `here` are the tokens from the
keyword on. -/
def openedBy (interval : Parse Expr) (here : List Located) (k : String) (name : Name) :
    Parse (Option Expr) := do
  match k with
  | "TRUE" => pure (some (.value (.bool true)))
  | "FALSE" => pure (some (.value (.bool false)))
  | "NULL" => pure (some (.value .null))
  | "CURRENT_CATALOG" | "CURRENT_USER" | "SESSION_USER" | "USER" =>
    pure (some (.call (bareCall name)))
  | "CURRENT_TIMESTAMP" | "CURRENT_TIME" | "CURRENT_DATE" | "LOCALTIME" | "LOCALTIMESTAMP" =>
    pure (some (← clockForm g name))
  | "CASE" => pure (some (← caseForm g))
  | "CONVERT" => pure (some (← convertForm g false))
  | "TRY_CONVERT" => pure (some (← convertForm g true))
  | "CAST" => pure (some (← castForm g .cast))
  | "TRY_CAST" => pure (some (← castForm g .tryCast))
  | "SAFE_CAST" => pure (some (← castForm g .safeCast))
  | "EXISTS" => pure (some (← existsForm g false))
  | "EXTRACT" => pure (some (← extractForm g))
  | "CEIL" => pure (some (← roundingForm g true))
  | "FLOOR" => pure (some (← roundingForm g false))
  | "POSITION" =>
    if ← peekSign "(" then pure (some (← positionForm g interval name)) else pure none
  | "SUBSTRING" => pure (some (← substringForm g))
  | "OVERLAY" => pure (some (← overlayForm g))
  | "TRIM" => pure (some (← trimForm g))
  | "INTERVAL" => pure (some (← interval))
  | "ARRAY" => namedArrayForm g name
  | "NOT" => pure (some (← notForm g))
  | "MATCH" => pure (some (← matchForm))
  | "STRUCT" => do
    goTo here
    pure (some (← structForm g))
  | "PRIOR" =>
    if (← get).inHierarchy then pure (some (.prior (← g.subexpr 30))) else pure none
  | "MAP" => if ← peekSign "\x7b" then pure (some (← mapForm g)) else pure none
  | _ => pure none

/-! ### Names -/

/-- A name behind its first word: a column, a column of a table, or a call. -/
def namedForm (interval : Parse Expr) (name : Name) : Parse Expr := do
  match ← peek with
  | some (.sign "(") => do pure (.call (← callBehind g interval [name] false))
  | some (.sign ".") =>
    let others ← whileSome (givenThat (sign ".") identifier)
    if ← peekSign "(" then
      do pure (.call (← callBehind g interval (name :: others) false))
    else pure (.column (name :: others))
  | some (.text style _) =>
    if (style = .plain || style = .doubled || style = .hexadecimal)
        && name.text.toList.head? = some '_' then
      pure (.introduced name.text (← value))
    else pure (.column [name])
  | _ => pure (.column [name])

/-- An operand whose first token is a word; `here` are the tokens from the word on. -/
def wordForm (interval : Parse Expr) (here : List Located) (t : Located) (name : Name) :
    Parse Expr := do
  let behind ← rest
  match t.token.keyword? with
  | none => namedForm g interval name
  | some k =>
    let found ← tryCatch (openedBy g interval here k name) fun failure => do
      if reservedAsName.contains k then throw failure
      else
        goTo behind
        match ← attempt (namedForm g interval name) with
        | some e => pure (some e)
        | none => throw failure
    match found with
    | some e => pure e
    | none => do
      goTo behind
      namedForm g interval name

/-- What stands between round brackets: a query, one expression, or several. -/
def bracketForm : Parse Expr := do
  let e ← if ← peekQuery then (do pure (.subquery (← g.query)))
    else do
      match ← commaSeparated g.expr with
      | [e] => pure (.nested e)
      | es => pure (.tuple es)
  expectSign ")"
  if ← sign "." then
    let t ← nextLocated
    match t.token with
    | .word s q => pure (.member e ⟨s, q, t.span⟩)
    | _ => fail
  else pure e

/-- An operand behind its first token; `here` are the tokens from that one on. -/
def operandAt (interval : Parse Expr) (here : List Located) (t : Located) : Parse Expr := do
  match t.token with
  | .word s q => wordForm g interval here t ⟨s, q, t.span⟩
  | .number s long => pure (.value (.number s long))
  | .text style s => pure (.value (.text style s))
  | .dollarText tag s => pure (.value (.dollarText tag s))
  | .placeholder s => pure (.value (.placeholder s))
  | .sign "[" => arrayForm g false
  | .sign "-" => do pure (.unary .minus (← g.subexpr 40))
  | .sign "+" => do pure (.unary .plus (← g.subexpr 40))
  | .sign "(" => bracketForm g
  | .sign "\x7b" => braceForm g interval
  | .sign ":" | .sign "@" => do
    goTo here
    pure (.value (← value))
  | .sign _ | .stray _ => fail

/-- An operand, intervals in it nested at most so deep: a typed text, or what its first token
opens; a collation may follow the latter. -/
def operandFrom : Nat → Parse Expr
  | 0 => fail
  | n + 1 => do
    let interval := intervalForm (operandFrom n)
    match ← attempt (typedForm interval) with
    | some e => pure e
    | none => do
      let here ← rest
      let e ← operandAt g interval here (← nextLocated)
      if ← keyword "COLLATE" then pure (.collate e (← objectName)) else pure e

/-- An operand. -/
def operandIn : Parse Expr := do operandFrom g ((← rest).length + 1)

end FocusBilling.Sql
