import FocusBilling.Sql.Expression
import FocusBilling.Text.Hidden

/-!
# Spelling out SQL

* `Sql.Token.spelled` : a token as an account of reading spells it;
* `Sql.TypeName.spelled`, `Sql.Expr.spelled` : a type and an expression in full.

A query inside an expression is spelled by its kind alone.
-/

namespace FocusBilling.Sql

/-! ### Records -/

/-- A record with its fields. -/
def labelled (name : String) (fields : List (String × String)) : String :=
  name ++ " \x7b " ++ String.intercalate ", " (fields.map fun (k, v) => k ++ ": " ++ v) ++ " \x7d"

/-- Something with what it holds in round brackets. -/
def wrapped (name : String) (parts : List String) : String :=
  name ++ "(" ++ String.intercalate ", " parts ++ ")"

/-- A value that may be missing. -/
def optional : Option String → String
  | some s => wrapped "Some" [s]
  | none => "None"

/-- Values in brackets. -/
def bracketed (xs : List String) : String := "[" ++ String.intercalate ", " xs ++ "]"

/-- Whether something is so. -/
def truth (b : Bool) : String := if b then "true" else "false"

/-! ### Places and names -/

/-- A place. -/
def Place.spelled (p : Place) : String := wrapped "Location" [toString p.line ++ "," ++
  toString p.column]

/-- A part of a text. -/
def Span.spelled (s : Span) : String :=
  wrapped "Span" [s.start.spelled ++ ".." ++ s.stop.spelled]

/-- The quote around a name. -/
def spelledQuote (q : Option Char) : String :=
  optional (q.map fun c => if c = '\'' then "'\\''" else String.ofList ['\'', c, '\''])

/-- A name. -/
def Name.spelled (n : Name) : String :=
  labelled "Ident" [("value", Text.quoted n.text), ("quote_style", spelledQuote n.quote),
    ("span", n.span.spelled)]

/-- Names with points between them. -/
def spelledPath (path : List Name) : String :=
  wrapped "ObjectName" [bracketed (path.map Name.spelled)]

/-! ### Tokens -/

/-- Signs and their names. -/
def signLabels : List (String × String) :=
  [(",", "Comma"), ("==", "DoubleEq"), ("=", "Eq"), ("<>", "Neq"), ("<", "Lt"), (">", "Gt"),
    ("<=", "LtEq"), (">=", "GtEq"), ("<=>", "Spaceship"), ("+", "Plus"), ("-", "Minus"),
    ("*", "Mul"), ("/", "Div"), ("//", "DuckIntDiv"), ("%", "Mod"), ("||", "StringConcat"),
    ("(", "LParen"), (")", "RParen"), (".", "Period"), (":", "Colon"), ("::", "DoubleColon"),
    (":=", "Assignment"), (";", "SemiColon"), ("\\", "Backslash"), ("[", "LBracket"),
    ("]", "RBracket"), ("&", "Ampersand"), ("|", "Pipe"), ("^", "Caret"), ("\x7b", "LBrace"),
    ("\x7d", "RBrace"), ("=>", "RArrow"), ("#", "Sharp"), ("~", "Tilde"), ("~*", "TildeAsterisk"),
    ("!~", "ExclamationMarkTilde"), ("!~*", "ExclamationMarkTildeAsterisk"), ("~~", "DoubleTilde"),
    ("~~*", "DoubleTildeAsterisk"), ("!~~", "ExclamationMarkDoubleTilde"),
    ("!~~*", "ExclamationMarkDoubleTildeAsterisk"), ("<<", "ShiftLeft"), (">>", "ShiftRight"),
    ("&&", "Overlap"), ("!", "ExclamationMark"), ("!!", "DoubleExclamationMark"), ("@", "AtSign"),
    ("^@", "CaretAt"), ("|/", "PGSquareRoot"), ("||/", "PGCubeRoot"), ("->", "Arrow"),
    ("->>", "LongArrow"), ("#>", "HashArrow"), ("#>>", "HashLongArrow"), ("@>", "AtArrow"),
    ("<@", "ArrowAt"), ("#-", "HashMinus"), ("@?", "AtQuestion"), ("@@", "AtAt"),
    ("?", "Question"), ("?&", "QuestionAnd"), ("?|", "QuestionPipe")]

/-- The name of a style of texts, without what a token or a value puts behind it. -/
def TextStyle.label : TextStyle → String
  | .plain => "SingleQuotedString"
  | .doubled => "DoubleQuotedString"
  | .escaped => "EscapedStringLiteral"
  | .national => "NationalStringLiteral"
  | .unicode => "UnicodeStringLiteral"
  | .hexadecimal => "HexStringLiteral"
  | .bytes => "SingleQuotedByteStringLiteral"
  | .bytesDoubled => "DoubleQuotedByteStringLiteral"
  | .raw => "SingleQuotedRawStringLiteral"
  | .rawDoubled => "DoubleQuotedRawStringLiteral"
  | .rawTripled => "TripleSingleQuotedRawStringLiteral"
  | .rawDoubledTripled => "TripleDoubleQuotedRawStringLiteral"

/-- A text between dollar signs. -/
def spelledDollar (tag : Option String) (s : String) : String :=
  wrapped "DollarQuotedString" [labelled "DollarQuotedString" [("value", Text.quoted s),
    ("tag", optional (tag.map Text.quoted))]]

/-- A token. -/
def Token.spelled (t : Token) : String :=
  match t with
  | .word s q =>
    wrapped "Word" [labelled "Word" [("value", Text.quoted s), ("quote_style", spelledQuote q),
      ("keyword", if t.isPlainWord then "NoKeyword" else Text.upper s)]]
  | .number s long => wrapped "Number" [Text.quoted s, truth long]
  | .text style s => wrapped style.label [Text.quoted s]
  | .dollarText tag s => spelledDollar tag s
  | .placeholder s => wrapped "Placeholder" [Text.quoted s]
  | .sign s => (signLabels.lookup s).getD (wrapped "CustomBinaryOperator" [Text.quoted s])
  | .stray c => wrapped "Char" [String.ofList ['\'', c, '\'']]

/-- A token with its place; none stands for the end. -/
def spelledAhead : Option Located → String
  | some t => labelled "TokenWithSpan" [("token", t.token.spelled), ("span", t.span.spelled)]
  | none => labelled "TokenWithSpan" [("token", "EOF"), ("span", Span.nowhere.spelled)]

/-! ### Values and types -/

/-- A value that is written out. -/
def Value.spelled : Value → String
  | .number s long => wrapped "Number" [Text.quoted s, truth long]
  | .text style s => wrapped style.label [Text.quoted s]
  | .dollarText tag s => spelledDollar tag s
  | .bool b => wrapped "Boolean" [truth b]
  | .null => "Null"
  | .placeholder s => wrapped "Placeholder" [Text.quoted s]

/-- A number that may be missing. -/
def optionalNumber (n : Option Nat) : String := optional (n.map toString)

/-- The length of a text. -/
def TextLength.spelled : TextLength → String
  | .upTo n unit => labelled "IntegerLength" [("length", toString n),
      ("unit", optional (unit.map fun u => if u = "OCTETS" then "Octets" else "Characters"))]
  | .max => "Max"

/-- What a time says about its zone. -/
def ZoneMark.spelled : ZoneMark → String
  | .unsaid => "None"
  | .withZone => "WithTimeZone"
  | .withoutZone => "WithoutTimeZone"
  | .short => "Tz"

mutual

/-- A type. -/
def TypeName.spelled : TypeName → String
  | .plain label => label
  | .sized label size => wrapped label [optionalNumber size]
  | .ofLength label length => wrapped label [optional (length.map TextLength.spelled)]
  | .exact label none _ => wrapped label ["None"]
  | .exact label (some p) none => wrapped label [wrapped "Precision" [toString p]]
  | .exact label (some p) (some s) =>
    wrapped label [wrapped "PrecisionAndScale" [toString p, toString s]]
  | .clock label size zone => wrapped label [optionalNumber size, zone.spelled]
  | .custom name modifiers =>
    wrapped "Custom" [spelledPath name, bracketed (modifiers.map Text.quoted)]
  | .around label inner => wrapped label (spelledTypes inner)
  | .array inner size => wrapped "Array" [wrapped "SquareBracket" [inner.spelled,
      optionalNumber size]]
  | .arrayOf inner => wrapped "Array" [wrapped "AngleBracket" [inner.spelled]]
  | .fields label names types =>
    wrapped label [bracketed ((names.zip (spelledTypes types)).map fun (n, t) =>
      labelled "StructField" [("field_name", optional (n.map Name.spelled)), ("field_type", t)])]
  | .listed label values => wrapped label [bracketed (values.map Text.quoted)]

/-- Types, one after another. -/
def spelledTypes : List TypeName → List String
  | [] => []
  | t :: ts => t.spelled :: spelledTypes ts

end

/-- A word of capitals with a small rest. -/
def capitalized (word : String) : String :=
  match word.toList with
  | [] => ""
  | c :: cs => String.ofList (c :: cs.map Char.toLower)

/-- A field of a date. -/
def DateField.spelled : DateField → String
  | .known "WEEK" => wrapped "Week" ["None"]
  | .known "DAYOFWEEK" => "DayOfWeek"
  | .known "DAYOFYEAR" => "DayOfYear"
  | .known "ISOWEEK" => "IsoWeek"
  | .known s => String.join ((s.splitOn "_").map capitalized)
  | .weekFrom day => wrapped "Week" [optional (some day.spelled)]
  | .custom n => wrapped "Custom" [n.spelled]

/-! ### Operators -/

/-- An operator on one value. -/
def UnaryOp.spelled : UnaryOp → String
  | .plus => "Plus"
  | .minus => "Minus"
  | .not => "Not"

/-- An operator between two values. -/
def BinaryOp.spelled : BinaryOp → String
  | .plus => "Plus"
  | .minus => "Minus"
  | .times => "Multiply"
  | .divide => "Divide"
  | .modulo => "Modulo"
  | .wholeDivide => "DuckIntegerDivide"
  | .concat => "StringConcat"
  | .eq => "Eq"
  | .ne => "NotEq"
  | .lt => "Lt"
  | .le => "LtEq"
  | .gt => "Gt"
  | .ge => "GtEq"
  | .same => "Spaceship"
  | .and => "And"
  | .or => "Or"
  | .xor => "Xor"
  | .bitAnd => "BitwiseAnd"
  | .bitOr => "BitwiseOr"
  | .bitXor => "BitwiseXor"
  | .shiftLeft => "PGBitwiseShiftLeft"
  | .shiftRight => "PGBitwiseShiftRight"
  | .overlap => "PGOverlap"
  | .startsWith => "PGStartsWith"
  | .finds false false => "PGRegexMatch"
  | .finds true false => "PGRegexIMatch"
  | .finds false true => "PGRegexNotMatch"
  | .finds true true => "PGRegexNotIMatch"
  | .like false false => "PGLikeMatch"
  | .like true false => "PGILikeMatch"
  | .like false true => "PGNotLikeMatch"
  | .like true true => "PGNotILikeMatch"
  | .arrow => "Arrow"
  | .longArrow => "LongArrow"
  | .hashArrow => "HashArrow"
  | .hashLongArrow => "HashLongArrow"
  | .contains => "AtArrow"
  | .containedBy => "ArrowAt"
  | .hashMinus => "HashMinus"
  | .hasPath => "AtQuestion"
  | .pathMatches => "AtAt"
  | .custom parts => wrapped "PGCustomBinaryOperator" [bracketed (parts.map Text.quoted)]

/-- A test behind `IS`. -/
def IsTest.spelled : IsTest → String
  | .null => "Null"
  | .true => "True"
  | .false => "False"
  | .unknown => "Unknown"

/-- The spelling of a cast. -/
def CastKind.spelled : CastKind → String
  | .cast => "Cast"
  | .tryCast => "TryCast"
  | .safeCast => "SafeCast"
  | .colons => "DoubleColon"

/-- The format of a cast. -/
def CastFormat.spelled (f : CastFormat) : String :=
  match f.zone with
  | none => wrapped "Value" [f.format.spelled]
  | some z => wrapped "ValueAtTimeZone" [f.format.spelled, z.spelled]

/-- To what a number or a date is rounded. -/
def RoundingTo.spelled : RoundingTo → String
  | .whole => wrapped "DateTimeField" ["NoDateTime"]
  | .field f => wrapped "DateTimeField" [f.spelled]
  | .scale n => wrapped "Scale" [n.spelled]

/-- The ends from which a text is trimmed. -/
def TrimSide.spelled : TrimSide → String
  | .both => "Both"
  | .leading => "Leading"
  | .trailing => "Trailing"

/-- How an argument is put behind its name. -/
def NameSign.spelled : NameSign → String
  | .arrow => "RightArrow"
  | .assignment => "Assignment"
  | .word => "Value"

/-- The units of a window frame. -/
def FrameUnits.spelled : FrameUnits → String
  | .rows => "Rows"
  | .range => "Range"
  | .groups => "Groups"

/-! ### Calls -/

/-- One argument, given its expression. -/
def spelledArgument (name : Option (Name × NameSign)) (isExpr : Bool) (arg : String) : String :=
  let arg := if isExpr then wrapped "Expr" [arg] else arg
  match name with
  | none => wrapped "Unnamed" [arg]
  | some (n, mark) =>
    labelled "Named" [("name", n.spelled), ("arg", arg), ("operator", mark.spelled)]

/-- Clauses behind arguments, given the order and the expressions that they hold. -/
def spelledClauses (order : List String) : List ClauseShape → List String → List String
  | [], _ => []
  | .ignoresNulls yes :: cs, es =>
    wrapped "IgnoreOrRespectNulls" [if yes then "IgnoreNulls" else "RespectNulls"] ::
      spelledClauses order cs es
  | .orderBy :: cs, es => wrapped "OrderBy" [bracketed order] :: spelledClauses order cs es
  | .limit :: cs, e :: es => wrapped "Limit" [e] :: spelledClauses order cs es
  | .having max :: cs, e :: es =>
    wrapped "Having" [wrapped "HavingBound" [if max then "Max" else "Min", e]] ::
      spelledClauses order cs es
  | .separator v :: cs, es => wrapped "Separator" [v.spelled] :: spelledClauses order cs es
  | .overflow _ none :: cs, es =>
    wrapped "OnOverflow" ["Error"] :: spelledClauses order cs es
  | .overflow filled (some count) :: cs, es =>
    let filler := if filled then es.head? else none
    wrapped "OnOverflow" [labelled "Truncate" [("filler", optional filler),
      ("with_count", truth count)]] :: spelledClauses order cs (if filled then es.drop 1 else es)
  | .jsonNull absent :: cs, es =>
    wrapped "JsonNullClause" [if absent then "AbsentOnNull" else "NullOnNull"] ::
      spelledClauses order cs es
  | .limit :: _, [] | .having _ :: _, [] => []

/-- What stands in the brackets of a call, given the arguments, their order and the expressions of
the clauses behind it. -/
def ArgumentShape.spelled (shape : ArgumentShape) (args : List (Bool × String))
    (order clauses : List String) : String :=
  match shape with
  | .absent => "None"
  | .query => wrapped "Subquery" (args.map (·.2))
  | .listed distinct names cs =>
    wrapped "List" [labelled "FunctionArgumentList"
      [("duplicate_treatment", optional (distinct.map fun d => if d then "Distinct" else "All")),
        ("args", bracketed ((names.zip args).map fun (n, e, s) => spelledArgument n e s)),
        ("clauses", bracketed (spelledClauses order cs clauses))]]

/-- One end of a window frame, given the expression that it may hold. -/
def BoundShape.spelled (b : BoundShape) (e : Option String) : String :=
  match b with
  | .current => "CurrentRow"
  | .preceding bounded => wrapped "Preceding" [optional (if bounded then e else none)]
  | .following bounded => wrapped "Following" [optional (if bounded then e else none)]

/-- Whether an end of a window frame holds an expression. -/
def BoundShape.isBounded : BoundShape → Bool
  | .current => false
  | .preceding bounded | .following bounded => bounded

/-- The frame of a window, given its expressions. -/
def FrameShape.spelled (f : FrameShape) (es : List String) : String :=
  let behind := if f.start.isBounded then es.drop 1 else es
  labelled "WindowFrame" [("units", f.units.spelled), ("start_bound", f.start.spelled es.head?),
    ("end_bound", optional (f.stop.map fun b => b.spelled behind.head?))]

/-- A window, given its parts, its order and the expressions of its frame. -/
def WindowShape.spelled (w : WindowShape) (partition order frame : List String) : String :=
  match w with
  | .named n => wrapped "NamedWindow" [n.spelled]
  | .spec base shape =>
    wrapped "WindowSpec" [labelled "WindowSpec" [("window_name", optional (base.map Name.spelled)),
      ("partition_by", bracketed partition), ("order_by", bracketed order),
      ("window_frame", optional (shape.map fun f => f.spelled frame))]]

/-! ### Expressions -/

mutual

/-- An expression. -/
def Expr.spelled : Expr → String
  | .column [n] => wrapped "Identifier" [n.spelled]
  | .column path => wrapped "CompoundIdentifier" [bracketed (path.map Name.spelled)]
  | .value v => wrapped "Value" [v.spelled]
  | .introduced i v =>
    labelled "IntroducedString" [("introducer", Text.quoted i), ("value", v.spelled)]
  | .star => "Wildcard"
  | .starOf path => wrapped "QualifiedWildcard" [spelledPath path]
  | .unary op a => labelled "UnaryOp" [("op", op.spelled), ("expr", a.spelled)]
  | .binary op a b =>
    labelled "BinaryOp" [("left", a.spelled), ("op", op.spelled), ("right", b.spelled)]
  | .quantified isAll isSome op a b =>
    if isAll then
      labelled "AllOp" [("left", a.spelled), ("compare_op", op.spelled), ("right", b.spelled)]
    else labelled "AnyOp" [("left", a.spelled), ("compare_op", op.spelled), ("right", b.spelled),
      ("is_some", truth isSome)]
  | .nested a => wrapped "Nested" [a.spelled]
  | .tuple xs => wrapped "Tuple" [bracketed (spelledAll xs)]
  | .isTest test negated a =>
    wrapped ((if negated then "IsNot" else "Is") ++ test.spelled) [a.spelled]
  | .isDistinct negated a b =>
    wrapped (if negated then "IsNotDistinctFrom" else "IsDistinctFrom") [a.spelled, b.spelled]
  | .between negated a b c =>
    labelled "Between" [("expr", a.spelled), ("negated", truth negated), ("low", b.spelled),
      ("high", c.spelled)]
  | .inList negated a xs =>
    labelled "InList" [("expr", a.spelled), ("list", bracketed (spelledAll xs)),
      ("negated", truth negated)]
  | .inQuery negated a _ =>
    labelled "InSubquery" [("expr", a.spelled), ("subquery", "Query"), ("negated", truth negated)]
  | .inArray negated a b =>
    labelled "InUnnest" [("expr", a.spelled), ("array_expr", b.spelled), ("negated", truth negated)]
  | .like kind negated any a b escape =>
    let behind := [("expr", a.spelled), ("pattern", b.spelled),
      ("escape_char", optional (escape.map Text.quoted))]
    match kind with
    | .like => labelled "Like" ([("negated", truth negated), ("any", truth any)] ++ behind)
    | .ilike => labelled "ILike" ([("negated", truth negated), ("any", truth any)] ++ behind)
    | .similar => labelled "SimilarTo" (("negated", truth negated) :: behind)
  | .regexp isRegexp negated a b =>
    labelled "RLike" [("negated", truth negated), ("expr", a.spelled), ("pattern", b.spelled),
      ("regexp", truth isRegexp)]
  | .cases operand conditions results otherwise =>
    labelled "Case" [("operand", spelledOption operand),
      ("conditions", bracketed (spelledAll conditions)),
      ("results", bracketed (spelledAll results)), ("else_result", spelledOption otherwise)]
  | .cast kind a type format =>
    labelled "Cast" [("kind", kind.spelled), ("expr", a.spelled), ("data_type", type.spelled),
      ("format", optional (format.map CastFormat.spelled))]
  | .convert lenient a type charset =>
    labelled "Convert" [("is_try", truth lenient), ("expr", a.spelled),
      ("data_type", optional (type.map TypeName.spelled)),
      ("charset", optional (charset.map spelledPath)), ("target_before_value", "false"),
      ("styles", "[]")]
  | .atZone a b => labelled "AtTimeZone" [("timestamp", a.spelled), ("time_zone", b.spelled)]
  | .extract field withComma a =>
    labelled "Extract" [("field", field.spelled), ("syntax", if withComma then "Comma" else "From"),
      ("expr", a.spelled)]
  | .rounding up a target =>
    labelled (if up then "Ceil" else "Floor") [("expr", a.spelled), ("field", target.spelled)]
  | .position a b => labelled "Position" [("expr", a.spelled), ("in", b.spelled)]
  | .substring a b c withComma =>
    labelled "Substring" [("expr", a.spelled), ("substring_from", spelledOption b),
      ("substring_for", spelledOption c), ("special", truth withComma)]
  | .trim a side what chars =>
    labelled "Trim" [("expr", a.spelled), ("trim_where", optional (side.map TrimSide.spelled)),
      ("trim_what", spelledOption what), ("trim_characters",
        if chars.isEmpty then "None" else optional (bracketed (spelledAll chars)))]
  | .overlay a b c d =>
    labelled "Overlay" [("expr", a.spelled), ("overlay_what", b.spelled),
      ("overlay_from", c.spelled), ("overlay_for", spelledOption d)]
  | .collate a path => labelled "Collate" [("expr", a.spelled), ("collation", spelledPath path)]
  | .typed type s => labelled "TypedString" [("data_type", type.spelled), ("value", Text.quoted s)]
  | .interval a unit precision last fraction =>
    wrapped "Interval" [labelled "Interval" [("value", a.spelled),
      ("leading_field", optional (unit.map DateField.spelled)),
      ("leading_precision", optionalNumber precision),
      ("last_field", optional (last.map DateField.spelled)),
      ("fractional_seconds_precision", optionalNumber fraction)]]
  | .call c => wrapped "Function" [c.spelled]
  | .exists negated _ => labelled "Exists" [("subquery", "Query"), ("negated", truth negated)]
  | .subquery _ => wrapped "Subquery" ["Query"]
  | .index a b =>
    labelled "Subscript" [("expr", a.spelled),
      ("subscript", labelled "Index" [("index", b.spelled)])]
  | .slice a b c d =>
    labelled "Subscript" [("expr", a.spelled), ("subscript", labelled "Slice"
      [("lower_bound", spelledOption b), ("upper_bound", spelledOption c),
        ("stride", spelledOption d)])]
  | .array named xs =>
    wrapped "Array" [labelled "Array" [("elem", bracketed (spelledAll xs)), ("named", truth named)]]
  | .struct names types xs =>
    labelled "Struct" [("values", bracketed (spelledAll xs)),
      ("fields", bracketed ((names.zip types).map fun (n, t) =>
        labelled "StructField" [("field_name", optional (n.map Name.spelled)),
          ("field_type", t.spelled)]))]
  | .named a n => labelled "Named" [("expr", a.spelled), ("name", n.spelled)]
  | .record names xs =>
    wrapped "Dictionary" [bracketed ((names.zip (spelledAll xs)).map fun (n, x) =>
      labelled "DictionaryField" [("key", n.spelled), ("value", x)])]
  | .map xs =>
    wrapped "Map" [labelled "Map" [("entries", bracketed (spelledEntries xs))]]
  | .member a n => labelled "CompositeAccess" [("expr", a.spelled), ("key", n.spelled)]
  | .matchAgainst columns v modifier =>
    labelled "MatchAgainst" [("columns", bracketed (columns.map Name.spelled)),
      ("match_value", v.spelled), ("opt_search_modifier", optional modifier)]
  | .prior a => wrapped "Prior" [a.spelled]
  | .groupingSets label xs => wrapped label [bracketed (spelledAll xs)]

/-- Expressions, one after another. -/
def spelledAll : List Expr → List String
  | [] => []
  | x :: xs => x.spelled :: spelledAll xs

/-- Keys and values in turn, as entries. -/
def spelledEntries : List Expr → List String
  | k :: v :: xs => labelled "MapEntry" [("key", k.spelled), ("value", v.spelled)] ::
      spelledEntries xs
  | [_] | [] => []

/-- Arguments, and whether each is an expression rather than all columns. -/
def spelledArguments : List Expr → List (Bool × String)
  | [] => []
  | x :: xs =>
    let isExpr := match x with
      | .star | .starOf _ => false
      | _ => true
    (isExpr, x.spelled) :: spelledArguments xs

/-- An expression that may be missing. -/
def spelledOption : Option Expr → String
  | none => "None"
  | some x => wrapped "Some" [x.spelled]

/-- A call of a function. -/
def Call.spelled : Call → String
  | ⟨shape, parameters, arguments, argumentOrder, clauses, partition, order, frame, within⟩ =>
    labelled "Function" [("name", spelledPath shape.name),
      ("uses_odbc_syntax", truth shape.inBraces),
      ("parameters", shape.parameters.spelled (spelledArguments parameters) [] []),
      ("args", shape.arguments.spelled (spelledArguments arguments) (spelledKeys argumentOrder)
        (spelledAll clauses)),
      ("filter", "None"),
      ("null_treatment", optional (shape.ignoresNulls.map fun yes =>
        if yes then "IgnoreNulls" else "RespectNulls")),
      ("over", optional (shape.window.map fun w =>
        w.spelled (spelledAll partition) (spelledKeys order) (spelledAll frame))),
      ("within_group", bracketed (spelledKeys within))]

/-- Keys of an order, one after another. -/
def spelledKeys : List OrderKey → List String
  | [] => []
  | ⟨x, ascending, nullsFirst, _⟩ :: ks =>
    labelled "OrderByExpr" [("expr", x.spelled), ("asc", optional (ascending.map truth)),
      ("nulls_first", optional (nullsFirst.map truth)), ("with_fill", "None")] :: spelledKeys ks

end

end FocusBilling.Sql
