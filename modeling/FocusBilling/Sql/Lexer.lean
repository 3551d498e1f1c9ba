import FocusBilling.Sql.Token
import FocusBilling.Text.Blank
import FocusBilling.Text.Category
import FocusBilling.Text.Letter

/-!
# Cutting a SQL text into tokens

* `Sql.tokens?` : the tokens of a text with their places; `none` where a quote or a comment is not
  closed, or an escape means nothing.

Quoted names stand between double quotes or backticks, texts between single quotes; a quote
inside is written twice.  Comments run from `--` to the end of the line, or nest between `/*`
and `*/`.
-/

namespace FocusBilling.Sql

open Text

/-- A character that may start an unquoted name. -/
def isNameStart (c : Char) : Bool := isAlphabetic c || c == '_' || c == '#' || c == '@'

/-- A character that may stand inside an unquoted name. -/
def isNamePart (c : Char) : Bool := isNameStart c || isDigit c || c == '$'

/-- A character that is a number in some script. -/
def isNumeral (c : Char) : Bool := isDigit c || (category c).toList.head? == some 'N'

/-! ### Quotes -/

/-- The text up to a closing quote, which is doubled inside, and what follows it. -/
def untilQuote (q : Char) : List Char → Option (List Char × List Char)
  | [] => none
  | c :: rest =>
    if c = q then
      match rest with
      | d :: rest' =>
        if d = q then (untilQuote q rest').map fun (s, r) => (q :: s, r) else some ([], d :: rest')
      | [] => some ([], [])
    else (untilQuote q rest).map fun (s, r) => (c :: s, r)

/-- The character behind a backslash. -/
def plainEscape (c : Char) : Char :=
  match c with
  | '0' => '\x00'
  | 'a' => '\x07'
  | 'b' => '\x08'
  | 'f' => '\x0c'
  | 'n' => '\n'
  | 'r' => '\r'
  | 't' => '\t'
  | 'Z' => '\x1a'
  | c => c

/-- The text up to a closing quote, which is doubled inside or behind a backslash. -/
def untilQuoteEscaped (q : Char) : List Char → Option (List Char × List Char)
  | [] => none
  | '\\' :: c :: rest => (untilQuoteEscaped q rest).map fun (s, r) => (plainEscape c :: s, r)
  | c :: rest =>
    if c = q then
      match rest with
      | d :: rest' =>
        if d = q then (untilQuoteEscaped q rest').map fun (s, r) => (q :: s, r)
        else some ([], d :: rest')
      | [] => some ([], [])
    else (untilQuoteEscaped q rest).map fun (s, r) => (c :: s, r)

/-- The text up to a mark. -/
def untilMark (mark : List Char) : List Char → Option (List Char × List Char)
  | [] => none
  | c :: rest =>
    if mark.isPrefixOf (c :: rest) then some ([], (c :: rest).drop mark.length)
    else (untilMark mark rest).map fun (s, r) => (c :: s, r)

/-- A code point that is a character. -/
def charOf? (n : Nat) : Option Char := if h : n.isValidChar then some (Char.ofNatAux n h) else none

/-- A byte written in a base, unless it is zero or no character of its own. -/
def byteOf? (base : Nat) (digits : List Char) : Option Char :=
  let n := digitsValue base digits % 256
  if 0 < n && n ≤ 127 then charOf? n else none

/-- Digits of one base, a sign in front allowed. -/
def signedDigits? (digits : List Char) : Option Nat :=
  let cs := if digits.head? = some '+' then digits.drop 1 else digits
  if !cs.isEmpty && cs.all isHexDigit then some (digitsValue 16 cs) else none

/-- The character behind a backslash in an escaped text, and what follows it. -/
def longEscape : List Char → Option (Char × List Char)
  | [] => none
  | 'b' :: r => some ('\x08', r)
  | 'f' :: r => some ('\x0c', r)
  | 'n' :: r => some ('\n', r)
  | 'r' :: r => some ('\r', r)
  | 't' :: r => some ('\t', r)
  | 'u' :: r => codePoint 4 r
  | 'U' :: r => codePoint 8 r
  | 'x' :: r =>
    let digits := (r.take 2).takeWhile isHexDigit
    if digits.isEmpty then some ('x', r)
    else (byteOf? 16 digits).map fun c => (c, r.drop digits.length)
  | c :: r =>
    if '0' ≤ c && c ≤ '7' then
      let digits := c :: (r.take 2).takeWhile fun d => '0' ≤ d && d ≤ '7'
      (byteOf? 8 digits).map fun d => (d, (c :: r).drop digits.length)
    else if c = '\x00' then none else some (c, r)
where
  /-- A character by so many hexadecimal digits. -/
  codePoint (n : Nat) (r : List Char) : Option (Char × List Char) :=
    if r.length < n then none
    else
      match (signedDigits? (r.take n)).bind charOf? with
      | some c => if c = '\x00' then none else some (c, r.drop n)
      | none => none

/-- The text of an escaped string up to its closing quote, at most so many steps long. -/
def untilQuoteLong : Nat → List Char → Option (List Char × List Char)
  | 0, _ | _, [] => none
  | n + 1, '\\' :: rest =>
    match longEscape rest with
    | some (c, rest) => (untilQuoteLong n rest).map fun (s, r) => (c :: s, r)
    | none => none
  | n + 1, '\'' :: '\'' :: rest => (untilQuoteLong n rest).map fun (s, r) => ('\'' :: s, r)
  | _ + 1, '\'' :: rest => some ([], rest)
  | n + 1, c :: rest => (untilQuoteLong n rest).map fun (s, r) => (c :: s, r)

/-- A character by so many hexadecimal digits, and what follows it. -/
def hexPoint (n : Nat) (r : List Char) : Option (Char × List Char) :=
  let digits := r.take n
  if digits.length = n && digits.all isHexDigit then
    (charOf? (digitsValue 16 digits)).map fun c => (c, r.drop n)
  else none

/-- The text of a string of code points up to its closing quote, at most so many steps long. -/
def untilQuotePoints : Nat → List Char → Option (List Char × List Char)
  | 0, _ | _, [] => none
  | n + 1, '\'' :: '\'' :: rest => (untilQuotePoints n rest).map fun (s, r) => ('\'' :: s, r)
  | _ + 1, '\'' :: rest => some ([], rest)
  | n + 1, '\\' :: '\\' :: rest => (untilQuotePoints n rest).map fun (s, r) => ('\\' :: s, r)
  | n + 1, '\\' :: rest =>
    let found := match rest with
      | '+' :: r => hexPoint 6 r
      | r => hexPoint 4 r
    match found with
    | some (c, rest) => (untilQuotePoints n rest).map fun (s, r) => (c :: s, r)
    | none => none
  | n + 1, c :: rest => (untilQuotePoints n rest).map fun (s, r) => (c :: s, r)

/-- What follows a nested comment of which `depth` openings are still to be closed; `last` is the
character before. -/
def afterComment (depth : Nat) (last : Char) : List Char → Option (List Char)
  | [] => none
  | c :: rest =>
    if last = '/' && c = '*' then afterComment (depth + 1) c rest
    else if last = '*' && c = '/' then
      if depth ≤ 1 then some rest else afterComment (depth - 1) c rest
    else afterComment depth c rest

/-! ### Numbers, signs and words -/

/-- The number at the start of a text of digits and points, as written, and what follows. -/
def numberAt (cs : List Char) : Token × List Char :=
  let whole := cs.takeWhile isDigit
  let rest := cs.dropWhile isDigit
  match whole, rest with
  | ['0'], 'x' :: r =>
    (.text .hexadecimal (String.ofList (r.takeWhile isHexDigit)), r.dropWhile isHexDigit)
  | _, _ =>
    let (head, rest) := match rest with
      | '.' :: r => (whole ++ '.' :: r.takeWhile isDigit, r.dropWhile isDigit)
      | r => (whole, r)
    if head = ['.'] then (.sign ".", rest)
    else
      let (expo, rest) := match rest with
        | e :: r =>
          if e = 'e' ∨ e = 'E' then
            let (s, r') := match r with
              | '+' :: t => (['+'], t)
              | '-' :: t => (['-'], t)
              | t => ([], t)
            let ds := r'.takeWhile isDigit
            if ds.isEmpty then ([], rest) else (e :: (s ++ ds), r'.dropWhile isDigit)
          else ([], rest)
        | [] => ([], rest)
      let text := String.ofList (head ++ expo)
      match rest with
      | 'L' :: r => (.number text true, r)
      | r => (.number text false, r)

/-- The signs of more than one character, longest first. -/
def longSigns : List (List Char) :=
  ["!~~*", "!~~", "!~*", "~~*", "||/", "<=>", "->>", "#>>", "!~", "!!", "!=", "~~", "~*", "||",
    "|/", "<=", "<>", "<<", "<@", ">=", ">>", "->", "=>", "==", "::", ":=", "#>", "#-", "@>", "@?",
    "@@", "&&", "^@", "//"].map String.toList

/-- The signs of one character. -/
def shortSigns : List Char := "(),+-*/%=<>!|&^~;:[]\x7b\x7d\\#@.".toList

/-- The spelling under which a sign is known. -/
def signName (s : List Char) : String :=
  if s = "!=".toList then "<>" else String.ofList s

/-- The sign at the start of a text; a character that starts none stands alone. -/
def signAt (cs : List Char) : Option (Token × List Char) :=
  match longSigns.find? fun s => s.isPrefixOf cs with
  | some s => some (.sign (signName s), cs.drop s.length)
  | none =>
    match cs with
    | c :: rest =>
      some (if shortSigns.contains c then .sign (String.singleton c) else .stray c, rest)
    | [] => none

/-- A word at the start of a text, whose first characters are taken whatever they are. -/
def wordAt (taken : Nat) (cs : List Char) : Token × List Char :=
  let rest := cs.drop taken
  (.word (String.ofList (cs.take taken ++ rest.takeWhile isNamePart)) none,
    rest.dropWhile isNamePart)

/-- A text of a style out of its value and what follows it. -/
def styled (style : TextStyle) (found : Option (List Char × List Char)) :
    Option (Token × List Char) :=
  found.map fun (s, r) => (.text style (String.ofList s), r)

/-- A raw text behind its letter, between one or three quotes. -/
def rawText (q : Char) (once thrice : TextStyle) : List Char → Option (Token × List Char)
  | c :: d :: r =>
    if c = q && d = q then styled thrice (untilMark [q, q, q] r)
    else if c = q then some (.text once "", d :: r)
    else styled once (untilQuote q (c :: d :: r))
  | [c] => if c = q then some (.text once "", []) else none
  | [] => none

/-- A literal of a special kind that starts with a letter and a quote. -/
def letteredText (cs : List Char) : Option (Option (Token × List Char)) :=
  match cs with
  | c :: '\'' :: r =>
    if c = 'b' || c = 'B' then some (styled .bytes (untilQuote '\'' r))
    else if c = 'r' || c = 'R' then some (rawText '\'' .raw .rawTripled r)
    else if c = 'n' || c = 'N' then some (styled .national (untilQuoteEscaped '\'' r))
    else if c = 'x' || c = 'X' then some (styled .hexadecimal (untilQuoteEscaped '\'' r))
    else if c = 'e' || c = 'E' then some (styled .escaped (untilQuoteLong (r.length + 1) r))
    else none
  | c :: '"' :: r =>
    if c = 'b' || c = 'B' then some (styled .bytesDoubled (untilQuote '"' r))
    else if c = 'r' || c = 'R' then some (rawText '"' .rawDoubled .rawDoubledTripled r)
    else none
  | c :: '&' :: '\'' :: r =>
    if c = 'u' || c = 'U' then some (styled .unicode (untilQuotePoints (r.length + 1) r))
    else none
  | _ => none

/-- The placeholder or the delimited text behind a dollar sign. -/
def dollarAt (rest : List Char) : Option (Token × List Char) :=
  let tag := rest.takeWhile fun c => isAlphabetic c || isNumeral c || c == '_'
  match rest.drop tag.length with
  | '$' :: body =>
    (untilMark ('$' :: (tag ++ ['$'])) body).map fun (s, r) =>
      (.dollarText (if tag.isEmpty then none else some (String.ofList tag)) (String.ofList s), r)
  | after => some (.placeholder (String.ofList ('$' :: tag)), after)

/-- What a number sign or an at sign opens: a sign where one is known or a blank follows, else a
word that takes the next character whatever it is. -/
def signedWord (c : Char) (rest : List Char) : Option (Token × List Char) :=
  match rest with
  | [] => some (.sign (String.singleton c), [])
  | d :: rest' =>
    if c = '#' && (d = '-' || d = '>') then signAt (c :: rest)
    else if c = '@' && (d = '>' || d = '?') then signAt (c :: rest)
    else if c = '@' && d = '@' then
      match rest' with
      | [] => some (.sign "@@", [])
      | e :: _ => if e = ' ' then some (.sign "@@", rest') else some (wordAt 3 (c :: rest))
    else if d = ' ' then some (.sign (String.singleton c), rest)
    else some (wordAt 2 (c :: rest))

/-- One token at the start of a text that starts with no blank and no comment.  `afterWord`
tells whether the token before is a word. -/
def tokenAt (afterWord : Bool) (cs : List Char) : Option (Token × List Char) :=
  match letteredText cs with
  | some found => found
  | none =>
    match cs with
    | [] => none
    | c :: rest =>
      if c = '\'' then styled .plain (untilQuote '\'' rest)
      else if c = '"' ∨ c = '`' then
        (untilQuote c rest).map fun (s, r) => (.word (String.ofList s) (some c), r)
      else if isDigit c then some (numberAt cs)
      else if c = '.' then
        if rest.head? = some '_' then (if afterWord then some (.sign ".", rest) else none)
        else some (numberAt cs)
      else if c = '?' then
        some (.placeholder (String.ofList ('?' :: rest.takeWhile isNumeral)),
          rest.dropWhile isNumeral)
      else if c = '$' then dollarAt rest
      else if c = '@' ∨ c = '#' then signedWord c rest
      else if isNameStart c then some (wordAt 1 cs)
      else signAt cs

/-- The tokens of a text with their places, at most `fuel` steps long. -/
def tokensFrom : Nat → Place → Bool → List Char → Option (List Located)
  | 0, _, _, _ => none
  | _ + 1, _, _, [] => some []
  | n + 1, p, afterWord, cs@(c :: rest) =>
    let skip (r : List Char) : Place := p.behindAll (cs.take (cs.length - r.length))
    if isBlank c then tokensFrom n (p.behind c) false rest
    else match cs with
    | '-' :: '-' :: r =>
      let r := (r.dropWhile (· ≠ '\n')).drop 1
      tokensFrom n (skip r) false r
    | '/' :: '*' :: r =>
      match afterComment 1 ' ' r with
      | some r => tokensFrom n (skip r) false r
      | none => none
    | _ =>
      match tokenAt afterWord cs with
      | none => none
      | some (t, r) =>
        let isWord := match t with
          | .word .. => true
          | _ => false
        (tokensFrom n (skip r) isWord r).map (⟨t, ⟨p, skip r⟩⟩ :: ·)

/-- The tokens of a SQL text with their places. -/
def tokens? (s : String) : Option (List Located) :=
  let cs := s.toList
  tokensFrom (cs.length + 1) ⟨1, 1⟩ false cs

end FocusBilling.Sql
