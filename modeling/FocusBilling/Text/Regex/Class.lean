import FocusBilling.Text.Blank
import FocusBilling.Text.Case
import FocusBilling.Text.Category
import FocusBilling.Text.Letter
import FocusBilling.Text.Script

/-!
# Classes of characters in regular expressions

* `Regex.isWord` : the characters of words;
* `Regex.asciiClass?` : the classes between colons, such as `[:alpha:]`;
* `Regex.property?` : the classes behind `\p`;
* `Regex.variants` : the characters that differ from one only in case.
-/

namespace FocusBilling.Regex

open Text

/-- The characters of words, of ASCII or of any script: letters, marks, digits and what joins
them. -/
def isWord (anyScript : Bool) (c : Char) : Bool :=
  if c.toNat < 128 || !anyScript then isLetter c || isDigit c || c = '_'
  else isAlphabetic c || ["Mn", "Mc", "Me", "Nd", "Pc"].contains (category c) ||
    c.toNat = 0x200c || c.toNat = 0x200d

/-- The class of a letter behind a backslash, in ASCII or in any script. -/
def letterClass? (anyScript : Bool) (c : Char) : Option (Char → Bool) :=
  let blank (x : Char) : Bool := if anyScript then isBlank x else x.toNat < 128 && isBlank x
  let digit (x : Char) : Bool := if anyScript then isAnyDigit x else isDigit x
  match c with
  | 'd' => some digit
  | 'D' => some fun x => !digit x
  | 's' => some blank
  | 'S' => some fun x => !blank x
  | 'w' => some (isWord anyScript)
  | 'W' => some fun x => !isWord anyScript x
  | _ => none

/-- The classes between colons. -/
def asciiClass? (name : String) : Option (Char → Bool) :=
  let upper (c : Char) : Bool := 'A' ≤ c && c ≤ 'Z'
  let lower (c : Char) : Bool := 'a' ≤ c && c ≤ 'z'
  let graph (c : Char) : Bool := '!' ≤ c && c ≤ '~'
  match name with
  | "alnum" => some fun c => isLetter c || isDigit c
  | "alpha" => some isLetter
  | "ascii" => some fun c => c.toNat < 128
  | "blank" => some fun c => c = ' ' || c = '\t'
  | "cntrl" => some fun c => c.toNat < 32 || c.toNat = 127
  | "digit" => some isDigit
  | "graph" => some graph
  | "lower" => some lower
  | "print" => some fun c => c = ' ' || graph c
  | "punct" => some fun c => graph c && !isLetter c && !isDigit c
  | "space" => some fun c => c.toNat < 128 && isBlank c
  | "upper" => some upper
  | "word" => some (isWord false)
  | "xdigit" => some isHexDigit
  | _ => none

/-! ### Properties -/

/-- The names of categories in small letters, each with the letters with which they start. -/
def categoryNames : List (String × List String) :=
  [("other", ["C"]), ("control", ["Cc"]), ("cntrl", ["Cc"]), ("format", ["Cf"]),
    ("unassigned", ["Cn"]), ("privateuse", ["Co"]), ("surrogate", ["Cs"]), ("letter", ["L"]),
    ("casedletter", ["Lu", "Ll", "Lt"]), ("lc", ["Lu", "Ll", "Lt"]), ("lowercaseletter", ["Ll"]),
    ("modifierletter", ["Lm"]), ("otherletter", ["Lo"]), ("titlecaseletter", ["Lt"]),
    ("uppercaseletter", ["Lu"]), ("mark", ["M"]), ("combiningmark", ["M"]),
    ("spacingmark", ["Mc"]), ("enclosingmark", ["Me"]), ("nonspacingmark", ["Mn"]),
    ("number", ["N"]), ("decimalnumber", ["Nd"]), ("digit", ["Nd"]), ("letternumber", ["Nl"]),
    ("othernumber", ["No"]), ("punctuation", ["P"]), ("punct", ["P"]),
    ("connectorpunctuation", ["Pc"]), ("dashpunctuation", ["Pd"]), ("closepunctuation", ["Pe"]),
    ("finalpunctuation", ["Pf"]), ("initialpunctuation", ["Pi"]), ("otherpunctuation", ["Po"]),
    ("openpunctuation", ["Ps"]), ("symbol", ["S"]), ("currencysymbol", ["Sc"]),
    ("modifiersymbol", ["Sk"]), ("mathsymbol", ["Sm"]), ("othersymbol", ["So"]),
    ("separator", ["Z"]), ("lineseparator", ["Zl"]), ("paragraphseparator", ["Zp"]),
    ("spaceseparator", ["Zs"])]

/-- The short names of categories in small letters. -/
def categoryCodes : List String :=
  ["c", "cc", "cf", "cn", "co", "cs", "l", "ll", "lm", "lo", "lt", "lu", "m", "mc", "me", "mn", "n",
    "nd", "nl", "no", "p", "pc", "pd", "pe", "pf", "pi", "po", "ps", "s", "sc", "sk", "sm", "so",
    "z", "zl", "zp", "zs"]

/-- The class of a category. -/
def categoryClass? (name : String) : Option (Char → Bool) :=
  let starting (starts : List String) (c : Char) : Bool :=
    starts.any fun s => s.toList.isPrefixOf (category c).toList
  if name = "any" then some fun _ => true
  else if name = "assigned" then some fun c => category c != "Cn"
  else if name = "ascii" then some fun c => c.toNat < 128
  else
    match categoryNames.lookup name with
    | some starts => some (starting starts)
    | none =>
      if categoryCodes.contains name then
        match name.toList with
        | c :: cs => some (starting [String.ofList (c.toUpper :: cs)])
        | [] => none
      else none

/-- The class of a script. -/
def scriptClass? (name : String) : Option (Char → Bool) :=
  (scriptNamed? name).map fun code c => script c == code

/-- The characters between some pairs of code points. -/
def inRanges (ranges : List (Nat × Nat)) (c : Char) : Bool :=
  ranges.any fun (a, b) => a ≤ c.toNat && c.toNat ≤ b

/-- The class of a property that holds or does not hold. -/
def binaryClass? (name : String) : Option (Char → Bool) :=
  if ["alphabetic", "alpha"].contains name then some isAlphabetic
  else if ["whitespace", "wspace", "space"].contains name then some isBlank
  else if ["uppercase", "upper"].contains name then
    some fun c => category c == "Lu" || inRanges [(0x2160, 0x216f), (0x24b6, 0x24cf),
      (0x1f130, 0x1f149), (0x1f150, 0x1f169), (0x1f170, 0x1f189)] c
  else if ["lowercase", "lower"].contains name then
    some fun c => category c == "Ll" || inRanges [(0xaa, 0xaa), (0xba, 0xba), (0x2b0, 0x2b8),
      (0x2c0, 0x2c1), (0x2e0, 0x2e4), (0x345, 0x345), (0x37a, 0x37a), (0x1d2c, 0x1d6a),
      (0x1d78, 0x1d78), (0x1d9b, 0x1dbf), (0x2071, 0x2071), (0x207f, 0x207f), (0x2090, 0x209c),
      (0x2170, 0x217f), (0x24d0, 0x24e9), (0x2c7c, 0x2c7d), (0xa69c, 0xa69d), (0xa770, 0xa770),
      (0xa7f8, 0xa7f9), (0xab5c, 0xab5f)] c
  else if ["hexdigit", "hex"].contains name then
    some fun c => isHexDigit c || inRanges [(0xff10, 0xff19), (0xff21, 0xff26), (0xff41, 0xff46)] c
  else if ["asciihexdigit", "ahex"].contains name then some isHexDigit
  else none

/-- A name in small letters without blanks, dashes, underscores and a leading `is`. -/
def plainName (s : List Char) : String :=
  let cs := (s.filter fun c => c.toNat < 128 && !isBlank c && c ≠ '-' && c ≠ '_').map Char.toLower
  match cs with
  | 'i' :: 's' :: rest => String.ofList (if rest = ['c'] then cs else rest)
  | _ => String.ofList cs

/-- The class of a property, which may be given by its name and value. -/
def property? (text : List Char) : Option (Char → Bool) :=
  let isMark (c : Char) : Bool := c = '=' || c = ':'
  match text.dropWhile fun c => !isMark c with
  | [] =>
    let name := plainName text
    let binary := if ["cf", "sc", "lc"].contains name then none else binaryClass? name
    binary <|> categoryClass? name <|> scriptClass? name
  | mark :: value =>
    let name := text.takeWhile fun c => !isMark c
    let negated := mark = '=' && name.getLast? = some '!'
    let name := plainName (if negated then name.dropLast else name)
    let value := plainName value
    let found :=
      if ["gc", "generalcategory"].contains name then categoryClass? value
      else if ["sc", "script", "scx", "scriptextensions"].contains name then scriptClass? value
      else none
    found.map fun f c => f c != negated

/-! ### Case -/

/-- Characters more than two of which differ only in case, or which change case in no simple
way. -/
def orbitText : String :=
    "4b=6b=212a 53=73=17f b5=39c=3bc c5=e5=212b df=1e9e 1c4=1c5=1c6 1c7=1c8=1c9 1ca=1cb=1cc " ++
    "1f1=1f2=1f3 345=399=3b9=1fbe 392=3b2=3d0 395=3b5=3f5 398=3b8=3d1=3f4 39a=3ba=3f0 " ++
    "3a0=3c0=3d6 3a1=3c1=3f1 3a3=3c2=3c3 3a6=3c6=3d5 3a9=3c9=2126 412=432=1c80 414=434=1c81 " ++
    "41e=43e=1c82 421=441=1c83 422=442=1c84=1c85 42a=44a=1c86 462=463=1c87 1c88=a64a=a64b " ++
    "1e60=1e61=1e9b 1f80=1f88 1f81=1f89 1f82=1f8a 1f83=1f8b 1f84=1f8c 1f85=1f8d 1f86=1f8e " ++
    "1f87=1f8f 1f90=1f98 1f91=1f99 1f92=1f9a 1f93=1f9b 1f94=1f9c 1f95=1f9d 1f96=1f9e " ++
    "1f97=1f9f 1fa0=1fa8 1fa1=1fa9 1fa2=1faa 1fa3=1fab 1fa4=1fac 1fa5=1fad 1fa6=1fae " ++
    "1fa7=1faf 1fb3=1fbc 1fc3=1fcc 1ff3=1ffc 130 131"

/-- The written orbits. -/
def orbits : List (List Char) :=
  (splitOn ' ' orbitText.toList).map fun w =>
    (splitOn '=' w).map fun ds => Char.ofNat (digitsValue 16 ds)

/-- The characters that differ from one only in case, itself included. -/
def variants (anyScript : Bool) (c : Char) : List Char :=
  if !anyScript then [c, c.toUpper, c.toLower]
  else
    match orbits.find? fun o => o.contains c with
    | some o => o
    | none =>
      let single (cs : List Char) : List Char := if cs.length = 1 then cs else []
      c :: (single (upperOf c) ++ single (lowerOf c))

/-- A class that leaves the case of letters out of account. -/
def foldCase (anyScript : Bool) (accepts : Char → Bool) (c : Char) : Bool :=
  (variants anyScript c).any accepts

end FocusBilling.Regex
