import FocusBilling.Sql.CastTarget
import FocusBilling.Sql.Literal
import FocusBilling.Sql.Meaning

/-!
# Operators, choices and windows

What forms of SQL mean, given what their parts mean.

* `Sql.Scope.operated` : an operator between two formulas;
* `Sql.Scope.matched`, `Sql.Scope.within`, `Sql.Scope.membership` : patterns, ranges and lists;
* `Sql.casesOf` : a choice between results, tested one after another;
* `Sql.called` : a call, which may go over a window.
-/

namespace FocusBilling.Sql

/-! ### Texts -/

/-- The regular expression of a pattern in which `%` stands for any characters and `_` for one. -/
def likePattern (ignoreCase : Bool) (pattern : String) : String :=
  let body := (Regex.escaped pattern.toList).flatMap fun c =>
    if c = '%' then ".*".toList else if c = '_' then ".".toList else [c]
  "^" ++ (if ignoreCase then "(?is)" else "(?s)") ++ String.ofList body ++ "$"

/-- Whether a regular expression is found. -/
def found (a : Formula) (pattern : String) : Formula := .apply (.text .finds) [a, .ofText pattern]

/-- A formula as a text. -/
def asText (a : Formula) : Formula := .apply (.cast .text false) [a]

/-- The field of a struct at the end of a path; a number counts items of a list, which there are
none of. -/
def fieldAt (countsItems : Bool) (path : String) (a : Formula) : Elaborated Formula :=
  let cs := path.toList
  let isBrace (c : Char) : Bool := c = '\x7b' || c = '\x7d'
  let inner :=
    if cs.head? = some '\x7b' && cs.getLast? = some '\x7d' then
      ((cs.dropWhile isBrace).reverse.dropWhile isBrace).reverse
    else cs
  ((String.ofList inner).splitOn ",").foldlM (fun a p =>
    let key := Text.trim p
    if countsItems && (Decimal.integer? key.toList).isSome then unsupported
    else .ok (.apply (.field key) [a])) a

namespace Scope

variable (s : Scope)

/-! ### Operators -/

/-- A comparison; a text beside dates is read as one of them. -/
def compared (c : Comparison) (a b : Formula) : Formula := .compare c a (s.asInstant a b)

/-- A pattern with placeholders; without any it is the text itself. -/
def matched (ignoreCase negated : Bool) (a pattern : Formula) : Elaborated Formula :=
  match pattern.text? with
  | some p =>
    let hasPlaceholder := p.toList.any fun c => c = '%' || c = '_'
    .ok (.notIf negated (
      if p.isEmpty || (!ignoreCase && !hasPlaceholder) then s.compared .eq a pattern
      else found a (likePattern ignoreCase p)))
  | none => unsupported

/-- A field of a struct by a path that is written out. -/
def pathInto (countsItems isText : Bool) (a path : Formula) : Elaborated Formula := do
  match path.text? with
  | some p =>
    let field ← fieldAt countsItems p a
    pure (if isText then asText field else field)
  | none => unsupported

/-- A regular expression that is written out. -/
def searched (ignoreCase negated : Bool) (a pattern : Formula) : Elaborated Formula :=
  match pattern.text? with
  | some p => .ok (.notIf negated (found a (if ignoreCase then "(?i)" ++ p else p)))
  | none => unsupported

/-- An operator between two formulas; a text beside dates is read as one of them. -/
def operated (op : BinaryOp) (a b : Formula) : Elaborated Formula :=
  let c := s.asInstant a b
  match op with
  | .plus => .ok (.compute .add a c)
  | .minus => .ok (.compute .sub a c)
  | .times => .ok (.compute .mul a c)
  | .divide => .ok (.compute .divide a c)
  | .modulo => .ok (.compute .modulo a c)
  | .wholeDivide => .ok (.apply (.cast .i64 false) [.compute .floorDivide a c])
  | .concat => .ok (.compute .add (asText a) (asText c))
  | .eq => .ok (.compare .eq a c)
  | .ne => .ok (.not (.compare .eq a c))
  | .lt => .ok (.compare .lt a c)
  | .le => .ok (.compare .le a c)
  | .gt => .ok (.compare .gt a c)
  | .ge => .ok (.compare .ge a c)
  | .same => .ok (.apply (.same false) [a, c])
  | .and | .bitAnd => .ok (.apply (.connect .and) [a, c])
  | .or | .bitOr => .ok (.apply (.connect .or) [a, c])
  | .xor => .ok (.apply (.connect .xor) [a, c])
  | .startsWith => .ok (.apply (.text .startsWith) [a, c])
  | .finds ignoreCase negated => searched ignoreCase negated a c
  | .like ignoreCase negated => s.matched ignoreCase negated a b
  | .arrow => pathInto true false a c
  | .longArrow => pathInto true true a c
  | .hashArrow => pathInto false false a c
  | .hashLongArrow => pathInto false true a c
  | _ => unsupported

/-- A sign in front of a formula. -/
def signed (op : UnaryOp) (a : Formula) : Formula :=
  match op, a with
  | .plus, .whole n => .whole n
  | .plus, .fraction x => .fraction x
  | .minus, .whole n => .whole (-n)
  | .minus, .fraction x => .fraction x.neg
  | .plus, a => .compute .add (.whole 0) a
  | .minus, a => .compute .sub (.whole 0) a
  | .not, a => .not a

/-- Whether a formula lies between two others, or outside. -/
def within (negated : Bool) (a low high : Formula) : Formula :=
  if negated then .apply (.connect .or) [s.compared .lt a low, s.compared .gt a high]
  else .apply (.connect .and) [s.compared .ge a low, s.compared .le a high]

/-- A comparison with some or all values of a formula. -/
def comparedWithAll (isAll : Bool) (op : BinaryOp) (a b : Formula) : Elaborated Formula :=
  let limit (greatest : Bool) : Formula :=
    .total (if greatest == isAll then .greatest else .least) [b]
  match op, isAll with
  | .gt, _ => .ok (.compare .gt a (limit true))
  | .ge, _ => .ok (.compare .ge a (limit true))
  | .lt, _ => .ok (.compare .lt a (limit false))
  | .le, _ => .ok (.compare .le a (limit false))
  | .eq, false => .ok (.apply .among [a, b])
  | .ne, false => .ok (.not (.apply .among [a, b]))
  | _, _ => unsupported

/-- Whether a formula is among values that are written out; texts beside a column of dates or
datetimes must all be some. -/
def membership (negated : Bool) (a : Formula) (items : List Expr) : Elaborated Formula := do
  let listed ← listedValues items
  let target := match a with
    | .column name => if listed.dtype.same .text then s.schema.lookup name else none
    | _ => none
  let values ← match target with
    | some t =>
      if t.isTemporal then
        let read := listed.cells.bind fun cells => cells.mapM fun c => c.castTo .text t true
        match read with
        | .ok cells => pure ⟨t, .ok cells⟩
        | .error _ => unsupported
      else pure listed
    | none => pure listed
  pure (.notIf negated (.apply .among [a, .listed values]))

end Scope

/-! ### Choices -/

/-- A choice between results, tested one after another. -/
def casesOf (operand : Option Formula) : List Formula → List Formula → Formula → Formula
  | c :: cs, r :: rs, otherwise =>
    let condition := match operand with
      | some o => .compare .eq o c
      | none => c
    .choose condition r (casesOf operand cs rs otherwise)
  | _, _, otherwise => otherwise

/-- A test behind `IS`. -/
def testedFor (test : IsTest) (negated : Bool) (a : Formula) : Elaborated Formula :=
  match test with
  | .null => .ok (.notIf negated (.apply .isNull [a]))
  | .true => .ok (.notIf negated (.compare .eq a (.ofBool true)))
  | .false => .ok (.notIf negated (.compare .eq a (.ofBool false)))
  | .unknown => unsupported

/-- A text without characters at its ends; blanks where none are given. -/
def trimmedOf (side : Option TrimSide) (what : Option Formula) (a : Formula) :
    Elaborated Formula :=
  let f := TextFunction.trim (side != some .trailing) (side != some .leading)
  match what with
  | none => .ok (.apply (.text f) [a, .missing])
  | some w => if w.text?.isSome then .ok (.apply (.text f) [a, w]) else unsupported

/-- A cast by its spelling. -/
def castOf (kind : CastKind) (t : TypeName) (format : Option CastFormat) (a : Formula) :
    Elaborated Formula :=
  match t.dtype?, format with
  | some t, none => .ok (.apply (.cast t (kind = .cast || kind = .colons)) [a])
  | _, _ => unsupported

/-! ### Calls -/

/-- A key of the order of a window, and whether it goes upward, where that is said. -/
abbrev WindowKey := Formula × Option Bool

/-- A formula over a window.  Without parts the order gives the parts. -/
def overWindow (partition : List Formula) (order : List WindowKey) (a : Formula) : Formula :=
  if partition.isEmpty then
    .windowed a (order.map fun (k, up) => match up with
      | some up => .sorted k [k] [!up]
      | none => k)
  else .windowed a partition

/-- The running total that a function names. -/
def runningNamed? : String → Option Running
  | "sum" => some .sum
  | "min" => some .least
  | "max" => some .greatest
  | _ => none

/-- A call on some arguments, which may go over a window. -/
def calledOver (name : String) (window : Option WindowShape) (partition : List Formula)
    (order : List WindowKey) (args : List Formula) (a : Formula) : Elaborated Formula :=
  match window, runningNamed? name, args with
  | none, _, _ => .ok a
  | some (.named _), _, _ => unsupported
  | some (.spec ..), some f, [arg] =>
    if partition.isEmpty && !order.isEmpty then
      .ok (.running f (.sorted arg (order.map (·.1)) (order.map fun k => k.2 == some false)))
    else .ok (overWindow partition order a)
  | some (.spec ..), _, _ => .ok (overWindow partition order a)

/-- The number of rows, of values, or of different values. -/
def countOf (distinct : Bool) (isStar : Bool) (args : List Formula) : Elaborated Formula :=
  match distinct, isStar, args with
  | false, true, _ | false, _, [] => .ok .rowCount
  | false, false, [a] => .ok (.total .count [a])
  | true, false, [a] => .ok (.total .countDistinct [a])
  | _, _, _ => unsupported

/-- Whether a call is one on different values; other clauses are not carried out. -/
def isDistinctCall : ArgumentShape → Elaborated Bool
  | .listed distinct _ clauses =>
    if clauses.isEmpty then .ok (distinct == some true) else unsupported
  | .absent => .ok false
  | .query => unsupported

/-- A call of a function. -/
def called (shape : CallShape) (isStar : Bool) (args partition : List Formula)
    (order : List WindowKey) : Elaborated Formula := do
  let name := Text.toLower ((shape.name.head?.map (·.text)).getD "")
  let distinct ← isDistinctCall shape.arguments
  if shape.ignoresNulls.isSome then unsupported
  else if name = "count" then
    calledOver name shape.window partition order args (← countOf distinct isStar args)
  else if distinct || isStar then unsupported
  else
    let a ← meaning name args
    if takesWindow name args.length then calledOver name shape.window partition order args a
    else pure a

end FocusBilling.Sql
