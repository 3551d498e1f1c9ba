import FocusBilling.Number.Decimal
import FocusBilling.Sql.Catalog

/-!
# Values that are written out

* `Sql.Value.formula` : a value on its own;
* `Sql.listedValues` : the values of a list behind `IN`, all of one type;
* `Sql.intervalOf?` : the duration of an interval;
* `Sql.Scope.asInstant` : a text beside a column of dates or datetimes, read as one of them.
-/

namespace FocusBilling.Sql

/-! ### Values -/

/-- A number as it is written: with a point in it a fraction, else a whole number. -/
def numberOf (text : String) : Elaborated (Int ⊕ Binary) :=
  if text.toList.contains '.' then
    match Decimal.binary? .double text.toList with
    | some x => .ok (.inr x)
    | none => unsupported
  else
    match Decimal.integer? text.toList with
    | some n => if IntType.i64.fits n then .ok (.inl n) else unsupported
    | none => unsupported

namespace Value

/-- A value on its own. -/
def formula : Value → Elaborated Formula
  | .number digits _ => do
    match ← numberOf digits with
    | .inl n => pure (.whole n)
    | .inr x => pure (.fraction x)
  | .text .plain s | .dollarText _ s => .ok (.ofText s)
  | .bool b => .ok (.ofBool b)
  | .null => .ok .missing
  | _ => unsupported

/-- A value in a list, with its type; a sign in front of it means something for numbers only. -/
def item (op : Option UnaryOp) : Value → Elaborated (DType × Cell)
  | .number digits _ => do
    if op = some .not then unsupported
    else
      let isMinus := op = some .minus
      match ← numberOf digits with
      | .inl n => pure (.i64, .int (if isMinus then -n else n))
      | .inr x => pure (.float64, .float (if isMinus then x.neg else x))
  | .text .plain s | .dollarText _ s => .ok (.text, .text s)
  | .bool b => .ok (.bool, .bool b)
  | .null => .ok (.null, .null)
  | _ => unsupported

end Value

/-- A value in a list. -/
def itemOf : Expr → Elaborated (DType × Cell)
  | .value v => v.item none
  | .unary op (.value v) => v.item (some op)
  | _ => unsupported

/-- Values in a list, all of one type except for missing ones. -/
def listedValues (items : List Expr) : Elaborated Deferred := do
  let found ← items.mapM itemOf
  let t := ((found.find? fun i => !i.1.same .null).map (·.1)).getD .null
  if found.all fun i => i.1.same t || i.1.same .null then pure ⟨t, .ok (found.map (·.2))⟩
  else unsupported

/-! ### Durations -/

/-- The duration of an interval that is written out in one text. -/
def intervalOf? : Expr → Option Duration
  | .interval (.value (.text .plain s)) none none none none =>
    if s.toList.contains '-' then none else Duration.ofText? s
  | _ => none

/-- Whether an expression is an interval. -/
def isInterval : Expr → Bool
  | .interval .. => true
  | _ => false

/-- How two durations compare whose parts all have their usual length. -/
def comparedDurations (op : BinaryOp) (a b : Duration) : Option Bool :=
  let x := a.approximate
  let y := b.approximate
  match op with
  | .gt => some (decide (y < x))
  | .lt => some (decide (x < y))
  | .ge => some (decide (y ≤ x))
  | .le => some (decide (x ≤ y))
  | .ne => some (decide (a ≠ b))
  | .eq | .same => some (decide (a = b))
  | _ => none

/-! ### Dates and datetimes -/

/-- Whether characters are a date: a year, a month and a day. -/
def isDate : List Char → Bool
  | [y, e, a, r, '-', m, o, '-', d, n] =>
    [y, e, a, r, o, n].all Text.isDigit && "01".toList.contains m && "0123".toList.contains d
  | _ => false

/-- Whether characters are a fraction of a second behind a point. -/
def isSecondPart : List Char → Bool
  | '.' :: digits => !digits.isEmpty && digits.length ≤ 9 && digits.all Text.isDigit
  | rest => rest.isEmpty

/-- Whether characters are a time of day, perhaps without seconds. -/
def isClock : List Char → Bool
  | h :: o :: ':' :: m :: i :: rest =>
    "012".toList.contains h && "012345".toList.contains m && [o, i].all Text.isDigit &&
      (match rest with
      | [] => true
      | ':' :: s :: e :: part =>
        "012345".toList.contains s && Text.isDigit e && isSecondPart part
      | _ => false)
  | _ => false

/-- Whether characters are a datetime: a date and a time of day, or a date alone. -/
def isDatetime (cs : List Char) : Bool :=
  let clock := cs.drop 10
  isDate (cs.take 10) &&
    (clock.isEmpty || ((clock.head? = some 'T' || clock.head? = some ' ') && isClock clock.tail))

/-- A text that is a datetime, with a time of day and `T` in front of it. -/
def completeDatetime (s : String) : String :=
  String.ofList (s.toList.take 10) ++ "T" ++
    (if s.length = 10 then "00:00:00" else String.ofList (s.toList.drop 11))

/-- A text beside a column of dates or datetimes, read as one of them where it has that form. -/
def Scope.asInstant (s : Scope) (a b : Formula) : Formula :=
  match b.text?, s.columnType? a with
  | some text, some .date =>
    if isDate text.toList then .apply (.time (.readDay none)) [b] else b
  | some text, some (.datetime u zone) =>
    if isDatetime text.toList then
      .apply (.time (.inferMoment u zone)) [.ofText (completeDatetime text)]
    else b
  | _, _ => b

/-- A text of a type. -/
def typedText (t : TypeName) (s : String) : Elaborated Formula :=
  match t with
  | .plain "Date" =>
    if isDate s.toList then .ok (.apply (.cast .date false) [.ofText s]) else unsupported
  | .clock "Timestamp" none .unsaid | .sized "Datetime" none =>
    if isDatetime s.toList && s.length > 10 then
      .ok (.apply (.time (.inferMoment .micro none)) [.ofText s])
    else unsupported
  | _ => unsupported

end FocusBilling.Sql
