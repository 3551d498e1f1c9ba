import FocusBilling.Sql.Elaborate

/-!
# Lists of columns

* `Sql.Modifiers` : what may follow all columns: names to leave out, to keep, to replace or to
  change;
* `Sql.Scope.itemFormulas` : the columns that an entry of the list behind `SELECT` stands for;
* `Sql.Scope.ordinalOr` : an expression that may name an entry of the list by its place;
* `Sql.Scope.ordered` : a table in the order of some keys.

Modifiers hold for the whole list, wherever they stand in it.
-/

namespace FocusBilling.Sql

/-- What may follow all columns. -/
structure Modifiers where
  /-- A regular expression for the names that are kept. -/
  ilike : Option Regex
  /-- Names that are left out. -/
  excluded : List String
  /-- New names of columns. -/
  renamed : List (String × String)
  /-- Formulas in place of columns. -/
  replaced : List Formula

namespace Modifiers

/-- Nothing. -/
def none : Modifiers := ⟨.none, [], [], []⟩

/-- Modifiers and those behind them. -/
def and (m n : Modifiers) : Modifiers :=
  ⟨n.ilike.or m.ilike, m.excluded ++ n.excluded,
    n.renamed ++ m.renamed.filter (fun r => (n.renamed.lookup r.1).isNone),
    m.replaced ++ n.replaced⟩

/-- Whether a column of a name is kept. -/
def admits (m : Modifiers) (name : String) : Bool :=
  m.ilike.all (fun r => r.findsIn name) && !m.excluded.contains name

end Modifiers

/-- The type of a formula over a table must be known, except for values that do not go together. -/
def checked (g : Grid) (a : Formula) : Elaborated Unit :=
  if a.reads.any fun n => n = "*" || Table.isPattern n then unsupported
  else
    match a.eval false g with
    | .error (.missingColumn n) => .error (.frame (.missingColumn n))
    | .error .untyped => unsupported
    | _ => .ok ()

/-- Formulas over a table, with the names of the columns that they fill. -/
def evaluated (g : Grid) (as : List Formula) : Except FrameError (List (String × Outcome)) :=
  as.mapM fun a => do pure (a.name, ← a.eval false g)

/-- An expression as a number of rows, or as a place; it must be a plain number. -/
def plainNumber? : Expr → Option Nat
  | .value (.number digits _) => Decimal.natural? digits.toList
  | _ => none

/-- Whether an expression is a value that is written out, or a number below zero. -/
def isFixed : Expr → Bool
  | .value _ | .unary .minus (.value (.number _ _)) => true
  | _ => false

namespace Scope

variable (s : Scope)

/-- All columns, or those of a table. -/
def starColumns (table : List Name) : Elaborated (List Formula) :=
  if table.isEmpty then .ok (s.schema.map fun (n, _) => .column n)
  else s.columns (table.map (·.text) ++ ["*"])

/-- What follows all columns. -/
def modifiers (shape : StarShape) (replacements : List Expr) : Elaborated Modifiers := do
  let excludes := !shape.excluded.isEmpty
  if excludes && (!shape.excepted.isEmpty || shape.ilike.isSome) then unsupported
  else
    let ilike ← match shape.ilike with
      | some p => match Regex.read? (likePattern true p) with
        | some r => pure (some r)
        | none => unsupported
      | none => pure none
    let formulas ← s.formulas replacements
    let names := shape.replaced.map (·.text)
    pure ⟨ilike, (shape.excluded ++ shape.excepted).map (·.text),
      (shape.renamed.map fun (a, b) => (a.text, b.text)).filter fun (a, b) => a != b,
      formulas.zipWith Formula.named names⟩

/-- The columns that a name stands for; other formulas stand for themselves. -/
def expanded (a : Formula) : Elaborated (List Formula) :=
  match a with
  | .column name =>
    match Table.matchingNames (s.schema.map (·.1)) name with
    | .ok names => .ok (names.map .column)
    | .error _ => unsupported
  | a => .ok [a]

/-- The columns that an entry of the list behind `SELECT` stands for. -/
def itemFormulas : SelectItem → Elaborated (List Formula × Modifiers)
  | .expr e none => do pure (← s.expanded (← s.formula e), .none)
  | .expr e (some label) => do pure ([.named (← s.formula e) label.text], .none)
  | .wildcard shape replacements => do
    pure (← s.starColumns shape.table, ← s.modifiers shape replacements)

/-- The columns of a list, and its modifiers. -/
def listFormulas : List SelectItem → Elaborated (List Formula × Modifiers)
  | [] => .ok ([], .none)
  | i :: is => do
    let (columns, m) ← s.itemFormulas i
    let (others, n) ← listFormulas is
    pure (columns ++ others, m.and n)

/-! ### Orders -/

/-- One of some columns by its place, counted from one, or else what an expression means. -/
def ordinalOr (columns : List Formula) (e : Expr) : Elaborated Formula :=
  if isFixed e then
    match plainNumber? e with
    | some 0 | none => unsupported
    | some (n + 1) => columns[n]?.elim unsupported .ok
  else s.formula e

/-- Which way a key orders rows: downward missing values come first, unless it is said. -/
def directionOf (k : OrderKey) : Direction :=
  let descending := !k.ascending.getD true
  ⟨descending, !k.nullsFirst.getD descending⟩

/-- Whether an order is by all columns. -/
def isOrderByAll (keys : List OrderKey) : Bool :=
  match keys with
  | [k] =>
    match k.value with
    | .column [n] =>
      Text.upper n.text = "ALL" && !s.schema.any fun c => Text.upper c.1 = "ALL"
    | _ => false
  | _ => false

/-- The keys of an order, some of which may be the places of columns. -/
def orderFormulas (columns : List Formula) (keys : List OrderKey) :
    Elaborated (List (Formula × Direction)) :=
  if s.isOrderByAll keys then
    .ok (keys.flatMap fun k => columns.map fun c => (c, directionOf k))
  else keys.mapM fun k => do pure (← s.ordinalOr columns k.value, directionOf k)

end Scope

/-- A table in the order of keys. -/
def sortedBy (keys : List (Formula × Direction)) (d : Draft) : Draft := do
  let g ← d
  let outcomes ← keys.mapM fun (a, direction) => do pure (← a.eval false g, direction)
  pure (g.sorted outcomes)

/-- A table in the order of keys, if there are any; places are those of the selected columns, or of
all columns of the table. -/
def ordered (c : Catalog) (keys : List OrderKey) (selected : Option (List Formula)) (d : Draft) :
    Elaborated Draft := do
  if keys.isEmpty then pure d
  else
    let g ← settled d
    let s : Scope := ⟨c, g.schema, fun _ => unsupported⟩
    let columns := selected.getD (g.names.map .column)
    pure (sortedBy (← s.orderFormulas columns keys) d)

end FocusBilling.Sql
