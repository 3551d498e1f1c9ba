import FocusBilling.Sql.Catalog

/-!
# Groups of rows

* `Sql.Grid.grouped` : one row for each class of rows with equal keys: the keys, then totals;
* `Sql.Projections.groupedPlan` : the keys and totals that a list of columns needs, and what is
  selected from the groups in the end.

A column of the list is a total of each group where it holds a total or a window, or calls a
function of a column that is no key.  Any other column is made from the keys.
-/

namespace FocusBilling.Sql

/-- The cells of a formula in each class of rows; it must have one value there. -/
def totalCells (g : Grid) (classes : List (List Nat)) (a : Formula) :
    Except FrameError (List Cell) :=
  classes.mapM fun rows => do
    let o ← a.eval true (g.pick (.ok rows))
    if o.isScalar then pure ((← o.settled.cells).headD .null) else .error .wrongType

/-- One row for each class of rows with equal keys, classes by their first rows. -/
def Grid.grouped (g : Grid) (keys totals : List Formula) : Except FrameError Grid := do
  let keyOutcomes ← keys.mapM fun k => do pure (k.name, ← k.eval false g)
  let totalOutcomes ← totals.mapM fun a => do pure (a, ← a.eval true g)
  let classes := (g.rowsOf (keyOutcomes.map (·.2))).map classesOf
  let keyColumns := keyOutcomes.map fun (n, o) =>
    let d := Grid.spread g.count o
    (n, Deferred.mk d.dtype do
      let firsts := (← classes).map List.head?
      pure (Grid.picked firsts (← d.cells)))
  let totalColumns := totalOutcomes.map fun (a, o) =>
    (a.name, Deferred.mk o.dtype do totalCells g (← classes) a)
  let columns := keyColumns ++ totalColumns
  Grid.ifDistinct (columns.map (·.1)) ⟨classes.map List.length, columns⟩

/-- What a grouping is made of. -/
structure GroupedPlan where
  /-- The keys of the groups. -/
  keys : List Formula
  /-- What each group comes to beside its keys. -/
  totals : List Formula
  /-- What is selected from the groups. -/
  selected : List Formula

namespace Formula

/-- Whether a formula is a value that is written out. -/
def isLiteral : Formula → Bool
  | constant .. | whole _ | fraction _ | listed _ => true
  | _ => false

/-- Whether a formula holds a total or a window. -/
def summarizes (a : Formula) : Bool := a.any fun b => b.isTotal || b.isWindow

/-- The key that a column of a list is where all columns but totals are keys. -/
def implicitKey? (a : Formula) : Option Formula :=
  match a with
  | named (column n) _ => some (column n)
  | named b _ => if b.isLiteral || a.summarizes then none else some a
  | a => if a.isLiteral || a.summarizes then none else some a

/-- Whether a column of a list is a total of each group with given keys. -/
def belongsToGroups (keys : List String) (a : Formula) : Bool :=
  a.any fun b => b.isTotal || b.isWindow || (b.isCall && b.reads.any fun n => !keys.contains n)

/-- A column under another name, as the column itself. -/
def withoutLabel : Formula → Formula
  | named (column n) _ => column n
  | a => a

/-- Whether a formula is a column or a field. -/
def isPlain : Formula → Bool
  | column _ | apply (.field _) _ => true
  | _ => false

/-- Whether a formula has a label. -/
def isLabelled : Formula → Bool
  | named .. => true
  | _ => false

end Formula

/-- What is done with a column of a list: whether it is a total of each group, and whether it is
made from the keys in the end. -/
def placedColumn (keys : List String) (a : Formula) : Elaborated (Option Formula × Formula) :=
  let isTotal := a.belongsToGroups keys
  let b := a.withoutLabel
  let isKey := keys.contains b.name
  let fromKeys := keys.contains a.name || (a.isLabelled && (b.isPlain || !isTotal))
  let final := if fromKeys then a else .column a.name
  if !isKey && isTotal then .ok (some b, final)
  else if b.isPlain && !isKey then unsupported
  else .ok (none, final)

/-- The grouping for a list of columns and given keys; no two of either may have one name. -/
def groupedPlan (keys items : List Formula) : Elaborated GroupedPlan := do
  let names := keys.map Formula.name
  let placed ← items.mapM (placedColumn names)
  let isRepeated (fs : List Formula) : Bool := (Table.repeated? (fs.map Formula.name)).isSome
  if isRepeated keys || isRepeated items then unsupported
  else pure ⟨keys, placed.filterMap (·.1), placed.map (·.2)⟩

end FocusBilling.Sql
