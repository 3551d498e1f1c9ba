import FocusBilling.Sql.Grid

/-!
# Tables side by side

* `Sql.Pairs` : which rows of two tables meet;
* `Sql.Keeping.pairs` : the rows that meet because their keys are equal, and the rows that are kept
  although they meet none;
* `Sql.Grid.join` : a table beside another;
* `Sql.Grid.joinNaturally` : the same by columns of equal names, each of which appears once.

A missing key equals none.  A column of the second table whose name the first one has takes a
suffix.
-/

namespace FocusBilling.Sql

/-- Which rows of two tables meet; one side may be missing. -/
abbrev Pairs := List (Option Nat × Option Nat)

/-- Whose rows are kept although they meet none. -/
inductive Keeping where
  | none
  | left
  | right
  | both
  deriving DecidableEq

/-- Whether two rows of keys are equal. -/
def keysMeet (a b : List Cell) : Bool :=
  !a.any Cell.isNull && !b.any Cell.isNull && Cell.orderAll a b == .eq

/-- The positions of rows whose keys equal those of a row. -/
def meeting (rows : List (List Cell)) (row : List Cell) : List Nat :=
  rows.zipIdx.filterMap fun (r, j) => if keysMeet row r then some j else none

/-- Each row of the first table with those that it meets in the second, or alone. -/
def pairsFrom (keepsFirst : Bool) (first second : List (List Cell)) : Pairs :=
  first.zipIdx.flatMap fun (row, i) =>
    match meeting second row with
    | [] => if keepsFirst then [(some i, none)] else []
    | js => js.map fun j => (some i, some j)

/-- Rows of the first table that meet none of the second, alone. -/
def loners (first second : List (List Cell)) : Pairs :=
  first.zipIdx.filterMap fun (row, i) =>
    if (meeting second row).isEmpty then some (some i, none) else none

/-- Both sides exchanged. -/
def exchanged (ps : Pairs) : Pairs := ps.map fun (a, b) => (b, a)

/-- The rows of two tables that meet.  They go by the rows of a table all of which are kept, else by
those of the longer table. -/
def Keeping.pairs (k : Keeping) (left right : List (List Cell)) : Pairs :=
  let leftLeads := right.length < left.length
  match k with
  | .left => pairsFrom true left right
  | .right => exchanged (pairsFrom true right left)
  | .none =>
    if leftLeads then pairsFrom false left right else exchanged (pairsFrom false right left)
  | .both =>
    if leftLeads then pairsFrom true left right ++ exchanged (loners right left)
    else exchanged (pairsFrom true right left) ++ loners left right

/-- Whether keys of two types can be compared. -/
def keyTypesMeet (s t : DType) : Bool :=
  s.same t ||
    (match s, t with
    | .int _, .int _ | .float32, .float64 | .float64, .float32 => true
    | _, _ => false)

namespace Grid

/-- The columns of a table behind those of another, under new names where they have the same. -/
def beside (g h : Grid) (suffix : String) : Except FrameError Grid :=
  let others := h.columns.map fun (n, d) => (if g.names.contains n then n ++ suffix else n, d)
  let columns := g.columns ++ others
  ifDistinct (columns.map (·.1)) ⟨g.count, columns⟩

/-- The rows of two tables with equal keys. -/
def pairsOf (k : Keeping) (g h : Grid) (left right : List Outcome) :
    Except FrameError (Except FrameError Pairs) :=
  if (left.zip right).all fun (a, b) => keyTypesMeet a.dtype b.dtype then
    .ok do pure (k.pairs (← g.rowsOf left) (← h.rowsOf right))
  else .error .wrongType

/-- The rows of one side. -/
def side (g : Grid) (ps : Except FrameError Pairs) (f : Option Nat × Option Nat → Option Nat) :
    Grid :=
  g.pickOption (ps.map fun ps => ps.map f)

/-- A table beside another, as rows meet by keys. -/
def join (k : Keeping) (g h : Grid) (left right : List Outcome) (suffix : String) :
    Except FrameError Grid := do
  let ps ← pairsOf k g h left right
  beside (g.side ps (·.1)) (h.side ps (·.2)) suffix

/-- Every row of a table beside every row of another. -/
def cross (g h : Grid) (suffix : String) : Except FrameError Grid :=
  let ps : Except FrameError Pairs := do
    let m ← h.count
    pure ((List.range (← g.count)).flatMap fun i =>
      (List.range m).map fun j => (some i, some j))
  beside (g.side ps (·.1)) (h.side ps (·.2)) suffix

/-- A table without some columns. -/
def without (g : Grid) (names : List String) : Grid :=
  { g with columns := g.columns.filter fun c => !names.contains c.1 }

/-- The cells of one column, or where they are missing those of another. -/
def coalesced (a b : Deferred) : Deferred :=
  ⟨a.dtype, do
    let xs ← a.cells
    pure (List.zipWith (fun x y => if x.isNull then y else x) xs (← b.cells))⟩

/-- A table beside another, as rows meet by columns of some names, each of which appears once. -/
def joinNaturally (k : Keeping) (g h : Grid) (names : List String) (suffix : String) :
    Except FrameError Grid := do
  let left ← names.mapM g.column
  let right ← names.mapM h.column
  let ps ← pairsOf k g h left right
  let a := g.side ps (·.1)
  let b := h.side ps (·.2)
  match k with
  | .right => beside (a.without names) b suffix
  | .both =>
    let merged := a.columns.map fun (n, d) =>
      (n, if names.contains n then (b.columns.lookup n).elim d (coalesced d) else d)
    beside ⟨a.count, merged⟩ (b.without names) suffix
  | _ => beside a (b.without names) suffix

end Grid

end FocusBilling.Sql
