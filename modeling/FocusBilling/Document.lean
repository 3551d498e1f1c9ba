import FocusBilling.Number.Binary

/-!
# Documents

Loosely structured data: what a rule file holds before its fields are read.

* `Document` : scalars, sequences, and entries sorted by their keys;
* `Document.ofEntries` : entries in any order, the last of equal keys winning.
-/

namespace FocusBilling

/-- Loosely structured data.  Whole numbers fit 64 bits, signed or not; entries are sorted by
key and no key occurs twice. -/
inductive Document where
  | null
  | bool (value : Bool)
  | int (value : Int)
  | float (value : Binary)
  | text (value : String)
  | list (items : List Document)
  | entries (items : List (String × Document))
  deriving Inhabited

namespace Document

/-- Whether a whole number fits 64 bits, signed or not. -/
def fits (n : Int) : Bool := decide (-(2 ^ 63 : Int) ≤ n) && decide (n < 2 ^ 64)

/-- A whole number; beyond 64 bits it is the nearest floating-point number. -/
def ofInt (n : Int) : Document :=
  if fits n then .int n else .float (BinaryFormat.double.ofInt n)

/-- Put an entry where its key belongs, over an entry of the same key. -/
def insert (key : String) (value : Document) :
    List (String × Document) → List (String × Document)
  | [] => [(key, value)]
  | (k, v) :: rest =>
    match compare key k with
    | .lt => (key, value) :: (k, v) :: rest
    | .eq => (key, value) :: rest
    | .gt => (k, v) :: insert key value rest

/-- Entries in any order; of equal keys the last wins. -/
def ofEntries (items : List (String × Document)) : Document :=
  .entries (items.foldl (fun acc (k, v) => insert k v acc) [])

/-- The entry of a key. -/
def get? (key : String) : Document → Option Document
  | .entries items => items.lookup key
  | _ => none

/-- Whether nothing is there. -/
def isNull : Document → Bool
  | .null => true
  | _ => false

end Document

end FocusBilling
