import Spreadsheet.Sheet.Basic
import Spreadsheet.Text.Casing

/-! Sorting whole rows by one column. Numbers come before texts, texts are compared in lower case, and cells
that are empty or faulty come last in either direction; rows that compare equal keep their order. -/
namespace Spreadsheet

inductive SortDirection
  | ascending
  | descending
  deriving DecidableEq, Repr

inductive SortKey
  | number (rank : Int)
  | text (lowered : String)
  | blank
  deriving DecidableEq, Repr

namespace SortKey

def ofValue : Formula.Value → SortKey
  | .number x => number (Number.rank x)
  | .text s => text (Text.lower s)
  | .empty => blank
  | .fault _ => blank

/-- May the first key stand before the second in ascending order, both not blank? -/
def ascends : SortKey → SortKey → Bool
  | number a, number b => a ≤ b
  | number _, _ => true
  | _, number _ => false
  | text a, text b => a ≤ b
  | text _, blank => true
  | blank, _ => false

def precedes (direction : SortDirection) : SortKey → SortKey → Bool
  | _, blank => true
  | blank, _ => false
  | a, b => match direction with
    | .ascending => ascends a b
    | .descending => ascends b a

end SortKey

namespace Sheet

def sortPermutation (s : Sheet) (col : Nat) (direction : SortDirection) : List Nat :=
  let keyed := (List.range s.rows.count).map fun row => (SortKey.ofValue (s.evaluate ⟨row, col⟩), row)
  (keyed.mergeSort fun a b => a.1.precedes direction b.1).map (·.2)

/-- Rows outside the bounds stay where they are. -/
def sortByColumn (col : Nat) (direction : SortDirection) (s : Sheet) : Sheet :=
  let order := s.sortPermutation col direction
  s.mapGrid (·.remap (fun row => some (if row < s.rows.count then order.idxOf row else row)) some)

end Sheet

end Spreadsheet
