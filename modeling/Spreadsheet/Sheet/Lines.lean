import Spreadsheet.Range
import Spreadsheet.Table

/-! The rows of a sheet, or its columns: how many there are, the sizes that were set, which are hidden, and how
many at the start are frozen. Inserting and deleting a line move every index by the same map. Counts and indices have
no limit here, where words have one; what is said of inserted lines asks for room below it. -/
namespace Spreadsheet

inductive Axis
  | row
  | col
  deriving DecidableEq, Repr

/-- Where an index goes when a line is inserted. It must have one after it if it is to make way. -/
def insertIndex (place i : Nat) : Option Nat := some (if place ≤ i then i + 1 else i)

/-- Where an index goes when a line is deleted; the line itself goes nowhere. -/
def deleteIndex (pivot i : Nat) : Option Nat :=
  if i < pivot then some i else if i = pivot then none else some (i - 1)

structure Lines where
  count : Nat
  sizes : Table Nat Nat := ∅
  hidden : Keys Nat := ∅
  frozen : Nat := 0
  deriving DecidableEq, Inhabited

namespace Lines

def ofCount (count : Nat) : Lines := { count := max count 1 }

def last (l : Lines) : Nat := l.count - 1

def rekey (f : Nat → Option Nat) (l : Lines) : Lines := { l with sizes := l.sizes.rekey f, hidden := l.hidden.rekey f }

def insert (place : Nat) (l : Lines) : Lines :=
  { l.rekey (insertIndex place) with count := l.count + 1, frozen := if place < l.frozen then l.frozen + 1 else l.frozen }

/-- The last line that is left cannot be deleted: the count stays at least one. -/
def delete (pivot : Nat) (l : Lines) : Lines :=
  { l.rekey (deleteIndex pivot) with
    count := max (l.count - 1) 1, frozen := if pivot < l.frozen then l.frozen - 1 else l.frozen }

def setSize (i size : Nat) (l : Lines) : Lines := { l with sizes := l.sizes.insert i (max size 1) }

def hide (first final : Nat) (l : Lines) : Lines := { l with hidden := l.hidden.addAll (Range.span first final) }

def unhide (first final : Nat) (l : Lines) : Lines := { l with hidden := l.hidden.removeAll (Range.span first final) }

def freeze (n : Nat) (l : Lines) : Lines := { l with frozen := min n l.count }

def grow (count : Nat) (l : Lines) : Lines := { l with count := max l.count count }

end Lines

namespace Range

def extent (axis : Axis) (r : Range) : Nat × Nat :=
  match axis with
  | .row => (r.startRow, r.endRow)
  | .col => (r.startCol, r.endCol)

def withExtent (axis : Axis) (e : Nat × Nat) (r : Range) : Range :=
  match axis with
  | .row => { r with startRow := e.1, endRow := e.2 }
  | .col => { r with startCol := e.1, endCol := e.2 }

/-- A range grows when a line is inserted inside it, and moves when one is inserted before it. -/
def extentAfterInsert (place : Nat) (e : Nat × Nat) : Nat × Nat :=
  if place ≤ e.1 then (e.1 + 1, e.2 + 1) else if place ≤ e.2 then (e.1, e.2 + 1) else e

/-- A range is lost with its first line. -/
def extentAfterDelete (pivot : Nat) (e : Nat × Nat) : Option (Nat × Nat) :=
  if e.2 < pivot then some e
  else if pivot < e.1 then some (e.1 - 1, e.2 - 1)
  else if e.1 = e.2 ∨ e.1 = pivot then none
  else some (e.1, e.2 - 1)

def afterInsert (axis : Axis) (place : Nat) (r : Range) : Range := r.withExtent axis (extentAfterInsert place (r.extent axis))

/-- A range that is left with one cell is lost as well. -/
def afterDelete (axis : Axis) (pivot : Nat) (r : Range) : Option Range :=
  ((extentAfterDelete pivot (r.extent axis)).map fun e => r.withExtent axis e).filter fun r => !r.isSingle

end Range

end Spreadsheet
