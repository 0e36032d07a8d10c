import Spreadsheet.Sheet.Structure

/-! Filters and what is shown. A row is not shown when it is hidden, or when filtering is on and some filtered
column does not let its raw value through; hiding and filtering never touch each other. -/
namespace Spreadsheet.Sheet

def isRowFiltered (s : Sheet) (row : Nat) : Bool :=
  s.filterEnabled && s.filters.entries.any fun (col, allowed) => !allowed.contains (s.raw ⟨row, col⟩)

def isRowHidden (s : Sheet) (row : Nat) : Bool := s.rows.hidden.contains row || s.isRowFiltered row

def isColHidden (s : Sheet) (col : Nat) : Bool := s.cols.hidden.contains col

def rowsNotShown (s : Sheet) : Keys Nat :=
  let hidden : Keys Nat := s.rows.hidden.filter fun row _ => row < s.rows.count
  if s.filterEnabled && !s.filters.isEmpty then hidden.addAll ((List.range s.rows.count).filter s.isRowFiltered) else hidden

def visibleRows (s : Sheet) : List Nat := (List.range s.rows.count).filter fun row => !s.isRowHidden row

/-- The raw values of a column in order, those of hidden rows left out. -/
def distinctValues (s : Sheet) (col : Nat) : Keys String :=
  Keys.ofList (((List.range s.rows.count).filter fun row => !s.rows.hidden.contains row).map fun row => s.raw ⟨row, col⟩)

def setFilter (col : Nat) (allowed : Keys String) (s : Sheet) : Sheet :=
  { s with filters := s.filters.insert col allowed, filterEnabled := true }

def clearFilter (col : Nat) (s : Sheet) : Sheet := { s with filters := s.filters.erase col }

def clearAllFilters (s : Sheet) : Sheet := { s with filters := ∅ }

def setFilterEnabled (enabled : Bool) (s : Sheet) : Sheet := { s with filterEnabled := enabled }

def autofitWidth (s : Sheet) (col charWidth padding minWidth : Nat) : Nat :=
  let longest := (s.visibleRows.map fun row => (s.display ⟨row, col⟩).length).foldl max 0
  max (longest * charWidth + padding) minWidth

end Spreadsheet.Sheet
