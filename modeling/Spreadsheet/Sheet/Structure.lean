import Spreadsheet.Sheet.Basic

/-! Changing the layout of a sheet: inserting and deleting lines, hiding and freezing them, and merging cells.
Cells, sizes, hidden lines, filters and merges all follow the same map of indices. -/
namespace Spreadsheet.Sheet

def remapGrid (axis : Axis) (f : Nat → Option Nat) (s : Sheet) : Sheet :=
  match axis with
  | .row => { s with grid := s.grid.remap f some }
  | .col => { s with grid := s.grid.remap some f, filters := s.filters.rekey f }

def insertLine (axis : Axis) (place : Nat) (s : Sheet) : Sheet :=
  let moved := (s.remapGrid axis (insertIndex place)).mapLines axis (·.insert place)
  { moved with merges := s.merges.map (·.afterInsert axis place) }

def deleteLine (axis : Axis) (pivot : Nat) (s : Sheet) : Sheet :=
  let moved := (s.remapGrid axis (deleteIndex pivot)).mapLines axis (·.delete pivot)
  { moved with merges := s.merges.filterMap (·.afterDelete axis pivot) }

def setSize (axis : Axis) (i size : Nat) : Sheet → Sheet := mapLines axis (·.setSize i size)

def hide (axis : Axis) (first final : Nat) : Sheet → Sheet := mapLines axis (·.hide first final)

def unhide (axis : Axis) (first final : Nat) : Sheet → Sheet := mapLines axis (·.unhide first final)

def freeze (axis : Axis) (n : Nat) : Sheet → Sheet := mapLines axis (·.freeze n)

def mergeAt (s : Sheet) (p : Position) : Option Range := s.merges.find? (·.contains p)

/-- Merges a range of more than one cell: merges that touch it are dissolved, and all its cells but the first
lose their values. The answer says whether it was merged. -/
def merge (r : Range) (s : Sheet) : Bool × Sheet :=
  if r.isSingle then (false, s)
  else
    let cleared := (r.cells.filter (· ≠ r.origin)).foldl (fun s p => s.setValue p "") s
    (true, { cleared with merges := s.merges.filter (fun m => !m.intersects r) ++ [r] })

def unmerge (p : Position) (s : Sheet) : Bool × Sheet :=
  (s.merges.any (·.contains p), { s with merges := s.merges.filter fun m => !m.contains p })

end Spreadsheet.Sheet
