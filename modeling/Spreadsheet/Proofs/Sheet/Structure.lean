import Mathlib.Data.List.Forall2
import Spreadsheet.Proofs.Sheet.Capacity
import Spreadsheet.Sheet.Structure

/-! Inserting and deleting a line of a sheet. Cells, sizes, hidden lines, filters, merges and the frozen lines all follow
one map of indices, and nothing else changes; deleting a line that was inserted gives the sheet back. The sheet that is
left fits just when there was room for the line, so that words hold all that is computed. -/
namespace Spreadsheet.Sheet

theorem cells_remapGrid (axis : Axis) (f : Nat → Option Nat) (s : Sheet) :
    (s.remapGrid axis f).grid.cells = s.grid.cells.rekey (Position.moved axis f) := by
  cases axis with
  | row =>
    have same : (fun p : Position => (do return ⟨← f p.row, ← some p.col⟩ : Option Position)) = Position.moved .row f := by
      funext p
      cases found : f p.row <;> simp [Position.moved, found]
    simp only [remapGrid, Grid.remap, same]
  | col =>
    have same : (fun p : Position => (do return ⟨← some p.row, ← f p.col⟩ : Option Position)) = Position.moved .col f := by
      funext p
      cases found : f p.col <;> simp [Position.moved, found]
    simp only [remapGrid, Grid.remap, same]

/-- All that is on the lines of an axis follows a map of indices, added lines are empty, merges go with their lines or
are lost, and nothing else changes. -/
structure Follows (axis : Axis) (f : Nat → Option Nat) (added : Nat → Prop) (lost : Range → Prop) (s t : Sheet) :
    Prop where
  cells : s.grid.cells.Follows (Position.moved axis f) (fun p => added (p.line axis)) t.grid.cells
  lines : (s.lines axis).Follows f added (t.lines axis)
  filters : match axis with
    | .row => t.filters = s.filters
    | .col => s.filters.Follows f added t.filters
  merges : ∃ fates, List.Forall₂ (Range.Fate axis f added lost) s.merges fates ∧ t.merges = fates.filterMap id
  others : t.lines axis.other = s.lines axis.other
  name : t.name = s.name
  filterEnabled : t.filterEnabled = s.filterEnabled

section

variable (axis : Axis) (i : Nat) (s : Sheet)

theorem cells_insertLine :
    (s.insertLine axis i).grid.cells = s.grid.cells.rekey (Position.moved axis (insertIndex i)) := by
  rw [← cells_remapGrid]
  cases axis <;> rfl

theorem cells_deleteLine :
    (s.deleteLine axis i).grid.cells = s.grid.cells.rekey (Position.moved axis (deleteIndex i)) := by
  rw [← cells_remapGrid]
  cases axis <;> rfl

theorem lines_insertLine : (s.insertLine axis i).lines axis = (s.lines axis).insert i := by
  cases axis <;> rfl

theorem lines_deleteLine : (s.deleteLine axis i).lines axis = (s.lines axis).delete i := by
  cases axis <;> rfl

theorem merges_insertLine : (s.insertLine axis i).merges = s.merges.map (·.afterInsert axis i) := by
  cases axis <;> rfl

theorem merges_deleteLine : (s.deleteLine axis i).merges = s.merges.filterMap (·.afterDelete axis i) := by
  cases axis <;> rfl

theorem others_insertLine : (s.insertLine axis i).lines axis.other = s.lines axis.other := by
  cases axis <;> rfl

theorem others_deleteLine : (s.deleteLine axis i).lines axis.other = s.lines axis.other := by
  cases axis <;> rfl

end

section Fits

variable {axis : Axis} {place : Nat} {s : Sheet}

theorem fits_iff_axis (axis : Axis) (s : Sheet) : s.Fits ↔
    s.grid.Fits ∧ ((s.lines axis).Fits ∧ (s.lines axis.other).Fits) ∧ (∀ m ∈ s.merges, m.Fits) ∧
      ∀ i ∈ s.filters.keys, i < Text.indexLimit := by
  have filters : (∀ i ∈ s.filters.keys, i < Text.indexLimit) ↔ ∀ e ∈ s.filters.entries, e.1 < Text.indexLimit :=
    List.forall_mem_map
  have parts : s.Fits ↔ s.grid.Fits ∧ (s.rows.Fits ∧ s.cols.Fits) ∧ (∀ m ∈ s.merges, m.Fits) ∧
      ∀ e ∈ s.filters.entries, e.1 < Text.indexLimit := by
    constructor
    · exact fun fits => ⟨fits.grid, ⟨fits.rows, fits.cols⟩, fits.merges, fits.filters⟩
    · rintro ⟨grid, ⟨rows, cols⟩, merges, filters⟩
      exact ⟨grid, rows, cols, merges, filters⟩
  rw [filters, parts]
  cases axis with
  | row => rfl
  | col =>
    rw [and_comm (a := s.rows.Fits)]
    rfl

theorem fits_grid_insertLine_iff : (s.insertLine axis place).grid.Fits ↔
    s.grid.Fits ∧ ∀ p ∈ s.grid.cells.keys, MakesWay place (p.line axis) := by
  have apart := Position.moved_apart axis (insertIndex_apart place)
  simp only [Grid.Fits, cells_insertLine, Table.forall_mem_rekey_iff apart, Position.forall_moved_insertIndex_iff, Table.keys,
    List.forall_mem_map]
  exact forall₂_and

theorem fits_filters_insertLine_iff : (∀ i ∈ (s.insertLine axis place).filters.keys, i < Text.indexLimit) ↔
    (∀ i ∈ s.filters.keys, i < Text.indexLimit) ∧
      (axis = .col → ∀ i ∈ s.filters.keys, MakesWay place i) := by
  cases axis with
  | row => exact ⟨fun low => ⟨low, nofun⟩, fun both => both.1⟩
  | col =>
    have moved := @forall_mem_rekey_insertIndex_iff place (Keys String) s.filters fun _ => True
    rw [← forall_mem_keys_iff, ← forall_mem_keys_iff] at moved
    exact moved.trans (and_congr_right fun _ => ⟨fun room _ => room, fun room => room rfl⟩)

/-- The sheet that inserting a line leaves fits just when there was room for the line in one that fits. -/
theorem fits_insertLine_iff : (s.insertLine axis place).Fits ↔ s.Fits ∧ s.HasRoom axis place := by
  have merges : (∀ m ∈ (s.insertLine axis place).merges, m.Fits) ↔ (∀ m ∈ s.merges, m.Fits) ∧
      ∀ m ∈ s.merges, MakesWay place (m.extent axis).1 ∧ MakesWay place (m.extent axis).2 := by
    simp only [merges_insertLine, List.forall_mem_map, Range.fits_afterInsert_iff]
    exact forall₂_and
  rw [fits_iff_axis axis, fits_iff_axis axis s, fits_grid_insertLine_iff, lines_insertLine, others_insertLine,
    Lines.fits_insert_iff, merges, fits_filters_insertLine_iff]
  constructor
  · rintro ⟨⟨grid, cells⟩, ⟨⟨lines, more⟩, others⟩, ⟨merges, widens⟩, filters, later⟩
    exact ⟨⟨grid, ⟨lines, others⟩, merges, filters⟩, cells, more, widens, later⟩
  · rintro ⟨⟨grid, ⟨lines, others⟩, merges, filters⟩, cells, more, widens, later⟩
    exact ⟨⟨grid, cells⟩, ⟨⟨lines, more⟩, others⟩, ⟨merges, widens⟩, filters, later⟩

theorem Fits.deleteLine (fits : s.Fits) (axis : Axis) (pivot : Nat) : (s.deleteLine axis pivot).Fits := by
  rw [fits_iff_axis axis] at fits ⊢
  obtain ⟨grid, ⟨lines, others⟩, merges, filters⟩ := fits
  rw [lines_deleteLine, others_deleteLine, merges_deleteLine]
  refine ⟨?_, ⟨lines.delete pivot, others⟩, fun m inside => ?_, ?_⟩
  · rw [Grid.Fits, cells_deleteLine, Table.forall_mem_rekey_iff (Position.moved_apart axis (deleteIndex_apart pivot))]
    intro e inside q lands
    exact ⟨(grid e inside).1.moved_deleteIndex lands, (grid e inside).2⟩
  · obtain ⟨old, before, left⟩ := List.mem_filterMap.1 inside
    exact (merges old before).afterDelete left
  · cases axis with
    | row => exact filters
    | col => exact forall_mem_keys_iff.2 (forall_mem_rekey_deleteIndex (fun _ => True) (forall_mem_keys_iff.1 filters))

end Fits

theorem follows_insertLine {s : Sheet} (proper : ∀ m ∈ s.merges, m.Proper) (axis : Axis) (place : Nat) :
    Follows axis (insertIndex place) (· = place) (fun _ => False) s (s.insertLine axis place) := by
  refine ⟨?_, ?_, ?_, ⟨s.merges.map fun m => some (m.afterInsert axis place), ?_, ?_⟩, others_insertLine axis place s, ?_, ?_⟩
  · rw [cells_insertLine]
    refine Table.follows_rekey (Position.moved_apart axis (insertIndex_apart place)) ?_ _
    intro p q lands
    exact insertIndex_vacant place _ _ (Position.line_moved lands).1
  · rw [lines_insertLine]
    exact Lines.follows_insert place _
  · cases axis with
    | row => rfl
    | col => exact Table.follows_rekey (insertIndex_apart place) (insertIndex_vacant place) _
  · rw [List.forall₂_map_right_iff]
    exact List.forall₂_same.2 fun m inside => Range.fate_afterInsert (proper m inside) place
  · rw [merges_insertLine, List.filterMap_map]
    exact (congrFun List.filterMap_eq_map s.merges).symm
  · cases axis <;> rfl
  · cases axis <;> rfl

theorem follows_deleteLine {s : Sheet} (proper : ∀ m ∈ s.merges, m.Proper) (axis : Axis) (pivot : Nat) :
    Follows axis (deleteIndex pivot) (fun _ => False) (Range.LostWith axis pivot) s (s.deleteLine axis pivot) := by
  refine ⟨?_, ?_, ?_, ⟨s.merges.map fun m => m.afterDelete axis pivot, ?_, ?_⟩, others_deleteLine axis pivot s, ?_, ?_⟩
  · rw [cells_deleteLine]
    exact Table.follows_rekey (Position.moved_apart axis (deleteIndex_apart pivot)) (fun _ _ _ => id) _
  · rw [lines_deleteLine]
    exact Lines.follows_delete pivot _
  · cases axis with
    | row => rfl
    | col => exact Table.follows_rekey (deleteIndex_apart pivot) (fun _ _ _ => id) _
  · rw [List.forall₂_map_right_iff]
    exact List.forall₂_same.2 fun m inside => Range.fate_afterDelete (proper m inside) pivot
  · rw [merges_deleteLine, List.filterMap_map]
    rfl
  · cases axis <;> rfl
  · cases axis <;> rfl

/-- On a sheet that fits, inserting and deleting a line move all that is on the lines of the axis by one map of indices each,
and leave a sheet that fits, where there is room for the line that is inserted. No merge is lost to an insertion, and
deletions take those that start on the line or would be left with one cell. -/
theorem follows_insertLine_and_deleteLine {s : Sheet} (fits : s.Fits) (proper : ∀ m ∈ s.merges, m.Proper) (axis : Axis)
    (i : Nat) :
    (s.HasRoom axis i →
        Follows axis (insertIndex i) (· = i) (fun _ => False) s (s.insertLine axis i) ∧ (s.insertLine axis i).Fits) ∧
      Follows axis (deleteIndex i) (fun _ => False) (Range.LostWith axis i) s (s.deleteLine axis i) ∧
      (s.deleteLine axis i).Fits :=
  ⟨fun room => ⟨follows_insertLine proper axis i, fits_insertLine_iff.2 ⟨fits, room⟩⟩,
    follows_deleteLine proper axis i, fits.deleteLine axis i⟩

/-- Merges beside, across and from the third column on, which is sized, filtered and frozen. -/
def crossed : Sheet where
  name := "Crossed"
  grid := ((({} : Grid).setValue ⟨0, 1⟩ "before").setValue ⟨0, 2⟩ "on").setValue ⟨9, 30⟩ "outside"
  rows := { count := 6, sizes := .insert ∅ 2 40, hidden := .ofList [1, 2], frozen := 1 }
  cols := { count := 5, sizes := .insert (.insert ∅ 2 90) 3 70, hidden := .ofList [3], frozen := 3 }
  merges := [⟨0, 0, 1, 1⟩, ⟨2, 1, 2, 3⟩, ⟨3, 2, 4, 4⟩, ⟨5, 1, 5, 2⟩, ⟨0, 3, 1, 3⟩]
  filterEnabled := true
  filters := .insert (.insert ∅ 2 (.ofList ["on"])) 4 (.ofList [])

theorem follows_crossed :
    (crossed.Fits ∧ (∀ m ∈ crossed.merges, m.Proper) ∧ crossed.HasRoom .col 2) ∧
      (crossed.insertLine .col 2).merges = [⟨0, 0, 1, 1⟩, ⟨2, 1, 2, 4⟩, ⟨3, 3, 4, 5⟩, ⟨5, 1, 5, 3⟩, ⟨0, 4, 1, 4⟩] ∧
      (crossed.deleteLine .col 2).merges = [⟨0, 0, 1, 1⟩, ⟨2, 1, 2, 2⟩, ⟨0, 2, 1, 2⟩] ∧
      (Follows .col (insertIndex 2) (· = 2) (fun _ => False) crossed (crossed.insertLine .col 2) ∧
        (crossed.insertLine .col 2).Fits) ∧
      Follows .col (deleteIndex 2) (fun _ => False) (Range.LostWith .col 2) crossed (crossed.deleteLine .col 2) ∧
      (crossed.deleteLine .col 2).Fits := by
  have fits : crossed.Fits := by decide +kernel
  have proper : ∀ m ∈ crossed.merges, m.Proper := by decide
  have room : crossed.HasRoom .col 2 := by decide +kernel
  obtain ⟨inserted, deleted⟩ := follows_insertLine_and_deleteLine fits proper .col 2
  exact ⟨⟨fits, proper, room⟩, by decide, by decide, inserted room, deleted⟩

/-- Sheets are equal when they hold the same along one axis and along the other. -/
theorem eq_of_axis (axis : Axis) {s t : Sheet} (name : t.name = s.name) (cells : t.grid.cells = s.grid.cells)
    (lines : t.lines axis = s.lines axis) (others : t.lines axis.other = s.lines axis.other)
    (merges : t.merges = s.merges) (filterEnabled : t.filterEnabled = s.filterEnabled)
    (filters : t.filters = s.filters) : t = s := by
  obtain ⟨_, ⟨_⟩, _, _, _, _, _⟩ := s
  obtain ⟨_, ⟨_⟩, _, _, _, _, _⟩ := t
  cases axis <;> simp_all [Sheet.lines, Axis.other]

/-- Where merges are ranges of several cells, deleting a line that was inserted, there being room for it, gives back a sheet
with a row and a column, wherever the line is. -/
theorem deleteLine_insertLine {s : Sheet} (fits : s.Fits) (rows : 0 < s.rows.count) (cols : 0 < s.cols.count)
    (proper : ∀ m ∈ s.merges, m.Proper) {axis : Axis} {place : Nat} (room : s.HasRoom axis place) :
    (s.insertLine axis place).Fits ∧ (s.insertLine axis place).deleteLine axis place = s := by
  refine ⟨fits_insertLine_iff.2 ⟨fits, room⟩, ?_⟩
  have positive : 0 < (s.lines axis).count := by cases axis <;> assumption
  have back := deleteIndex_insertIndex place
  apply eq_of_axis axis
  · cases axis <;> rfl
  · rw [cells_deleteLine, cells_insertLine]
    exact Table.rekey_rekey (Position.moved_apart axis (insertIndex_apart place))
      (Position.moved_apart axis (deleteIndex_apart place)) (Position.moved_moved axis back) _
  · rw [lines_deleteLine, lines_insertLine, Lines.delete_insert positive]
  · rw [others_deleteLine, others_insertLine]
  · rw [merges_deleteLine, merges_insertLine, List.filterMap_map]
    refine (List.filterMap_congr ?_).trans List.filterMap_some
    intro m inside
    exact Range.afterDelete_afterInsert (proper m inside) place
  · cases axis <;> rfl
  · cases axis with
    | row => rfl
    | col => exact Table.rekey_rekey (insertIndex_apart place) (deleteIndex_apart place) back _

theorem deleteLine_insertLine_crossed :
    (crossed.Fits ∧ crossed.HasRoom .col 2) ∧
      (0 < crossed.rows.count ∧ 0 < crossed.cols.count ∧ ∀ m ∈ crossed.merges, m.Proper) ∧
      crossed.insertLine .col 2 ≠ crossed ∧ (crossed.insertLine .col 2).deleteLine .col 2 = crossed := by
  have fits : crossed.Fits := by decide +kernel
  have room : crossed.HasRoom .col 2 := by decide +kernel
  exact ⟨⟨fits, room⟩, by decide, by decide, (deleteLine_insertLine fits (by decide) (by decide) (by decide) room).2⟩

end Spreadsheet.Sheet
