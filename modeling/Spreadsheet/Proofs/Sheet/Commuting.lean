import Spreadsheet.Proofs.Sheet.Merges

/-! Inserting and deleting lines in another order. On different axes any two changes commute, and on one axis the later
line is changed first or, with its index moved, last. Cells, sizes, hidden lines and filters go by the maps of indices,
which commute in this way; a merge that is lost on the way is lost in the other order as well, for a range that has come
down to one line never widens again. Where there is room for the lines in one order, there is in the other. -/
namespace Spreadsheet

theorem insertIndex_insertIndex {i j : Nat} (before : i ≤ j) (k : Nat) :
    (insertIndex j k).bind (insertIndex i) = (insertIndex i k).bind (insertIndex (j + 1)) := by
  grind [insertIndex]

theorem deleteIndex_deleteIndex {i j : Nat} (before : i < j) (k : Nat) :
    (deleteIndex j k).bind (deleteIndex i) = (deleteIndex i k).bind (deleteIndex (j - 1)) := by
  grind [deleteIndex]

namespace Range

variable {x y : Nat × Nat} {i j : Nat}

theorem extentAfterInsert_comm (ordered : x.1 ≤ x.2) (before : i ≤ j) :
    extentAfterInsert i (extentAfterInsert j x) = extentAfterInsert (j + 1) (extentAfterInsert i x) := by
  simp only [extentAfterInsert]
  grind

/-- Where the last line of a range goes when a line is deleted, also if it is that line. -/
def lastAfterDelete (pivot last : Nat) : Nat := if pivot ≤ last then last - 1 else last

theorem lastAfterDelete_comm (before : i < j) (last : Nat) :
    lastAfterDelete i (lastAfterDelete j last) = lastAfterDelete (j - 1) (lastAfterDelete i last) := by
  simp only [lastAfterDelete]
  grind

theorem extentAfterDelete_eq (ordered : x.1 ≤ x.2) (pivot : Nat) :
    extentAfterDelete pivot x = (deleteIndex pivot x.1).map fun first => (first, lastAfterDelete pivot x.2) := by
  simp only [extentAfterDelete, deleteIndex, lastAfterDelete]
  grind

theorem ordered_of_extentAfterDelete (ordered : x.1 ≤ x.2) {pivot : Nat} (lands : extentAfterDelete pivot x = some y) :
    y.1 ≤ y.2 := by
  simp only [extentAfterDelete] at lands
  grind

theorem extentAfterDelete_bind (ordered : x.1 ≤ x.2) (i j : Nat) :
    (extentAfterDelete i x).bind (extentAfterDelete j) =
      ((deleteIndex i x.1).bind (deleteIndex j)).map fun first => (first, lastAfterDelete j (lastAfterDelete i x.2)) := by
  have moved := extentAfterDelete_eq ordered i
  cases found : deleteIndex i x.1 with
  | none =>
    rw [found] at moved
    rw [moved]
    rfl
  | some first =>
    rw [found] at moved
    have left := ordered_of_extentAfterDelete ordered moved
    rw [moved, Option.map_some, Option.bind_some, extentAfterDelete_eq left, Option.bind_some]

theorem extentAfterDelete_comm (ordered : x.1 ≤ x.2) (before : i < j) :
    (extentAfterDelete j x).bind (extentAfterDelete i) = (extentAfterDelete i x).bind (extentAfterDelete (j - 1)) := by
  rw [extentAfterDelete_bind ordered, extentAfterDelete_bind ordered, deleteIndex_deleteIndex before,
    lastAfterDelete_comm before]

end Range

/-- A line that is inserted or deleted. -/
inductive LineEdit
  | insert (place : Nat)
  | delete (pivot : Nat)

namespace LineEdit

def index : LineEdit → Nat → Option Nat
  | insert place => insertIndex place
  | delete pivot => deleteIndex pivot

def lines : LineEdit → Lines → Lines
  | insert place => Lines.insert place
  | delete pivot => Lines.delete pivot

def extent : LineEdit → Nat × Nat → Option (Nat × Nat)
  | insert place => fun e => some (Range.extentAfterInsert place e)
  | delete pivot => Range.extentAfterDelete pivot

def range (axis : Axis) : LineEdit → Range → Option Range
  | insert place => fun r => some (r.afterInsert axis place)
  | delete pivot => Range.afterDelete axis pivot

def apply (axis : Axis) : LineEdit → Sheet → Sheet
  | insert place => Sheet.insertLine axis place
  | delete pivot => Sheet.deleteLine axis pivot

/-- Is there room for the line that is inserted? Deleting needs none. -/
def HasRoom (axis : Axis) : LineEdit → Sheet → Prop
  | insert place => Sheet.HasRoom axis place
  | delete _ => fun _ => True

/-- The range on other lines of the axis, if it is not lost with its first one. -/
def reshape (axis : Axis) (d : LineEdit) (r : Range) : Option Range := (d.extent (r.extent axis)).map fun e => r.withExtent axis e

variable {d e d' e' : LineEdit} {axis : Axis} {r t : Range}

theorem index_apart (d : LineEdit) : ∀ i j k, d.index i = some k → d.index j = some k → i = j := by
  cases d with
  | insert place => exact insertIndex_apart place
  | delete pivot => exact deleteIndex_apart pivot

section Ranges

theorem single_of_extent {x y : Nat × Nat} (lands : d.extent x = some y) (single : x.1 = x.2) : y.1 = y.2 := by
  cases d with
  | insert place =>
    obtain rfl := Option.some.inj lands
    simp only [Range.extentAfterInsert]
    grind
  | delete pivot =>
    simp only [extent, Range.extentAfterDelete] at lands
    grind

theorem isSingle_of_reshape (lands : d.reshape axis r = some t) (single : r.isSingle = true) : t.isSingle = true := by
  obtain ⟨x, moved, rfl⟩ := Option.map_eq_some_iff.1 lands
  rw [Range.isSingle_iff axis] at single ⊢
  rw [Range.extent_withExtent, Range.extent_other_withExtent]
  exact ⟨single_of_extent moved single.1, single.2⟩

theorem range_eq (proper : r.Proper) (axis : Axis) (d : LineEdit) :
    d.range axis r = (d.reshape axis r).filter fun t => !t.isSingle := by
  cases d with
  | insert place =>
    have several := (proper.afterInsert axis place).several
    change some (r.afterInsert axis place) = (some (r.afterInsert axis place)).filter _
    simp [Option.filter_some, several]
  | delete pivot => rfl

theorem proper_of_range (proper : r.Proper) (left : d.range axis r = some t) : t.Proper := by
  cases d with
  | insert place =>
    obtain rfl := Option.some.inj left
    exact proper.afterInsert axis place
  | delete pivot => exact proper.afterDelete left

/-- It is the same to look for single cells once, after both changes. -/
theorem range_range (proper : r.Proper) (axis axis' : Axis) (d e : LineEdit) :
    (d.range axis r).bind (e.range axis') =
      ((d.reshape axis r).bind (e.reshape axis')).filter fun t => !t.isSingle := by
  have kept := range_eq proper axis d
  cases moved : d.reshape axis r with
  | none =>
    rw [moved] at kept
    rw [kept]
    rfl
  | some t =>
    rw [moved] at kept
    cases single : t.isSingle with
    | false =>
      have left : d.range axis r = some t := by simp [kept, Option.filter_some, single]
      rw [left]
      exact range_eq (proper_of_range proper left) axis' e
    | true =>
      have lost : d.range axis r = none := by simp [kept, Option.filter_some, single]
      rw [lost, Option.bind_none, Option.bind_some]
      cases last : e.reshape axis' t with
      | none => rfl
      | some u => simp [Option.filter_some, isSingle_of_reshape last single]

theorem reshape_reshape (axis : Axis) (d e : LineEdit) (r : Range) : (d.reshape axis r).bind (e.reshape axis) =
    ((d.extent (r.extent axis)).bind e.extent).map fun x => r.withExtent axis x := by
  cases moved : d.extent (r.extent axis) with
  | none => simp [reshape, moved]
  | some x => simp [reshape, moved]

/-- The lines of one axis do not bear on those of the other. -/
theorem reshape_comm (axis : Axis) (d e : LineEdit) (r : Range) :
    (d.reshape axis r).bind (e.reshape axis.other) = (e.reshape axis.other r).bind (d.reshape axis) := by
  have same (y : Nat × Nat) : (r.withExtent axis.other y).extent axis = r.extent axis := by cases axis <;> rfl
  have swap (x y : Nat × Nat) :
      (r.withExtent axis x).withExtent axis.other y = (r.withExtent axis.other y).withExtent axis x := by
    cases axis <;> rfl
  cases first : d.extent (r.extent axis) <;> cases second : e.extent (r.extent axis.other) <;>
    simp [reshape, first, second, same, swap]

end Ranges

section Sheets

variable (axis : Axis) (d : LineEdit) (s : Sheet)

theorem cells_apply : (d.apply axis s).grid.cells = s.grid.cells.rekey (Position.moved axis d.index) := by
  cases d with
  | insert place => exact Sheet.cells_insertLine axis place s
  | delete pivot => exact Sheet.cells_deleteLine axis pivot s

theorem lines_apply : (d.apply axis s).lines axis = d.lines (s.lines axis) := by
  cases d with
  | insert place => exact Sheet.lines_insertLine axis place s
  | delete pivot => exact Sheet.lines_deleteLine axis pivot s

theorem others_apply : (d.apply axis s).lines axis.other = s.lines axis.other := by
  cases d with
  | insert place => exact Sheet.others_insertLine axis place s
  | delete pivot => exact Sheet.others_deleteLine axis pivot s

theorem merges_apply : (d.apply axis s).merges = s.merges.filterMap (d.range axis) := by
  cases d with
  | insert place =>
    rw [apply, Sheet.merges_insertLine]
    exact (congrFun List.filterMap_eq_map s.merges).symm
  | delete pivot => exact Sheet.merges_deleteLine axis pivot s

theorem filters_apply : (d.apply axis s).filters =
    match axis with
    | .row => s.filters
    | .col => s.filters.rekey d.index := by
  cases d <;> cases axis <;> rfl

theorem name_apply : (d.apply axis s).name = s.name := by
  cases d <;> cases axis <;> rfl

theorem filterEnabled_apply : (d.apply axis s).filterEnabled = s.filterEnabled := by
  cases d <;> cases axis <;> rfl

theorem cells_apply_apply (axis' : Axis) (e : LineEdit) : (e.apply axis' (d.apply axis s)).grid.cells =
    s.grid.cells.rekey fun p => (p.moved axis d.index).bind (Position.moved axis' e.index) := by
  rw [cells_apply, cells_apply]
  exact Table.rekey_bind (Position.moved_apart _ d.index_apart) (Position.moved_apart _ e.index_apart) _

theorem merges_apply_apply (axis' : Axis) (e : LineEdit) : (e.apply axis' (d.apply axis s)).merges =
    s.merges.filterMap fun m => (d.range axis m).bind (e.range axis') := by
  rw [merges_apply, merges_apply, List.filterMap_filterMap]

end Sheets

theorem moved_moved_comm (axis : Axis) (d e : LineEdit) (p : Position) :
    (p.moved axis d.index).bind (Position.moved axis.other e.index) =
      (p.moved axis.other e.index).bind (Position.moved axis d.index) := by
  cases axis with
  | row => cases first : d.index p.row <;> cases second : e.index p.col <;> simp [Position.moved, Axis.other, first, second]
  | col => cases first : d.index p.col <;> cases second : e.index p.row <;> simp [Position.moved, Axis.other, first, second]

theorem fits_apply {s : Sheet} (fits : s.Fits) (room : d.HasRoom axis s) : (d.apply axis s).Fits := by
  cases d with
  | insert place => exact Sheet.fits_insertLine_iff.2 ⟨fits, room⟩
  | delete pivot => exact fits.deleteLine axis pivot

theorem extent_other_of_range (left : d.range axis r = some t) : t.extent axis.other = r.extent axis.other := by
  cases d with
  | insert place =>
    obtain rfl := Option.some.inj left
    exact Range.extent_other_withExtent axis _ r
  | delete pivot =>
    obtain ⟨_, _, rfl, _⟩ := Range.afterDelete_eq_some_iff.1 left
    exact Range.extent_other_withExtent axis _ r

/-- A change of one axis takes no room for lines of the other. -/
theorem hasRoom_apply (axis : Axis) {s : Sheet} (room : e.HasRoom axis.other s) (d : LineEdit) :
    e.HasRoom axis.other (d.apply axis s) := by
  cases e with
  | delete pivot => trivial
  | insert place =>
    refine ⟨fun p inside => ?_, ?_, fun m inside => ?_, fun across => ?_⟩
    · rw [cells_apply] at inside
      obtain ⟨⟨_, c⟩, entry, rfl⟩ := List.mem_map.1 inside
      obtain ⟨q, lands, entry⟩ := (Table.mem_rekey_iff (Position.moved_apart axis d.index_apart)).1 entry
      rw [← (Position.line_moved lands).2]
      exact room.cells q (List.mem_map_of_mem entry)
    · rw [others_apply]
      exact room.lines
    · rw [merges_apply] at inside
      obtain ⟨old, before, left⟩ := List.mem_filterMap.1 inside
      rw [extent_other_of_range left]
      exact room.merges old before
    · rw [filters_apply]
      cases axis with
      | row => exact room.filters across
      | col => cases across

/-- Changes of different axes are the same in both orders. -/
theorem apply_comm (axis : Axis) (d e : LineEdit) {s : Sheet} (proper : ∀ m ∈ s.merges, m.Proper) :
    e.apply axis.other (d.apply axis s) = d.apply axis (e.apply axis.other s) := by
  have first := others_apply axis.other e
  rw [Axis.other_other] at first
  apply Sheet.eq_of_axis axis
  · simp only [name_apply]
  · rw [cells_apply_apply, cells_apply_apply]
    exact congrArg (Table.rekey · s.grid.cells) (funext fun p => moved_moved_comm axis d e p)
  · rw [lines_apply, first, first, lines_apply]
  · rw [lines_apply, others_apply, others_apply, lines_apply]
  · rw [merges_apply_apply, merges_apply_apply]
    apply List.filterMap_congr
    intro m inside
    rw [range_range (proper m inside), range_range (proper m inside), reshape_comm]
  · simp only [filterEnabled_apply]
  · cases axis <;> simp only [filters_apply, Axis.other]

/-- Two changes and two others that do the same to the lines of an axis. -/
structure Exchange (d e d' e' : LineEdit) : Prop where
  index : ∀ i, (d.index i).bind e.index = (d'.index i).bind e'.index
  extent : ∀ x, x.1 ≤ x.2 → (d.extent x).bind e.extent = (d'.extent x).bind e'.extent
  count : ∀ l, (e.lines (d.lines l)).count = (e'.lines (d'.lines l)).count
  frozen : ∀ l, (e.lines (d.lines l)).frozen = (e'.lines (d'.lines l)).frozen

theorem sizes_lines (d : LineEdit) (l : Lines) : (d.lines l).sizes = l.sizes.rekey d.index := by
  cases d <;> rfl

theorem hidden_lines (d : LineEdit) (l : Lines) : (d.lines l).hidden = l.hidden.rekey d.index := by
  cases d <;> rfl

namespace Exchange

variable (same : Exchange d e d' e')
include same

theorem rekey {α : Type} (t : Table Nat α) : (t.rekey d.index).rekey e.index = (t.rekey d'.index).rekey e'.index := by
  rw [Table.rekey_bind d.index_apart e.index_apart, Table.rekey_bind d'.index_apart e'.index_apart]
  exact congrArg (Table.rekey · t) (funext same.index)

theorem lines (l : Lines) : e.lines (d.lines l) = e'.lines (d'.lines l) := by
  have sizes : (e.lines (d.lines l)).sizes = (e'.lines (d'.lines l)).sizes := by
    simp only [sizes_lines]
    exact same.rekey l.sizes
  have hidden : (e.lines (d.lines l)).hidden = (e'.lines (d'.lines l)).hidden := by
    simp only [hidden_lines]
    exact same.rekey l.hidden
  have count := same.count l
  have frozen := same.frozen l
  cases first : e.lines (d.lines l)
  cases second : e'.lines (d'.lines l)
  simp_all

theorem moved (axis : Axis) (p : Position) : (p.moved axis d.index).bind (Position.moved axis e.index) =
    (p.moved axis d'.index).bind (Position.moved axis e'.index) := by
  have along (f g : Nat → Option Nat) :
      (p.moved axis f).bind (Position.moved axis g) = p.moved axis fun i => (f i).bind g := by
    cases axis with
    | row => cases found : f p.row <;> simp [Position.moved, found]
    | col => cases found : f p.col <;> simp [Position.moved, found]
  rw [along, along, funext same.index]

theorem range (proper : r.Proper) (axis : Axis) :
    (d.range axis r).bind (e.range axis) = (d'.range axis r).bind (e'.range axis) := by
  have ordered := ((Range.proper_iff axis r).1 proper).1
  rw [range_range proper, range_range proper, reshape_reshape, reshape_reshape, same.extent _ ordered]

theorem apply (axis : Axis) {s : Sheet} (proper : ∀ m ∈ s.merges, m.Proper) :
    e.apply axis (d.apply axis s) = e'.apply axis (d'.apply axis s) := by
  apply Sheet.eq_of_axis axis
  · simp only [name_apply]
  · rw [cells_apply_apply, cells_apply_apply]
    exact congrArg (Table.rekey · s.grid.cells) (funext fun p => same.moved axis p)
  · simp only [lines_apply]
    exact same.lines _
  · simp only [others_apply]
  · rw [merges_apply_apply, merges_apply_apply]
    apply List.filterMap_congr
    intro m inside
    exact same.range (proper m inside) axis
  · simp only [filterEnabled_apply]
  · cases axis with
    | row => simp only [filters_apply]
    | col =>
      simp only [filters_apply]
      exact same.rekey s.filters

end Exchange

theorem exchange_insert {i j : Nat} (before : i ≤ j) : Exchange (insert j) (insert i) (insert i) (insert (j + 1)) where
  index := insertIndex_insertIndex before
  extent _ ordered := congrArg some (Range.extentAfterInsert_comm ordered before)
  count _ := rfl
  frozen l := by
    simp only [lines, Lines.insert]
    grind

theorem exchange_delete {i j : Nat} (before : i < j) : Exchange (delete j) (delete i) (delete i) (delete (j - 1)) where
  index := deleteIndex_deleteIndex before
  extent _ ordered := Range.extentAfterDelete_comm ordered before
  count _ := rfl
  frozen l := by
    simp only [lines, Lines.delete]
    grind

end LineEdit

namespace Sheet

/-- On a sheet that fits, where merges are ranges of several cells and there is room for what is inserted: changes of rows
commute with changes of columns, and lines of one axis are inserted or deleted in either order, the later one with its index
moved if it comes last. In the other order there is room as well. -/
theorem line_edits_commute {s : Sheet} (fits : s.Fits) (proper : ∀ m ∈ s.merges, m.Proper) :
    (∀ d e : LineEdit, d.HasRoom .row s → e.HasRoom .col s →
        (e.HasRoom .col (d.apply .row s) ∧ d.HasRoom .row (e.apply .col s)) ∧
          e.apply .col (d.apply .row s) = d.apply .row (e.apply .col s)) ∧
      ∀ axis i j,
        (i ≤ j → j + 1 < Text.indexLimit → s.HasRoom axis j → (s.insertLine axis j).HasRoom axis i →
          (s.HasRoom axis i ∧ (s.insertLine axis i).HasRoom axis (j + 1)) ∧
            (s.insertLine axis j).insertLine axis i = (s.insertLine axis i).insertLine axis (j + 1)) ∧
        (i < j → (s.deleteLine axis j).deleteLine axis i = (s.deleteLine axis i).deleteLine axis (j - 1)) := by
  refine ⟨fun d e room room' => ⟨⟨?_, ?_⟩, d.apply_comm .row e proper⟩, fun axis i j => ⟨fun before _ room room' => ?_,
    fun before => (LineEdit.exchange_delete before).apply axis proper⟩⟩
  · exact LineEdit.hasRoom_apply .row room' d
  · exact LineEdit.hasRoom_apply .col room e
  · have same : (s.insertLine axis j).insertLine axis i = (s.insertLine axis i).insertLine axis (j + 1) :=
      (LineEdit.exchange_insert before).apply axis proper
    have fits' := fits_insertLine_iff.2 ⟨fits_insertLine_iff.2 ⟨fits, room⟩, room'⟩
    rw [same] at fits'
    -- the sheet that is left is the same in both orders, and it tells of the room that there was
    obtain ⟨first, second⟩ := fits_insertLine_iff.1 fits'
    exact ⟨⟨(fits_insertLine_iff.1 first).2, second⟩, same⟩

theorem line_edits_commute_crossed :
    (crossed.Fits ∧ (∀ m ∈ crossed.merges, m.Proper) ∧ crossed.HasRoom .col 2 ∧
        (crossed.insertLine .col 2).HasRoom .col 2) ∧
      (crossed.deleteLine .row 4).merges = [⟨0, 0, 1, 1⟩, ⟨2, 1, 2, 3⟩, ⟨3, 2, 3, 4⟩, ⟨4, 1, 4, 2⟩, ⟨0, 3, 1, 3⟩] ∧
      ((crossed.deleteLine .row 4).deleteLine .col 2).merges = [⟨0, 0, 1, 1⟩, ⟨2, 1, 2, 2⟩, ⟨0, 2, 1, 2⟩] ∧
      (crossed.deleteLine .row 4).insertLine .col 2 = (crossed.insertLine .col 2).deleteLine .row 4 ∧
      (crossed.insertLine .col 2).insertLine .col 2 = (crossed.insertLine .col 2).insertLine .col 3 ∧
      (crossed.deleteLine .col 3).deleteLine .col 2 = (crossed.deleteLine .col 2).deleteLine .col 2 := by
  have fits : crossed.Fits := by decide +kernel
  have proper : ∀ m ∈ crossed.merges, m.Proper := by decide
  have room : crossed.HasRoom .col 2 := by decide +kernel
  have room' : (crossed.insertLine .col 2).HasRoom .col 2 := by decide +kernel
  obtain ⟨across, along⟩ := line_edits_commute fits proper
  exact ⟨⟨fits, proper, room, room'⟩, by decide, by decide, (across (.delete 4) (.insert 2) trivial room).2,
    ((along .col 2 2).1 (Nat.le_refl 2) (by decide) room room').2, (along .col 2 3).2 (Nat.lt_succ_self 2)⟩

end Sheet

end Spreadsheet
