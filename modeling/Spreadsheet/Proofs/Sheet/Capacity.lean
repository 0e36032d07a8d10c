import Spreadsheet.Proofs.Run
import Spreadsheet.Proofs.Sheet.Lines
import Spreadsheet.Sheet.Edit
import Spreadsheet.Workbook

/-! Numbers that words can hold. Indices, counts and sizes are natural numbers and have no end, while words of sixty-four
and of thirty-two bits do. A sheet fits where all its numbers are below these limits. What can take one of them to its limit
is a sum: inserting a line adds one to the count and to the indices from the line on, and there is room for the line where
none of these sums gets there. Deleting only takes away, and needs no room. Along a run, the sums that an edit takes are
numbers of the sheet that it leaves; so none gets to the limit where all the sheets of the run fit. -/
namespace Spreadsheet

open Text

/-- Is the size of the font one that can be read? -/
def Cell.Fits (c : Cell) : Prop := ∀ n ∈ c.fontSize, n < sizeLimit

instance (c : Cell) : Decidable c.Fits := inferInstanceAs (Decidable (∀ n ∈ c.fontSize, n < sizeLimit))

/-- Are row and column indices that can be read? -/
def Position.Fits (p : Position) : Prop := p.row < indexLimit ∧ p.col < indexLimit

instance (p : Position) : Decidable p.Fits := inferInstanceAs (Decidable (_ ∧ _))

namespace Range

/-- Are the corners indices that can be read? -/
structure Fits (r : Range) : Prop where
  startRow : r.startRow < indexLimit
  startCol : r.startCol < indexLimit
  endRow : r.endRow < indexLimit
  endCol : r.endCol < indexLimit

instance (r : Range) : Decidable r.Fits :=
  decidable_of_iff ((r.startRow < indexLimit ∧ r.startCol < indexLimit) ∧ r.endRow < indexLimit ∧ r.endCol < indexLimit)
    ⟨fun ⟨⟨a, b⟩, c, d⟩ => ⟨a, b, c, d⟩, fun ⟨a, b, c, d⟩ => ⟨⟨a, b⟩, c, d⟩⟩

end Range

def Grid.Fits (g : Grid) : Prop := ∀ e ∈ g.cells.entries, e.1.Fits ∧ e.2.Fits

instance (g : Grid) : Decidable g.Fits := inferInstanceAs (Decidable (∀ e ∈ g.cells.entries, e.1.Fits ∧ e.2.Fits))

/-- An index that makes way for a line has one after it. -/
abbrev MakesWay (place i : Nat) : Prop := place ≤ i → i + 1 < indexLimit

namespace Lines

/-- Are the counts, indices and sizes of the lines numbers that can be read? -/
structure Fits (l : Lines) : Prop where
  count : l.count < indexLimit
  sizes : ∀ e ∈ l.sizes.entries, e.1 < indexLimit ∧ e.2 < sizeLimit
  hidden : ∀ i ∈ l.hidden.toList, i < indexLimit
  frozen : l.frozen < indexLimit

instance (l : Lines) : Decidable l.Fits :=
  decidable_of_iff ((l.count < indexLimit ∧ ∀ e ∈ l.sizes.entries, e.1 < indexLimit ∧ e.2 < sizeLimit) ∧
      (∀ i ∈ l.hidden.toList, i < indexLimit) ∧ l.frozen < indexLimit)
    ⟨fun ⟨⟨a, b⟩, c, d⟩ => ⟨a, b, c, d⟩, fun ⟨a, b, c, d⟩ => ⟨⟨a, b⟩, c, d⟩⟩

/-- There can be one more line, and every index that makes way for it has one after it. -/
structure HasRoom (place : Nat) (l : Lines) : Prop where
  count : l.count + 1 < indexLimit
  sizes : ∀ i ∈ l.sizes.keys, MakesWay place i
  hidden : ∀ i ∈ l.hidden.toList, MakesWay place i
  frozen : place < l.frozen → l.frozen + 1 < indexLimit

instance (place : Nat) (l : Lines) : Decidable (l.HasRoom place) :=
  decidable_of_iff ((l.count + 1 < indexLimit ∧ ∀ i ∈ l.sizes.keys, MakesWay place i) ∧
      (∀ i ∈ l.hidden.toList, MakesWay place i) ∧ (place < l.frozen → l.frozen + 1 < indexLimit))
    ⟨fun ⟨⟨a, b⟩, c, d⟩ => ⟨a, b, c, d⟩, fun ⟨a, b, c, d⟩ => ⟨⟨a, b⟩, c, d⟩⟩

end Lines

namespace Sheet

structure Fits (s : Sheet) : Prop where
  grid : s.grid.Fits
  rows : s.rows.Fits
  cols : s.cols.Fits
  merges : ∀ r ∈ s.merges, r.Fits
  filters : ∀ e ∈ s.filters.entries, e.1 < indexLimit

instance (s : Sheet) : Decidable s.Fits :=
  decidable_of_iff (s.grid.Fits ∧ (s.rows.Fits ∧ s.cols.Fits) ∧ (∀ r ∈ s.merges, r.Fits) ∧ ∀ e ∈ s.filters.entries, e.1 < indexLimit)
    ⟨fun ⟨a, ⟨b, c⟩, d, e⟩ => ⟨a, b, c, d, e⟩, fun ⟨a, b, c, d, e⟩ => ⟨a, ⟨b, c⟩, d, e⟩⟩

/-- No sum that inserting a line takes gets to the limit. -/
structure HasRoom (axis : Axis) (place : Nat) (s : Sheet) : Prop where
  cells : ∀ p ∈ s.grid.cells.keys, MakesWay place (p.line axis)
  lines : (s.lines axis).HasRoom place
  merges : ∀ m ∈ s.merges, MakesWay place (m.extent axis).1 ∧ MakesWay place (m.extent axis).2
  filters : axis = .col → ∀ i ∈ s.filters.keys, MakesWay place i

instance (axis : Axis) (place : Nat) (s : Sheet) : Decidable (s.HasRoom axis place) :=
  decidable_of_iff ((∀ p ∈ s.grid.cells.keys, MakesWay place (p.line axis)) ∧
      (s.lines axis).HasRoom place ∧
      (∀ m ∈ s.merges, MakesWay place (m.extent axis).1 ∧ MakesWay place (m.extent axis).2) ∧
      (axis = .col → ∀ i ∈ s.filters.keys, MakesWay place i))
    ⟨fun ⟨a, b, c, d⟩ => ⟨a, b, c, d⟩, fun ⟨a, b, c, d⟩ => ⟨a, b, c, d⟩⟩

/-- All sheets of a run of edits fit. -/
def FitsAlong (edits : List Edit) (s : Sheet) : Prop := ∀ before, before <+: edits → (applyAll before s).Fits

instance (edits : List Edit) (s : Sheet) : Decidable (FitsAlong edits s) :=
  inferInstanceAs (Decidable (∀ before, before <+: edits → (applyAll before s).Fits))

theorem FitsAlong.last {edits : List Edit} {s : Sheet} (fits : FitsAlong edits s) : (applyAll edits s).Fits :=
  fits edits List.prefix_rfl

end Sheet

/-- Indices are words of sixty-four bits, sizes words of thirty-two. -/
structure Workbook.Fits (w : Workbook) : Prop where
  sheets : ∀ s ∈ w.sheets, s.Fits

instance (w : Workbook) : Decidable w.Fits := decidable_of_iff
    (∀ s ∈ w.sheets, s.Fits) ⟨fun a => ⟨a⟩, fun a => a.sheets⟩

section Moving

variable {i place pivot : Nat} {axis : Axis}

theorem forall_insertIndex_lt_iff :
    (∀ j, insertIndex place i = some j → j < indexLimit) ↔ i < indexLimit ∧ MakesWay place i := by
  simp only [insertIndex, Option.some.injEq, forall_eq']
  split <;> omega

theorem lt_of_deleteIndex (low : i < indexLimit) {j : Nat} (lands : deleteIndex pivot i = some j) : j < indexLimit := by
  simp only [deleteIndex] at lands
  grind

theorem Position.fits_iff (axis : Axis) (p : Position) :
    p.Fits ↔ p.line axis < indexLimit ∧ p.line axis.other < indexLimit := by
  cases axis with
  | row => rfl
  | col => exact and_comm

theorem Position.forall_moved_insertIndex_iff (axis : Axis) (p : Position) (P : Prop) :
    (∀ q, p.moved axis (insertIndex place) = some q → q.Fits ∧ P) ↔
      (p.Fits ∧ P) ∧ MakesWay place (p.line axis) := by
  cases axis <;> simp only [moved, insertIndex, Option.map_some, Option.some.injEq, forall_eq', Fits, line] <;> grind

theorem Position.Fits.moved_deleteIndex {p q : Position} (fits : p.Fits) (lands : p.moved axis (deleteIndex pivot) = some q) :
    q.Fits := by
  obtain ⟨moves, same⟩ := line_moved lands
  rw [fits_iff axis] at fits ⊢
  exact ⟨lt_of_deleteIndex fits.1 moves, same ▸ fits.2⟩

theorem Range.fits_iff (axis : Axis) (r : Range) :
    r.Fits ↔ ((r.extent axis).1 < indexLimit ∧ (r.extent axis).2 < indexLimit) ∧
      (r.extent axis.other).1 < indexLimit ∧ (r.extent axis.other).2 < indexLimit := by
  cases axis with
  | row => exact ⟨fun ⟨a, b, c, d⟩ => ⟨⟨a, c⟩, b, d⟩, fun ⟨⟨a, c⟩, b, d⟩ => ⟨a, b, c, d⟩⟩
  | col => exact ⟨fun ⟨a, b, c, d⟩ => ⟨⟨b, d⟩, a, c⟩, fun ⟨⟨b, d⟩, a, c⟩ => ⟨a, b, c, d⟩⟩

theorem Range.fits_afterInsert_iff (r : Range) : (r.afterInsert axis place).Fits ↔
    r.Fits ∧ MakesWay place (r.extent axis).1 ∧ MakesWay place (r.extent axis).2 := by
  simp only [fits_iff axis, afterInsert, extent_withExtent, extent_other_withExtent, extentAfterInsert]
  grind

theorem Range.Fits.afterDelete {r t : Range} (fits : r.Fits) (left : r.afterDelete axis pivot = some t) : t.Fits := by
  obtain ⟨e, stays, rfl, _⟩ := afterDelete_eq_some_iff.1 left
  rw [fits_iff axis] at fits ⊢
  simp only [extent_withExtent, extent_other_withExtent]
  simp only [extentAfterDelete] at stays
  grind

section Tables

variable {α : Type} {t : Table Nat α} (P : α → Prop)

theorem forall_mem_rekey_insertIndex_iff : (∀ e ∈ (t.rekey (insertIndex place)).entries, e.1 < indexLimit ∧ P e.2) ↔
    (∀ e ∈ t.entries, e.1 < indexLimit ∧ P e.2) ∧ ∀ i ∈ t.keys, MakesWay place i := by
  have each (e : Nat × α) : (∀ i, insertIndex place e.1 = some i → i < indexLimit ∧ P e.2) ↔
      (e.1 < indexLimit ∧ P e.2) ∧ MakesWay place e.1 := by
    have along := @forall_insertIndex_lt_iff e.1 place
    simp only [insertIndex, Option.some.injEq, forall_eq'] at along ⊢
    rw [along]
    exact and_right_comm
  simp only [Table.forall_mem_rekey_iff (insertIndex_apart place), each, Table.keys, List.forall_mem_map]
  exact forall₂_and

theorem forall_mem_rekey_deleteIndex (all : ∀ e ∈ t.entries, e.1 < indexLimit ∧ P e.2) :
    ∀ e ∈ (t.rekey (deleteIndex pivot)).entries, e.1 < indexLimit ∧ P e.2 := by
  rw [Table.forall_mem_rekey_iff (deleteIndex_apart pivot)]
  intro e inside i lands
  exact ⟨lt_of_deleteIndex (all e inside).1 lands, (all e inside).2⟩

/-- Keys are what is asked about, whatever is held for them. -/
theorem forall_mem_keys_iff {t : Table Nat α} :
    (∀ i ∈ t.keys, i < indexLimit) ↔ ∀ e ∈ t.entries, e.1 < indexLimit ∧ True := by
  simp only [and_true]
  exact List.forall_mem_map

end Tables

namespace Lines

variable {l : Lines}

theorem fits_insert_iff : (l.insert place).Fits ↔ l.Fits ∧ l.HasRoom place := by
  have frozen : (if place < l.frozen then l.frozen + 1 else l.frozen) < indexLimit ↔
      l.frozen < indexLimit ∧ (place < l.frozen → l.frozen + 1 < indexLimit) := by
    split <;> omega
  have sizes := @forall_mem_rekey_insertIndex_iff place Nat l.sizes (· < sizeLimit)
  have hidden := @forall_mem_rekey_insertIndex_iff place Unit l.hidden fun _ => True
  rw [← forall_mem_keys_iff, ← forall_mem_keys_iff] at hidden
  constructor
  · rintro ⟨count, sizesLow, hiddenLow, low⟩
    obtain ⟨sizesLow, sizesRoom⟩ := sizes.1 sizesLow
    obtain ⟨hiddenLow, hiddenRoom⟩ := hidden.1 hiddenLow
    obtain ⟨low, frozenRoom⟩ := frozen.1 low
    exact ⟨⟨Nat.lt_of_succ_lt count, sizesLow, hiddenLow, low⟩, count, sizesRoom, hiddenRoom, frozenRoom⟩
  · rintro ⟨fits, room⟩
    exact ⟨room.count, sizes.2 ⟨fits.sizes, room.sizes⟩, hidden.2 ⟨fits.hidden, room.hidden⟩,
      frozen.2 ⟨fits.frozen, room.frozen⟩⟩

theorem Fits.delete (fits : l.Fits) (pivot : Nat) : (l.delete pivot).Fits := by
  have one : 1 < indexLimit := by decide
  refine ⟨?_, forall_mem_rekey_deleteIndex (· < sizeLimit) fits.sizes, ?_, ?_⟩
  · exact Nat.max_lt.2 ⟨Nat.lt_of_le_of_lt (Nat.sub_le _ _) fits.count, one⟩
  · exact forall_mem_keys_iff.2 (forall_mem_rekey_deleteIndex (fun _ => True) (forall_mem_keys_iff.1 fits.hidden))
  · have low := fits.frozen
    simp only [Lines.delete]
    split <;> omega

end Lines

end Moving

end Spreadsheet
