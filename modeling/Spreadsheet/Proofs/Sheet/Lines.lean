import Mathlib.Logic.ExistsUnique
import Spreadsheet.Proofs.Range
import Spreadsheet.Proofs.Table
import Spreadsheet.Sheet.Lines

/-! Inserting and deleting lines as maps of indices. Neither map sends two lines to one, the line that is inserted is
where none goes, and deleting takes back what inserting did. Extents of ranges are moved by their own rule, but cover
what the map gives. -/
namespace Spreadsheet

theorem insertIndex_apart (place : Nat) (i j k : Nat) (lands : insertIndex place i = some k)
    (lands' : insertIndex place j = some k) : i = j := by
  simp only [insertIndex, Option.some.injEq] at lands lands'
  split at lands <;> split at lands' <;> omega

theorem deleteIndex_apart (pivot : Nat) (i j k : Nat) (lands : deleteIndex pivot i = some k)
    (lands' : deleteIndex pivot j = some k) : i = j := by
  simp only [deleteIndex] at lands lands'
  grind

theorem insertIndex_vacant (place i j : Nat) (lands : insertIndex place i = some j) : j ≠ place := by
  simp only [insertIndex, Option.some.injEq] at lands
  split at lands <;> omega

theorem deleteIndex_insertIndex (place i : Nat) : (insertIndex place i).bind (deleteIndex place) = some i := by
  simp only [insertIndex, deleteIndex, Option.bind_some]
  grind

def Axis.other : Axis → Axis
  | .row => .col
  | .col => .row

theorem Axis.other_other (axis : Axis) : axis.other.other = axis := by cases axis <;> rfl

theorem Axis.eq_or_eq_other (a b : Axis) : a = b ∨ a = b.other := by cases a <;> cases b <;> simp [other]

namespace Position

/-- The line of the axis that a position is on. -/
def line : Axis → Position → Nat
  | .row, p => p.row
  | .col, p => p.col

/-- The position on the line that the map gives, if it gives one. -/
def moved (axis : Axis) (f : Nat → Option Nat) (p : Position) : Option Position :=
  match axis with
  | .row => (f p.row).map fun row => { p with row }
  | .col => (f p.col).map fun col => { p with col }

theorem line_ext (axis : Axis) {p q : Position} (same : p.line axis = q.line axis)
    (same' : p.line axis.other = q.line axis.other) : p = q := by
  cases p; cases q; cases axis <;> simp_all [line, Axis.other]

theorem exists_line (axis : Axis) (i j : Nat) : ∃ p : Position, p.line axis = i ∧ p.line axis.other = j := by
  cases axis with
  | row => exact ⟨⟨i, j⟩, rfl, rfl⟩
  | col => exact ⟨⟨j, i⟩, rfl, rfl⟩

theorem line_moved {axis : Axis} {f : Nat → Option Nat} {p q : Position} (lands : p.moved axis f = some q) :
    f (p.line axis) = some (q.line axis) ∧ p.line axis.other = q.line axis.other := by
  cases axis <;> obtain ⟨i, found, rfl⟩ := Option.map_eq_some_iff.1 lands <;> exact ⟨found, rfl⟩

theorem moved_apart (axis : Axis) {f : Nat → Option Nat} (apart : ∀ i j k, f i = some k → f j = some k → i = j)
    (p q r : Position) (lands : p.moved axis f = some r) (lands' : q.moved axis f = some r) : p = q := by
  obtain ⟨found, same⟩ := line_moved lands
  obtain ⟨found', same'⟩ := line_moved lands'
  exact line_ext axis (apart _ _ _ found found') (same.trans same'.symm)

theorem moved_moved (axis : Axis) {f g : Nat → Option Nat} (back : ∀ i, (f i).bind g = some i) (p : Position) :
    (p.moved axis f).bind (moved axis g) = some p := by
  cases axis with
  | row =>
    obtain ⟨i, lands, returns⟩ := Option.bind_eq_some_iff.1 (back p.row)
    simp [moved, lands, returns]
  | col =>
    obtain ⟨i, lands, returns⟩ := Option.bind_eq_some_iff.1 (back p.col)
    simp [moved, lands, returns]

end Position

namespace Lines

/-- When lines go by a map, sizes and hidden lines go with them, added lines have neither, and just the lines that were
frozen are frozen. -/
structure Follows (f : Nat → Option Nat) (added : Nat → Prop) (l m : Lines) : Prop where
  sizes : l.sizes.Follows f added m.sizes
  hidden : l.hidden.Follows f added m.hidden
  frozen : ∀ i j, f i = some j → (i < l.frozen ↔ j < m.frozen)

theorem follows_insert (place : Nat) (l : Lines) : l.Follows (insertIndex place) (· = place) (l.insert place) := by
  have vacant := insertIndex_vacant place
  refine ⟨Table.follows_rekey (insertIndex_apart place) vacant _, Table.follows_rekey (insertIndex_apart place) vacant _, ?_⟩
  intro i j lands
  simp only [insertIndex, insert] at lands ⊢
  grind

theorem follows_delete (pivot : Nat) (l : Lines) : l.Follows (deleteIndex pivot) (fun _ => False) (l.delete pivot) := by
  refine ⟨Table.follows_rekey (deleteIndex_apart pivot) (fun _ _ _ => id) _,
    Table.follows_rekey (deleteIndex_apart pivot) (fun _ _ _ => id) _, ?_⟩
  intro i j lands
  simp only [deleteIndex, delete] at lands ⊢
  grind

theorem delete_insert {l : Lines} (positive : 0 < l.count) (place : Nat) : (l.insert place).delete place = l := by
  have restored {α : Type} (t : Table Nat α) : (t.rekey (insertIndex place)).rekey (deleteIndex place) = t :=
    Table.rekey_rekey (insertIndex_apart place) (deleteIndex_apart place) (deleteIndex_insertIndex place) t
  obtain ⟨count, sizes, hidden, frozen⟩ := l
  simp only [insert, delete, rekey, restored, mk.injEq, true_and]
  grind

end Lines

namespace Range

/-- Does the range hold cells of a line? -/
def Covers (axis : Axis) (r : Range) (i : Nat) : Prop := (r.extent axis).1 ≤ i ∧ i ≤ (r.extent axis).2

/-- The smallest range that holds certain cells: a range holds all of them just when it holds this one. -/
def IsHull (w : Range) (inside : Position → Prop) : Prop :=
  ∀ r : Range, (∀ p, w.contains p = true → r.contains p = true) ↔ ∀ p, inside p → r.contains p = true

/-- A range of more than one cell with its smaller coordinates first. -/
structure Proper (r : Range) : Prop where
  rows : r.startRow ≤ r.endRow
  cols : r.startCol ≤ r.endCol
  several : r.isSingle = false

theorem Proper.ordered {r : Range} (proper : r.Proper) : r.Ordered := ⟨proper.rows, proper.cols⟩

@[simp] theorem extent_withExtent (axis : Axis) (e : Nat × Nat) (r : Range) : (r.withExtent axis e).extent axis = e := by
  cases axis <;> rfl

@[simp] theorem extent_other_withExtent (axis : Axis) (e : Nat × Nat) (r : Range) :
    (r.withExtent axis e).extent axis.other = r.extent axis.other := by
  cases axis <;> rfl

@[simp] theorem withExtent_extent (axis : Axis) (r : Range) : r.withExtent axis (r.extent axis) = r := by
  cases axis <;> rfl

@[simp] theorem withExtent_withExtent (axis : Axis) (e e' : Nat × Nat) (r : Range) :
    (r.withExtent axis e).withExtent axis e' = r.withExtent axis e' := by
  cases axis <;> rfl

theorem contains_iff (axis : Axis) (r : Range) (p : Position) :
    r.contains p = true ↔ r.Covers axis (p.line axis) ∧ r.Covers axis.other (p.line axis.other) := by
  cases axis <;> simp [contains, Covers, extent, Position.line, Axis.other] <;> omega

theorem extent_between (axis : Axis) (p q : Position) :
    (between p q).extent axis = (min (p.line axis) (q.line axis), max (p.line axis) (q.line axis)) := by
  cases axis <;> rfl

theorem intersects_eq_false_iff (axis : Axis) (r s : Range) :
    r.intersects s = false ↔
      ((r.extent axis).2 < (s.extent axis).1 ∨ (s.extent axis).2 < (r.extent axis).1) ∨
        ((r.extent axis.other).2 < (s.extent axis.other).1 ∨ (s.extent axis.other).2 < (r.extent axis.other).1) := by
  cases axis <;> simp [intersects, extent, Axis.other] <;> omega

instance (r : Range) : Decidable r.Proper :=
  decidable_of_iff (r.startRow ≤ r.endRow ∧ r.startCol ≤ r.endCol ∧ r.isSingle = false)
    ⟨fun ⟨rows, cols, several⟩ => ⟨rows, cols, several⟩, fun ⟨rows, cols, several⟩ => ⟨rows, cols, several⟩⟩

theorem isSingle_iff (axis : Axis) (r : Range) :
    r.isSingle = true ↔
      (r.extent axis).1 = (r.extent axis).2 ∧ (r.extent axis.other).1 = (r.extent axis.other).2 := by
  cases axis with
  | row => simp [isSingle, extent, Axis.other]
  | col => simp [isSingle, extent, Axis.other, and_comm]

theorem proper_iff (axis : Axis) (r : Range) :
    r.Proper ↔ (r.extent axis).1 ≤ (r.extent axis).2 ∧ (r.extent axis.other).1 ≤ (r.extent axis.other).2 ∧
      ((r.extent axis).1 < (r.extent axis).2 ∨ (r.extent axis.other).1 < (r.extent axis.other).2) := by
  constructor
  · rintro ⟨rows, cols, several⟩
    cases axis <;> simp [isSingle, extent, Axis.other] at several ⊢ <;> omega
  · rintro ⟨first, second, several⟩
    refine ⟨?_, ?_, ?_⟩ <;> cases axis <;> simp [isSingle, extent, Axis.other] at * <;> omega

/-- The range is lost with a line: it starts there, or a single cell would be left of it. -/
def LostWith (axis : Axis) (pivot : Nat) (r : Range) : Prop :=
  (r.extent axis).1 = pivot ∨ ∃! p : Position, r.contains p = true ∧ p.line axis ≠ pivot

/-- Where lines go by a map and others are added, the second range covers on the axis just the lines that those of the
first one go to, and the added lines inside it; on the other axis it covers the same lines. -/
structure Follows (axis : Axis) (f : Nat → Option Nat) (added : Nat → Prop) (r t : Range) : Prop where
  lines : ∀ j, t.Covers axis j ↔
    (∃ i, r.Covers axis i ∧ f i = some j) ∨ (added j ∧ (r.extent axis).1 < j ∧ j ≤ (r.extent axis).2)
  other : t.extent axis.other = r.extent axis.other

/-- What becomes of a range when lines go by a map, others are added, and some ranges are lost. -/
inductive Fate (axis : Axis) (f : Nat → Option Nat) (added : Nat → Prop) (lost : Range → Prop) (r : Range) :
    Option Range → Prop
  | gone (goes : lost r) : Fate axis f added lost r none
  | kept {t : Range} (stays : ¬lost r) (follows : r.Follows axis f added t) : Fate axis f added lost r (some t)

variable {axis : Axis} {r : Range}

theorem follows_afterInsert (ordered : (r.extent axis).1 ≤ (r.extent axis).2) (place : Nat) :
    r.Follows axis (insertIndex place) (· = place) (r.afterInsert axis place) := by
  refine ⟨?_, extent_other_withExtent axis _ r⟩
  intro j
  simp only [Covers, afterInsert, extent_withExtent, extentAfterInsert, insertIndex, Option.some.injEq]
  constructor
  · intro covered
    by_cases new : j = place
    · grind
    · refine .inl ⟨if place < j then j - 1 else j, ?_⟩
      grind
  · rintro (⟨i, covered, rfl⟩ | covered) <;> grind

theorem afterDelete_eq_some_iff {pivot : Nat} {t : Range} :
    r.afterDelete axis pivot = some t ↔
      ∃ e, extentAfterDelete pivot (r.extent axis) = some e ∧ t = r.withExtent axis e ∧ t.isSingle = false := by
  simp only [afterDelete, Option.filter_eq_some_iff, Option.map_eq_some_iff, Bool.not_eq_true']
  constructor
  · rintro ⟨⟨e, stays, rfl⟩, several⟩
    exact ⟨e, stays, rfl, several⟩
  · rintro ⟨e, stays, rfl, several⟩
    exact ⟨⟨e, stays, rfl⟩, several⟩

theorem afterDelete_eq_none_iff_single {pivot : Nat} :
    r.afterDelete axis pivot = none ↔ ∀ e, extentAfterDelete pivot (r.extent axis) = some e →
      e.1 = e.2 ∧ (r.extent axis.other).1 = (r.extent axis.other).2 := by
  rw [Option.eq_none_iff_forall_ne_some]
  constructor
  · intro lost e stays
    have single : (r.withExtent axis e).isSingle = true := by
      rw [← Bool.not_eq_false]
      exact fun several => lost _ (afterDelete_eq_some_iff.2 ⟨e, stays, rfl, several⟩)
    simpa [isSingle_iff axis] using single
  · intro single t left
    obtain ⟨e, stays, rfl, several⟩ := afterDelete_eq_some_iff.1 left
    have lines := single e stays
    rw [← Bool.not_eq_true, isSingle_iff axis] at several
    simp [lines] at several

/-- One cell is off a line when the range covers one other line, and one line on the other axis. -/
theorem existsUnique_cell_iff (axis : Axis) (r : Range) (pivot : Nat) :
    (∃! p : Position, r.contains p = true ∧ p.line axis ≠ pivot) ↔
      (∃! i, r.Covers axis i ∧ i ≠ pivot) ∧ ∃! j, r.Covers axis.other j := by
  simp only [contains_iff axis]
  constructor
  · rintro ⟨p, ⟨⟨covered, covered'⟩, off⟩, unique⟩
    refine ⟨⟨p.line axis, ⟨covered, off⟩, ?_⟩, ⟨p.line axis.other, covered', ?_⟩⟩
    · rintro i ⟨other, off'⟩
      obtain ⟨q, rfl, same⟩ := Position.exists_line axis i (p.line axis.other)
      rw [unique q ⟨⟨other, same ▸ covered'⟩, off'⟩]
    · intro j other
      obtain ⟨q, same, rfl⟩ := Position.exists_line axis (p.line axis) j
      rw [unique q ⟨⟨same ▸ covered, other⟩, same ▸ off⟩]
  · rintro ⟨⟨i, ⟨covered, off⟩, unique⟩, ⟨j, covered', unique'⟩⟩
    obtain ⟨p, rfl, rfl⟩ := Position.exists_line axis i j
    refine ⟨p, ⟨⟨covered, covered'⟩, off⟩, ?_⟩
    rintro q ⟨⟨other, other'⟩, off'⟩
    exact Position.line_ext axis (unique _ ⟨other, off'⟩) (unique' _ other')

/-- Ranges of several cells are lost with their first lines, and where one cell would be left; no others are. -/
theorem afterDelete_eq_none_iff (proper : r.Proper) (pivot : Nat) :
    r.afterDelete axis pivot = none ↔ r.LostWith axis pivot := by
  obtain ⟨ordered, ordered', several⟩ := (proper_iff axis r).1 proper
  rw [afterDelete_eq_none_iff_single, LostWith, existsUnique_cell_iff]
  simp only [extentAfterDelete, Covers]
  constructor
  · intro single
    by_cases starts : (r.extent axis).1 = pivot
    · exact .inl starts
    · -- a range away from the line stays as wide, so the line is the second of two
      have ends : (r.extent axis).2 = pivot ∧ (r.extent axis).2 = (r.extent axis).1 + 1 ∧
          (r.extent axis.other).1 = (r.extent axis.other).2 := by
        grind
      refine .inr ⟨⟨(r.extent axis).1, by omega, ?_⟩, ⟨(r.extent axis.other).1, by omega, ?_⟩⟩ <;> omega
  · rintro (starts | ⟨⟨i, ⟨covered, off⟩, unique⟩, ⟨j, covered', unique'⟩⟩) e left
    · grind
    · have first := unique' _ ⟨Nat.le_refl _, ordered'⟩
      have last := unique' _ ⟨ordered', Nat.le_refl _⟩
      have top := unique (r.extent axis).1
      have bottom := unique (r.extent axis).2
      have above := unique ((r.extent axis).2 - 1)
      grind

theorem follows_afterDelete (ordered : (r.extent axis).1 ≤ (r.extent axis).2) {pivot : Nat} {t : Range}
    (left : r.afterDelete axis pivot = some t) :
    r.Follows axis (deleteIndex pivot) (fun _ => False) t := by
  obtain ⟨e, found, rfl, _⟩ := afterDelete_eq_some_iff.1 left
  refine ⟨?_, extent_other_withExtent axis _ r⟩
  intro j
  simp only [Covers, extent_withExtent, deleteIndex]
  simp only [extentAfterDelete] at found
  constructor
  · intro covered
    refine .inl ⟨if j < pivot then j else j + 1, ?_⟩
    grind
  · rintro (⟨i, covered, lands⟩ | covered) <;> grind

theorem fate_afterInsert (proper : r.Proper) (place : Nat) :
    Fate axis (insertIndex place) (· = place) (fun _ => False) r (some (r.afterInsert axis place)) :=
  .kept id (follows_afterInsert ((proper_iff axis r).1 proper).1 place)

theorem fate_afterDelete (proper : r.Proper) (pivot : Nat) :
    Fate axis (deleteIndex pivot) (fun _ => False) (LostWith axis pivot) r (r.afterDelete axis pivot) := by
  have lost := @afterDelete_eq_none_iff axis r proper pivot
  cases left : r.afterDelete axis pivot with
  | none => exact .gone (lost.1 left)
  | some t =>
    refine .kept ?_ (follows_afterDelete ((proper_iff axis r).1 proper).1 left)
    intro goes
    rw [lost.2 goes] at left
    cases left

/-- Deleting a line that was inserted gives a range of several cells back, also where the line went before it. -/
theorem afterDelete_afterInsert (proper : r.Proper) (place : Nat) :
    (r.afterInsert axis place).afterDelete axis place = some r := by
  obtain ⟨ordered, _, _⟩ := (proper_iff axis r).1 proper
  have extents : extentAfterDelete place (extentAfterInsert place (r.extent axis)) = some (r.extent axis) := by
    rw [← Prod.eta (r.extent axis)]
    simp only [extentAfterInsert, extentAfterDelete]
    grind
  simp [afterDelete, afterInsert, extents, Option.filter_some, proper.several]

end Range

end Spreadsheet
