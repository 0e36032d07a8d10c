import Spreadsheet.Proofs.Sheet.Regular
import Spreadsheet.Proofs.Sheet.Structure

/-! Merged ranges over runs of edits. Merges hold several cells each and share none, whatever is done to a sheet, where
the ranges that are merged have their smaller coordinates first; so a cell is in one merge at most. -/
namespace Spreadsheet

namespace Range

variable {axis : Axis} {r s t u : Range}

theorem Proper.afterInsert (proper : r.Proper) (axis : Axis) (place : Nat) : (r.afterInsert axis place).Proper := by
  rw [proper_iff axis] at proper ⊢
  simp only [Range.afterInsert, extent_withExtent, extent_other_withExtent, extentAfterInsert]
  grind

theorem Proper.afterDelete (proper : r.Proper) {pivot : Nat} (left : r.afterDelete axis pivot = some t) : t.Proper := by
  obtain ⟨e, stays, rfl, several⟩ := afterDelete_eq_some_iff.1 left
  rw [← Bool.not_eq_true, isSingle_iff axis] at several
  rw [proper_iff axis] at proper ⊢
  simp only [extent_withExtent, extent_other_withExtent, extentAfterDelete] at several stays ⊢
  grind

theorem extentAfterInsert_before {e e' : Nat × Nat} (ordered : e.1 ≤ e.2) (before : e.2 < e'.1) (place : Nat) :
    (extentAfterInsert place e).2 < (extentAfterInsert place e').1 := by
  simp only [extentAfterInsert]
  grind

theorem extentAfterDelete_before {d d' e e' : Nat × Nat} (ordered : e.1 ≤ e.2) (before : e.2 < e'.1) {pivot : Nat}
    (stays : extentAfterDelete pivot e = some d) (stays' : extentAfterDelete pivot e' = some d') : d.2 < d'.1 := by
  simp only [extentAfterDelete] at stays stays'
  grind

section

variable (proper : r.Proper) (proper' : s.Proper) (apart : r.intersects s = false)
include proper proper' apart

theorem apart_afterInsert (axis : Axis) (place : Nat) :
    (r.afterInsert axis place).intersects (s.afterInsert axis place) = false := by
  have ordered := ((proper_iff axis r).1 proper).1
  have ordered' := ((proper_iff axis s).1 proper').1
  rw [intersects_eq_false_iff axis] at apart ⊢
  simp only [afterInsert, extent_withExtent, extent_other_withExtent]
  rcases apart with (before | behind) | others
  · exact .inl (.inl (extentAfterInsert_before ordered before place))
  · exact .inl (.inr (extentAfterInsert_before ordered' behind place))
  · exact .inr others

theorem apart_afterDelete {pivot : Nat} (left : r.afterDelete axis pivot = some t)
    (left' : s.afterDelete axis pivot = some u) : t.intersects u = false := by
  have ordered := ((proper_iff axis r).1 proper).1
  have ordered' := ((proper_iff axis s).1 proper').1
  obtain ⟨e, stays, rfl, _⟩ := afterDelete_eq_some_iff.1 left
  obtain ⟨e', stays', rfl, _⟩ := afterDelete_eq_some_iff.1 left'
  rw [intersects_eq_false_iff axis] at apart ⊢
  simp only [extent_withExtent, extent_other_withExtent]
  rcases apart with (before | behind) | others
  · exact .inl (.inl (extentAfterDelete_before ordered before stays stays'))
  · exact .inl (.inr (extentAfterDelete_before ordered' behind stays' stays))
  · exact .inr others

end

theorem Proper.one_lt_cellCount (proper : r.Proper) : 1 < r.cellCount := by
  obtain ⟨rows, cols, several⟩ := (proper_iff .row r).1 proper
  rw [cellCount, Nat.one_lt_mul_iff]
  simp only [extent, Axis.other, Range.rows, Range.cols] at several ⊢
  omega

theorem not_shared (apart : r.intersects s = false) (p : Position) : ¬(r.contains p = true ∧ s.contains p = true) := by
  rintro ⟨inside, inside'⟩
  exact Bool.eq_false_iff.1 apart (intersects_of_shared inside inside')

end Range

namespace Sheet

/-- Merges hold several cells each and share none. -/
structure Apart (s : Sheet) : Prop where
  proper : ∀ m ∈ s.merges, m.Proper
  apart : s.merges.Pairwise fun m n => m.intersects n = false

variable {s t : Sheet}

theorem apart_ofSize (name : String) (rows cols : Nat) : (ofSize name rows cols).Apart := ⟨nofun, .nil⟩

theorem Apart.of_merges_eq (apart : s.Apart) (same : t.merges = s.merges) : t.Apart := by
  obtain ⟨proper, apart⟩ := apart
  rw [← same] at proper apart
  exact ⟨proper, apart⟩

theorem Apart.insertLine (apart : s.Apart) (axis : Axis) (place : Nat) : (s.insertLine axis place).Apart := by
  refine ⟨?_, ?_⟩
  · rw [merges_insertLine]
    intro m inside
    obtain ⟨old, before, rfl⟩ := List.mem_map.1 inside
    exact (apart.proper old before).afterInsert axis place
  · rw [merges_insertLine, List.pairwise_map]
    refine apart.apart.imp_of_mem ?_
    intro m n inside inside' disjoint
    exact Range.apart_afterInsert (apart.proper m inside) (apart.proper n inside') disjoint axis place

theorem Apart.deleteLine (apart : s.Apart) (axis : Axis) (pivot : Nat) : (s.deleteLine axis pivot).Apart := by
  refine ⟨?_, ?_⟩
  · rw [merges_deleteLine]
    intro m inside
    obtain ⟨old, before, left⟩ := List.mem_filterMap.1 inside
    exact (apart.proper old before).afterDelete left
  · rw [merges_deleteLine, List.pairwise_filterMap]
    refine apart.apart.imp_of_mem ?_
    intro m n inside inside' disjoint t left u left'
    exact Range.apart_afterDelete (apart.proper m inside) (apart.proper n inside') disjoint left left'

theorem Apart.filter (apart : s.Apart) (keep : Range → Bool) : { s with merges := s.merges.filter keep : Sheet }.Apart :=
  ⟨fun m inside => apart.proper m (List.mem_of_mem_filter inside), apart.apart.filter _⟩

theorem Apart.merge (apart : s.Apart) {r : Range} (rows : r.startRow ≤ r.endRow) (cols : r.startCol ≤ r.endCol) :
    (s.merge r).2.Apart := by
  rw [Sheet.merge]
  split
  next => exact apart
  next several =>
    refine ⟨?_, List.pairwise_append.2 ⟨apart.apart.filter _, List.pairwise_singleton _ _, ?_⟩⟩
    · intro m inside
      rcases List.mem_append.1 inside with old | new
      · exact apart.proper m (List.mem_of_mem_filter old)
      · rw [List.mem_singleton.1 new]
        exact ⟨rows, cols, by simpa using several⟩
    · -- merges that touch the new one were dissolved
      intro m old n new
      rw [List.mem_singleton.1 new]
      simpa using (List.mem_filter.1 old).2

theorem stable_apart : Stable (fun r => r.startRow ≤ r.endRow ∧ r.startCol ≤ r.endCol) Apart where
  setCell apart _ _ := apart.of_merges_eq rfl
  sort apart _ _ := apart.of_merges_eq rfl
  mapLines apart axis _ _ := apart.of_merges_eq (by cases axis <;> rfl)
  insertLine apart axis place := apart.insertLine axis place
  deleteLine apart axis pivot := apart.deleteLine axis pivot
  merge apart _ ordered := apart.merge ordered.1 ordered.2
  unmerge apart _ := apart.filter _
  filter apart _ _ := apart.of_merges_eq rfl

theorem Apart.length_covering_le (apart : s.Apart) (p : Position) : (s.merges.filter (·.contains p)).length ≤ 1 := by
  have disjoint := apart.apart.filter (·.contains p)
  cases covering : s.merges.filter (·.contains p) with
  | nil => exact Nat.zero_le 1
  | cons m rest =>
    cases rest with
    | nil => exact Nat.le_refl 1
    | cons n _ =>
      have inside {r : Range} (among : r ∈ s.merges.filter (·.contains p)) : r.contains p = true :=
        (List.mem_filter.1 among).2
      rw [covering] at disjoint inside
      have separate := (List.pairwise_cons.1 disjoint).1 n List.mem_cons_self
      exact absurd ⟨inside List.mem_cons_self, inside (List.mem_cons_of_mem m List.mem_cons_self)⟩
        (Range.not_shared separate p)

theorem Apart.length_merges_le (apart : s.Apart) (p : Position) :
    s.merges.length ≤ (s.unmerge p).2.merges.length + 1 := by
  have split := List.length_eq_length_filter_add (l := s.merges) (·.contains p)
  have one := apart.length_covering_le p
  simp only [unmerge]
  omega

/-- Whatever is done to a sheet made with a size, where the ranges that are merged have their smaller coordinates first and
the sheets on the way fit: there is a row and a column, merges hold several cells, of which words name the first and the
last, and share none, and a cell is in one merge at most, so that unmerging takes away one at most. -/
theorem merges_applyAll {name : String} {rows cols : Nat} {edits : List Edit}
    (ordered : ∀ r, .merge r ∈ edits → r.startRow ≤ r.endRow ∧ r.startCol ≤ r.endCol)
    (fits : FitsAlong edits (ofSize name rows cols)) :
    let s := applyAll edits (ofSize name rows cols)
    (0 < s.rows.count ∧ 0 < s.cols.count) ∧
      (∀ m ∈ s.merges, (m.startRow ≤ m.endRow ∧ m.startCol ≤ m.endCol) ∧ 1 < m.cells.length ∧ m.Fits) ∧
      (s.merges.Pairwise fun m n => ∀ p, ¬(m.contains p = true ∧ n.contains p = true)) ∧
      ∀ p, (s.merges.filter (·.contains p)).length ≤ 1 ∧ s.merges.length ≤ (s.unmerge p).2.merges.length + 1 := by
  intro s
  have regular : s.Regular := stable_regular.applyAll (regular_ofSize name rows cols) fun _ _ => trivial
  have apart : s.Apart := stable_apart.applyAll (apart_ofSize name rows cols) ordered
  refine ⟨⟨regular.rows, regular.cols⟩, ?_, ?_, ?_⟩
  · intro m inside
    have proper := apart.proper m inside
    have several := proper.one_lt_cellCount
    rw [← Range.length_cells proper.ordered] at several
    exact ⟨⟨proper.rows, proper.cols⟩, several, fits.last.merges m inside⟩
  · exact apart.apart.imp Range.not_shared
  · intro p
    exact ⟨apart.length_covering_le p, apart.length_merges_le p⟩

/-- The third merge dissolves the first, the second line that is deleted takes the fourth, and sorting moves none. -/
def rearranging : List Edit :=
  [.merge ⟨0, 0, 1, 1⟩, .merge ⟨3, 3, 3, 5⟩, .insertLine .col 1, .merge ⟨1, 2, 2, 3⟩, .merge ⟨4, 0, 5, 0⟩,
    .deleteLine .row 0, .sort 2 .descending, .deleteLine .row 3, .merge ⟨0, 0, 0, 1⟩, .merge ⟨4, 4, 4, 4⟩]

theorem merges_applyAll_rearranging :
    let s := applyAll rearranging (ofSize "S" 6 6)
    ((∀ r, .merge r ∈ rearranging → r.startRow ≤ r.endRow ∧ r.startCol ≤ r.endCol) ∧
        FitsAlong rearranging (ofSize "S" 6 6)) ∧
      s.merges = [⟨2, 4, 2, 6⟩, ⟨0, 2, 1, 3⟩, ⟨0, 0, 0, 1⟩] ∧ (0 < s.rows.count ∧ 0 < s.cols.count) ∧
      (∀ m ∈ s.merges, (m.startRow ≤ m.endRow ∧ m.startCol ≤ m.endCol) ∧ 1 < m.cells.length ∧ m.Fits) ∧
      (s.merges.Pairwise fun m n => ∀ p, ¬(m.contains p = true ∧ n.contains p = true)) ∧
      ∀ p, (s.merges.filter (·.contains p)).length ≤ 1 ∧ s.merges.length ≤ (s.unmerge p).2.merges.length + 1 := by
  have ordered (r : Range) (inside : .merge r ∈ rearranging) : r.startRow ≤ r.endRow ∧ r.startCol ≤ r.endCol := by
    simp only [rearranging, List.mem_cons, Edit.merge.injEq, reduceCtorEq, List.not_mem_nil, or_false, false_or] at inside
    rcases inside with rfl | rfl | rfl | rfl | rfl | rfl <;> decide
  have fits : FitsAlong rearranging (ofSize "S" 6 6) := by decide +kernel
  exact ⟨⟨ordered, fits⟩, rfl, merges_applyAll ordered fits⟩

end Sheet

end Spreadsheet
