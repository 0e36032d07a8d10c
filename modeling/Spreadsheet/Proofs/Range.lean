import Spreadsheet.Range

/-! Ranges as sets of cells, where the smaller coordinates come first. Two of them intersect when they share a cell, one is
inside another when its corners are, and the cells of a range are listed row after row, each of them once. -/
namespace Spreadsheet

/-- Rows go from top to bottom, and in a row cells go from left to right. -/
def Position.Before (p q : Position) : Prop := p.row < q.row ∨ p.row = q.row ∧ p.col < q.col

theorem Position.Before.ne {p q : Position} (before : p.Before q) : p ≠ q := by
  rintro rfl
  rcases before with above | ⟨_, left⟩
  · exact Nat.lt_irrefl _ above
  · exact Nat.lt_irrefl _ left

namespace Range

/-- The smaller coordinates come first. -/
structure Ordered (r : Range) : Prop where
  rows : r.startRow ≤ r.endRow
  cols : r.startCol ≤ r.endCol

variable {r s : Range}

/-- Two corners give such a range, whichever they are. -/
theorem ordered_spanning (r₁ c₁ r₂ c₂ : Nat) : (spanning r₁ c₁ r₂ c₂).Ordered :=
  ⟨Nat.le_trans (Nat.min_le_left r₁ r₂) (Nat.le_max_left r₁ r₂), Nat.le_trans (Nat.min_le_left c₁ c₂) (Nat.le_max_left c₁ c₂)⟩

theorem mem_cells_iff {p : Position} : p ∈ r.cells ↔ r.contains p = true := by
  simp only [cells, span, contains, List.mem_flatMap, List.mem_map, List.mem_range'_1, Bool.and_eq_true, decide_eq_true_eq]
  constructor
  · rintro ⟨row, inside, col, inside', rfl⟩
    dsimp only
    omega
  · rintro ⟨⟨⟨top, bottom⟩, left⟩, right⟩
    exact ⟨p.row, by omega, p.col, by omega, rfl⟩

theorem ne_of_mem_cells {p q : Position} (outside : r.contains p = false) (listed : q ∈ r.cells) : q ≠ p := by
  rintro rfl
  exact Bool.eq_false_iff.1 outside (mem_cells_iff.1 listed)

theorem contains_origin (ordered : r.Ordered) : r.contains r.origin = true := by
  simp [contains, origin, ordered.rows, ordered.cols]

theorem contains_end (ordered : r.Ordered) : r.contains ⟨r.endRow, r.endCol⟩ = true := by
  simp [contains, ordered.rows, ordered.cols]

theorem intersects_comm (r s : Range) : r.intersects s = s.intersects r := by
  rw [Bool.eq_iff_iff]
  simp only [intersects, Bool.and_eq_true, decide_eq_true_eq]
  omega

theorem intersects_of_shared {p : Position} (inside : r.contains p = true) (inside' : s.contains p = true) :
    r.intersects s = true := by
  simp only [contains, intersects, Bool.and_eq_true, decide_eq_true_eq] at inside inside' ⊢
  omega

/-- Ranges intersect when they share a cell. -/
theorem intersects_iff (ordered : r.Ordered) (ordered' : s.Ordered) :
    r.intersects s = true ↔ ∃ p, r.contains p = true ∧ s.contains p = true := by
  obtain ⟨rows, cols⟩ := ordered
  obtain ⟨rows', cols'⟩ := ordered'
  constructor
  · -- the later of the two first rows, and the later of the two first columns, are in both
    intro meet
    refine ⟨⟨max r.startRow s.startRow, max r.startCol s.startCol⟩, ?_⟩
    simp only [intersects, contains, Bool.and_eq_true, decide_eq_true_eq] at meet ⊢
    omega
  · rintro ⟨p, inside, inside'⟩
    exact intersects_of_shared inside inside'

/-- A range is inside another one when its first and its last cell are. -/
theorem contained_iff (ordered : r.Ordered) :
    (∀ p, r.contains p = true → s.contains p = true) ↔
      s.contains r.origin = true ∧ s.contains ⟨r.endRow, r.endCol⟩ = true := by
  constructor
  · intro all
    exact ⟨all _ (contains_origin ordered), all _ (contains_end ordered)⟩
  · rintro ⟨first, last⟩ p inside
    rw [origin] at first
    simp only [contains, Bool.and_eq_true, decide_eq_true_eq] at first last inside ⊢
    omega

theorem length_span (first last : Nat) : (span first last).length = last + 1 - first := List.length_range'

theorem pairwise_span (first last : Nat) : (span first last).Pairwise (· < ·) := List.pairwise_lt_range'

theorem pairwise_cells (r : Range) : r.cells.Pairwise Position.Before := by
  rw [cells, List.pairwise_flatMap]
  constructor
  · intro row _
    refine List.pairwise_map.2 ((pairwise_span _ _).imp ?_)
    intro col col' left
    exact .inr ⟨rfl, left⟩
  · refine (pairwise_span _ _).imp ?_
    intro row row' above p inside q inside'
    obtain ⟨_, _, rfl⟩ := List.mem_map.1 inside
    obtain ⟨_, _, rfl⟩ := List.mem_map.1 inside'
    exact .inl above

theorem length_cells (ordered : r.Ordered) : r.cells.length = r.cellCount := by
  have rows : r.endRow + 1 - r.startRow = r.rows := Nat.sub_add_comm ordered.rows
  have cols : r.endCol + 1 - r.startCol = r.cols := Nat.sub_add_comm ordered.cols
  simp only [cells, List.length_flatMap, List.length_map, length_span, List.map_const', List.sum_replicate_nat, rows, cols,
    cellCount]

/-- A range has no more rows than cells, and no more columns. -/
theorem lt_of_cellCount_lt {limit : Nat} (few : r.cellCount < limit) : r.rows < limit ∧ r.cols < limit :=
  ⟨Nat.lt_of_le_of_lt (Nat.le_mul_of_pos_right r.rows (Nat.succ_pos _)) few,
    Nat.lt_of_le_of_lt (Nat.le_mul_of_pos_left r.cols (Nat.succ_pos _)) few⟩

/-- Where the smaller coordinates come first, two ranges intersect when they share a cell, whichever is asked; the cells that
are listed are just those inside, each of them once, row after row; if a word can hold how many they are, it can hold the
rows, the columns and the product that counts them; and one range is inside the other when its first and its last cell are. -/
theorem coordinates_mean_cells {a b : Range} (ordered : a.Ordered) (ordered' : b.Ordered) :
    ((a.intersects b = true ↔ ∃ p, a.contains p = true ∧ b.contains p = true) ∧ a.intersects b = b.intersects a) ∧
      (a.cells.Pairwise Position.Before ∧ a.cells.Nodup ∧ (∀ p, p ∈ a.cells ↔ a.contains p = true) ∧
        (a.cells.length < Text.indexLimit →
          (a.rows < Text.indexLimit ∧ a.cols < Text.indexLimit) ∧ a.cells.length = a.cellCount)) ∧
      ((∀ p, a.contains p = true → b.contains p = true) ↔
        b.contains a.origin = true ∧ b.contains ⟨a.endRow, a.endCol⟩ = true) := by
  have inOrder := a.pairwise_cells
  have count := length_cells ordered
  refine ⟨⟨intersects_iff ordered ordered', intersects_comm a b⟩,
    ⟨inOrder, inOrder.imp Position.Before.ne, fun _ => mem_cells_iff, fun few => ⟨?_, count⟩⟩, contained_iff ordered⟩
  exact lt_of_cellCount_lt (count ▸ few)

/-- The last cell of the first range is the first one of the second, and no other cell is in both. -/
theorem coordinates_mean_cells_touching :
    (spanning 2 3 0 0).Ordered ∧ (spanning 2 5 4 3).Ordered ∧
      (∃ p, (spanning 2 3 0 0).contains p = true ∧ (spanning 2 5 4 3).contains p = true) ∧
      (spanning 2 3 0 0).cells.length = 12 ∧
      ¬∀ p, (spanning 2 3 0 0).contains p = true → (spanning 2 5 4 3).contains p = true := by
  have ordered := ordered_spanning 2 3 0 0
  have ordered' := ordered_spanning 2 5 4 3
  obtain ⟨⟨meet, _⟩, ⟨_, _, _, length⟩, contained⟩ := coordinates_mean_cells ordered ordered'
  exact ⟨ordered, ordered', meet.1 rfl, (length (by decide)).2, fun all => absurd (contained.1 all).1 (by decide)⟩

end Range

end Spreadsheet
