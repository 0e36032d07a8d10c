import Mathlib.Order.Bounds.Basic
import Mathlib.Order.Nat
import Spreadsheet.Proofs.Sheet.Filling

/-! Moving to the next cell that is shown. Steps of one size pass over the cells in rows and columns that are not shown,
each kind only where the steps change it. They come to an end, for every step goes towards an edge: at the first cell that
is shown, or outside of the bounds, and then the move stays where it started. -/
namespace Spreadsheet

/-- Signed coordinates, which may be outside of every sheet. -/
abbrev Place := Int × Int

def Position.place (p : Position) : Place := (p.row, p.col)

namespace Place

def position (x : Place) : Position := ⟨x.1.toNat, x.2.toNat⟩

def step (dr dc : Int) (x : Place) : Place := (x.1 + dr, x.2 + dc)

/-- Where some steps lead from a cell. -/
def after (dr dc : Int) (start : Position) (k : Nat) : Place := (start.row + k * dr, start.col + k * dc)

variable {dr dc : Int} {start : Position}

@[simp] theorem after_zero : after dr dc start 0 = start.place := by simp [after, Position.place]

theorem step_after (k : Nat) : step dr dc (after dr dc start k) = after dr dc start (k + 1) := by
  simp only [step, after, Int.natCast_add, Int.natCast_one, Int.add_mul, Int.one_mul, Int.add_assoc]

theorem iterate_step (k n : Nat) : (step dr dc)^[n] (after dr dc start k) = after dr dc start (k + n) := by
  induction n with
  | zero => rfl
  | succ n ih => rw [Function.iterate_succ_apply', ih, step_after, Nat.add_assoc]

end Place

namespace Sheet

open Place

def Encloses (s : Sheet) (x : Place) : Prop := (0 ≤ x.1 ∧ 0 ≤ x.2) ∧ x.1 < s.rows.count ∧ x.2 < s.cols.count

/-- A row that is not hidden and that all filters let through. -/
structure ShowsRow (s : Sheet) (row : Nat) : Prop where
  unhidden : s.rows.hidden.contains row = false
  allowed : s.filterEnabled = true → ∀ e ∈ s.filters.entries, e.2.contains (s.raw ⟨row, e.1⟩) = true

/-- A cell that steps may lead to. -/
structure Shows (s : Sheet) (dr dc : Int) (x : Place) : Prop where
  encloses : s.Encloses x
  row : dr ≠ 0 → s.ShowsRow x.1.toNat
  col : dc ≠ 0 → s.cols.hidden.contains x.2.toNat = false

/-- A cell that steps pass over. -/
def Passes (s : Sheet) (dr dc : Int) (x : Place) : Prop := s.Encloses x ∧ ¬s.Shows dr dc x

/-- The first cell that is shown is some steps ahead, and the way there is inside the bounds. -/
structure Lands (s : Sheet) (dr dc : Int) (start : Position) (k : Nat) : Prop where
  nearest : IsLeast {k | 0 < k ∧ s.Shows dr dc (after dr dc start k)} k
  inside : ∀ j < k, s.Encloses (after dr dc start j)

/-- Some steps lead out of the bounds, and to no cell that is shown before. -/
structure Leaves (s : Sheet) (dr dc : Int) (start : Position) (k : Nat) : Prop where
  outside : ¬s.Encloses (after dr dc start k)
  before : ∀ j < k, 0 < j → ¬s.Shows dr dc (after dr dc start j)

instance (s : Sheet) (x : Place) : Decidable (s.Encloses x) := inferInstanceAs (Decidable (_ ∧ _))

variable {s : Sheet} {dr dc : Int} {x : Place} {start : Position} {k n fuel : Nat}

theorem isRowHidden_eq_false_iff (s : Sheet) (row : Nat) : s.isRowHidden row = false ↔ s.ShowsRow row := by
  have read : s.isRowHidden row = false ↔ s.rows.hidden.contains row = false ∧
      (s.filterEnabled = true → ∀ e ∈ s.filters.entries, e.2.contains (s.raw ⟨row, e.1⟩) = true) := by
    cases enabled : s.filterEnabled <;> simp [isRowHidden, isRowFiltered, enabled]
  rw [read]
  exact ⟨fun shown => ⟨shown.1, shown.2⟩, fun shows => ⟨shows.unhidden, shows.allowed⟩⟩

theorem isSkipped_eq_false_iff (s : Sheet) (dr dc : Int) (p : Position) : s.isSkipped dr dc p = false ↔
    (dr ≠ 0 → s.ShowsRow p.row) ∧ (dc ≠ 0 → s.cols.hidden.contains p.col = false) := by
  rw [← isRowHidden_eq_false_iff]
  by_cases dr = 0 <;> by_cases dc = 0 <;> simp [isSkipped, isColHidden, *]

theorem encloses_iff : s.Encloses x ↔ (0 ≤ x.1 ∧ 0 ≤ x.2) ∧ s.inBounds x.position = true := by
  rw [Encloses, inBounds_iff, position]
  refine and_congr_right fun ⟨row, col⟩ => ?_
  dsimp only
  omega

theorem encloses_start (inside : s.inBounds start = true) : s.Encloses (after dr dc start 0) := by
  obtain ⟨row, col⟩ := inBounds_iff.1 inside
  rw [after_zero, Encloses, Position.place]
  dsimp only
  omega

theorem place_position (encloses : s.Encloses x) : x.position.place = x := by
  obtain ⟨⟨row, col⟩, _⟩ := encloses
  exact Prod.ext (Int.toNat_of_nonneg row) (Int.toNat_of_nonneg col)

theorem shows_iff (encloses : s.Encloses x) : s.Shows dr dc x ↔ s.isSkipped dr dc x.position = false := by
  rw [isSkipped_eq_false_iff]
  exact ⟨fun shows => ⟨shows.row, shows.col⟩, fun shown => ⟨encloses, shown.1, shown.2⟩⟩

theorem passes_iff (encloses : s.Encloses x) : s.Passes dr dc x ↔ s.isSkipped dr dc x.position = true := by
  rw [Passes, shows_iff encloses, Bool.not_eq_false, and_iff_right encloses]

instance (s : Sheet) (dr dc : Int) (x : Place) : Decidable (s.Shows dr dc x) :=
  decidable_of_iff (s.Encloses x ∧ s.isSkipped dr dc x.position = false)
    ⟨fun shown => (shows_iff shown.1).2 shown.2, fun shows => ⟨shows.encloses, (shows_iff shows.encloses).1 shows⟩⟩

section Ending

/-- As many steps as there are lines lead past the first of them or past the last. -/
theorem not_within {i count : Nat} {d : Int} (moves : d ≠ 0) (inside : i < count) :
    ¬(0 ≤ (i : Int) + count * d ∧ (i : Int) + count * d < count) := by
  rintro ⟨low, high⟩
  obtain back | forth := Int.lt_or_gt_of_ne moves
  · have : (count : Int) * d ≤ count * -1 := Int.mul_le_mul_of_nonneg_left (by omega) (by omega)
    omega
  · have : (count : Int) * 1 ≤ count * d := Int.mul_le_mul_of_nonneg_left (by omega) (by omega)
    omega

theorem exists_not_passes (inside : s.inBounds start = true) (dr dc : Int) :
    ∃ k, (0 < k ∧ ¬s.Passes dr dc (after dr dc start k)) ∧ k ≤ s.rows.count + s.cols.count := by
  obtain ⟨row, col⟩ := inBounds_iff.1 inside
  by_cases down : dr = 0
  · by_cases across : dc = 0
    · refine ⟨1, ⟨Nat.one_pos, fun passes => passes.2 ⟨passes.1, fun ne => absurd down ne, fun ne => absurd across ne⟩⟩, ?_⟩
      omega
    · refine ⟨s.cols.count, ⟨Nat.zero_lt_of_lt col, fun passes => ?_⟩, Nat.le_add_left _ _⟩
      exact not_within across col ⟨passes.1.1.2, passes.1.2.2⟩
  · refine ⟨s.rows.count, ⟨Nat.zero_lt_of_lt row, fun passes => ?_⟩, Nat.le_add_right _ _⟩
    exact not_within down row ⟨passes.1.1.1, passes.1.2.1⟩

/-- The number of steps that end a move. -/
def Stops (s : Sheet) (dr dc : Int) (start : Position) : Nat → Prop :=
  IsLeast {k | 0 < k ∧ ¬s.Passes dr dc (after dr dc start k)}

theorem exists_stops (inside : s.inBounds start = true) (dr dc : Int) :
    ∃ k, s.Stops dr dc start k ∧ k ≤ s.rows.count + s.cols.count := by
  classical
  obtain ⟨k, stops, le⟩ := exists_not_passes inside dr dc
  have first : s.Stops dr dc start _ := Nat.isLeast_find ⟨k, stops⟩
  exact ⟨_, first, (first.2 stops).trans le⟩

theorem Stops.passes (stops : s.Stops dr dc start k) {j : Nat} (pos : 0 < j) (less : j < k) :
    s.Passes dr dc (after dr dc start j) :=
  of_not_not fun not => Nat.not_le.2 less (stops.2 ⟨pos, not⟩)

theorem Stops.ends (stops : s.Stops dr dc start k) :
    Ends (s.Passes dr dc) (step dr dc) (after dr dc start 1) (after dr dc start k) := by
  have one : 1 ≤ k := stops.1.1
  refine ⟨k - 1, ?_, stops.1.2, fun m less => ?_⟩
  · rw [iterate_step, Nat.add_sub_cancel' one]
  · rw [iterate_step]
    exact stops.passes (by omega) (by omega)

theorem Stops.lands (stops : s.Stops dr dc start k) (inside : s.inBounds start = true)
    (encloses : s.Encloses (after dr dc start k)) : s.Lands dr dc start k := by
  have shows : s.Shows dr dc (after dr dc start k) := of_not_not fun hides => stops.1.2 ⟨encloses, hides⟩
  refine ⟨⟨⟨stops.1.1, shows⟩, fun j ⟨pos, shows⟩ => stops.2 ⟨pos, fun passes => passes.2 shows⟩⟩, fun j less => ?_⟩
  obtain rfl | pos := Nat.eq_zero_or_pos j
  · exact encloses_start inside
  · exact (stops.passes pos less).1

theorem Stops.leaves (stops : s.Stops dr dc start k) (outside : ¬s.Encloses (after dr dc start k)) :
    s.Leaves dr dc start k :=
  ⟨outside, fun _ less pos => (stops.passes pos less).2⟩

theorem Lands.stops (lands : s.Lands dr dc start k) : s.Stops dr dc start k := by
  refine ⟨⟨lands.nearest.1.1, fun passes => passes.2 lands.nearest.1.2⟩, fun j ⟨pos, not⟩ => ?_⟩
  refine Nat.not_lt.1 fun less => not ⟨lands.inside j less, fun shows => ?_⟩
  exact Nat.not_le.2 less (lands.nearest.2 ⟨pos, shows⟩)

/-- Where some steps lead out, a move ends outside too, though it may be earlier. -/
theorem Leaves.outside_of_stops (leaves : s.Leaves dr dc start k) (inside : s.inBounds start = true)
    (stops : s.Stops dr dc start n) : ¬s.Encloses (after dr dc start n) := by
  intro encloses
  have shows := (stops.lands inside encloses).nearest.1
  have pos : 0 < k := Nat.pos_of_ne_zero fun zero => leaves.outside (zero ▸ encloses_start inside)
  have le : n ≤ k := stops.2 ⟨pos, fun passes => leaves.outside passes.1⟩
  obtain rfl | less := le.eq_or_lt
  · exact leaves.outside encloses
  · exact leaves.before n less shows.1 shows.2

end Ending

section Walk

theorem signed_eq (fits : n < Text.indexLimit / 2) : signed n = n := by
  have low : -((Text.indexLimit : Int) / 2) ≤ n := by omega
  have high : (n : Int) < ((Text.indexLimit : Int) + 1) / 2 := by omega
  exact Int.bmod_eq_of_le low high

theorem walk_succ (s : Sheet) (dr dc : Int) (fuel : Nat) (x : Place) : s.walk dr dc (fuel + 1) x.1 x.2 =
    if s.Encloses (step dr dc x) then
      if s.isSkipped dr dc (step dr dc x).position then s.walk dr dc fuel (step dr dc x).1 (step dr dc x).2
      else some (step dr dc x).position
    else none := by
  have off : (step dr dc x).1 < 0 || (step dr dc x).2 < 0 || !s.inBounds (step dr dc x).position ↔
      ¬s.Encloses (step dr dc x) := by
    rw [encloses_iff, ← Int.not_lt, ← Int.not_lt]
    simp only [Bool.or_eq_true, decide_eq_true_eq, Bool.not_eq_true', not_and_or, not_not, Bool.not_eq_true]
  rw [← ite_not]
  exact if_congr off rfl rfl

theorem walk_of_stops (stops : s.Stops dr dc start k) {j : Nat} (less : j < k) (enough : k ≤ j + fuel) :
    s.walk dr dc fuel (after dr dc start j).1 (after dr dc start j).2 =
      if s.Encloses (after dr dc start k) then some (after dr dc start k).position else none := by
  -- on the rounds left, from the cell that the loop has come to: the ways there and ahead make up all the steps
  induction fuel generalizing j with
  | zero => exact absurd less (Nat.not_lt.2 enough)
  | succ fuel ih =>
    rw [walk_succ, step_after]
    obtain rfl | less := Nat.eq_or_lt_of_le (Nat.succ_le_of_lt less)
    · refine if_ctx_congr Iff.rfl (fun encloses => if_neg ?_) fun _ => rfl
      rw [← passes_iff encloses]
      exact stops.1.2
    · have passes := stops.passes (Nat.succ_pos j) less
      rw [if_pos passes.1, if_pos ((passes_iff passes.1).1 passes)]
      exact ih less (by omega)

theorem stepVisible_of_stops (stops : s.Stops dr dc start k) (enough : k ≤ s.rows.count + s.cols.count)
    (row : start.row < Text.indexLimit / 2) (col : start.col < Text.indexLimit / 2) :
    s.stepVisible start dr dc =
      if s.Encloses (after dr dc start k) then (after dr dc start k).position else start := by
  have reached : k ≤ 0 + (s.rows.count + s.cols.count + 1) := by omega
  have walked := walk_of_stops stops stops.1.1 reached
  rw [after_zero, Position.place] at walked
  rw [stepVisible, signed_eq row, signed_eq col, walked]
  split <;> rfl

end Walk

/-- A move from inside the bounds, where signed coordinates hold its start, comes to an end. It leads to the nearest cell
that is shown, and back to its start if the steps lead out of the bounds before. -/
theorem stepVisible_nearest (inside : s.inBounds start = true) (row : start.row < Text.indexLimit / 2)
    (col : start.col < Text.indexLimit / 2) (dr dc : Int) :
    (∃ x, Ends (s.Passes dr dc) (step dr dc) (after dr dc start 1) x ∧
      s.stepVisible start dr dc = if s.Encloses x then x.position else start) ∧
    (∃ k, s.Lands dr dc start k ∨ s.Leaves dr dc start k) ∧
    (∀ k, s.Lands dr dc start k → (s.stepVisible start dr dc).place = after dr dc start k) ∧
    (∀ k, s.Leaves dr dc start k → s.stepVisible start dr dc = start) ∧
    s.inBounds (s.stepVisible start dr dc) = true := by
  obtain ⟨k, stops, enough⟩ := exists_stops inside dr dc
  have found := stepVisible_of_stops stops enough row col
  refine ⟨⟨_, stops.ends, found⟩, ⟨k, ?_⟩, fun n lands => ?_, fun n leaves => ?_, inBounds_stepVisible inside dr dc⟩
  · by_cases encloses : s.Encloses (after dr dc start k)
    · exact Or.inl (stops.lands inside encloses)
    · exact Or.inr (stops.leaves encloses)
  · obtain rfl : k = n := IsLeast.unique stops lands.stops
    have encloses := lands.nearest.1.2.encloses
    rw [found, if_pos encloses, place_position encloses]
  · rw [found, if_neg (leaves.outside_of_stops inside stops)]

/-- On the way down the diagonal, one cell is in a hidden row and the next is in a filtered one. -/
def screened : Sheet :=
  applyAll [.setValue ⟨0, 0⟩ "on", .setValue ⟨3, 0⟩ "on", .setFilter 0 (.ofList ["on"]), .hide .row 1 1] (ofSize "S" 5 5)

theorem stepVisible_nearest_screened :
    screened.inBounds ⟨0, 0⟩ = true ∧ 0 < Text.indexLimit / 2 ∧
      screened.Lands 1 1 ⟨0, 0⟩ 3 ∧ (screened.stepVisible ⟨0, 0⟩ 1 1).place = (3, 3) ∧
      screened.Leaves 2 0 ⟨0, 0⟩ 3 ∧ screened.stepVisible ⟨0, 0⟩ 2 0 = ⟨0, 0⟩ := by
  have inside : screened.inBounds ⟨0, 0⟩ = true := by decide
  have low : 0 < Text.indexLimit / 2 := by decide
  have lands : screened.Lands 1 1 ⟨0, 0⟩ 3 := by
    refine ⟨⟨by decide, fun k ⟨pos, shows⟩ => ?_⟩, by decide⟩
    have before : ∀ k < 3, 0 < k → ¬screened.Shows 1 1 (after 1 1 ⟨0, 0⟩ k) := by decide
    exact Nat.not_lt.1 fun less => before k less pos shows
  have leaves : screened.Leaves 2 0 ⟨0, 0⟩ 3 := ⟨by decide, by decide⟩
  exact ⟨inside, low, lands, (stepVisible_nearest inside low low 1 1).2.2.1 3 lands, leaves,
    (stepVisible_nearest inside low low 2 0).2.2.2.1 3 leaves⟩

end Sheet

end Spreadsheet
