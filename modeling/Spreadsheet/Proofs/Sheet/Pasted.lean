import Spreadsheet.Proofs.Sheet.Lines
import Spreadsheet.Proofs.Sheet.Pasting

/-! The effect of pasting. Each field inside the bounds becomes the value of its cell, and everything else but the bounds is
left alone; the range given is the smallest one that holds the fields, and pasting once more changes nothing. -/
namespace Spreadsheet.Sheet

def fieldAt (rows : List (List String)) (i j : Nat) : Option String := rows[i]?.bind fun fields => fields[j]?

/-- A cell inside the bounds that a field goes to. -/
def Reached (anchor : Position) (rows : List (List String)) (t : Sheet) (p : Position) : Prop :=
  t.inBounds p = true ∧ ∃ i j, (fieldAt rows i j).isSome ∧ p = ⟨anchor.row + i, anchor.col + j⟩

/-- What a paste of rows of fields makes of a sheet when it gives a range. -/
structure Pasted (s : Sheet) (anchor : Position) (rows : List (List String)) (policy : GrowPolicy) (w : Range)
    (t : Sheet) : Prop where
  grown : policy = .grow →
    t.rows.count = max s.rows.count (anchor.row + rows.length) ∧ t.cols.count = max s.cols.count (anchor.col + width rows)
  clamped : policy = .clamp → t.rows.count = s.rows.count ∧ t.cols.count = s.cols.count
  rest : t = { s with
    grid := t.grid, rows := { s.rows with count := t.rows.count }, cols := { s.cols with count := t.cols.count } }
  fields : ∀ i j field, fieldAt rows i j = some field → t.inBounds ⟨anchor.row + i, anchor.col + j⟩ = true →
    t.cell ⟨anchor.row + i, anchor.col + j⟩ = (s.cell ⟨anchor.row + i, anchor.col + j⟩).withValue field
  others : ∀ p, ¬Reached anchor rows t p → t.grid.get? p = s.grid.get? p
  origin : w.origin = anchor
  smallest : w.IsHull (Reached anchor rows t)

variable {s t : Sheet} {anchor p : Position} {rows : List (List String)} {policy : GrowPolicy} {field : String}

theorem mem_placed_iff_fieldAt : (p, field) ∈ placed anchor rows ↔
    ∃ i j, fieldAt rows i j = some field ∧ p = ⟨anchor.row + i, anchor.col + j⟩ := by
  simp only [mem_placed_iff, fieldAt, Option.bind_eq_some_iff]
  constructor
  · rintro ⟨i, j, fields, row, found, rfl⟩
    exact ⟨i, j, ⟨fields, row, found⟩, rfl⟩
  · rintro ⟨i, j, ⟨fields, row, found⟩, rfl⟩
    exact ⟨i, j, fields, row, found, rfl⟩

theorem mem_written_iff : (p, field) ∈ written anchor rows t ↔ t.inBounds p = true ∧ (p, field) ∈ placed anchor rows := by
  rw [written, List.mem_filter, and_comm]

theorem reached_iff : Reached anchor rows t p ↔ ∃ field, (p, field) ∈ written anchor rows t := by
  simp only [Reached, mem_written_iff, mem_placed_iff_fieldAt, Option.isSome_iff_exists]
  constructor
  · rintro ⟨inside, i, j, ⟨field, found⟩, here⟩
    exact ⟨field, inside, i, j, found, here⟩
  · rintro ⟨field, inside, i, j, found, here⟩
    exact ⟨inside, i, j, ⟨field, found⟩, here⟩

section Corner

variable {entries : List (Position × String)}

theorem between_corner : Range.between anchor (corner anchor entries) =
    ⟨anchor.row, anchor.col, (corner anchor entries).row, (corner anchor entries).col⟩ := by
  have row := (row_corner_le_iff.1 (Nat.le_refl (corner anchor entries).row)).1
  have col := (col_corner_le_iff.1 (Nat.le_refl (corner anchor entries).col)).1
  rw [Range.between, Range.spanning, Nat.min_eq_left row, Nat.min_eq_left col, Nat.max_eq_right row, Nat.max_eq_right col]

/-- From a cell that is listed to the last row and column that are, a range holds just what is needed. -/
theorem isHull_corner (anchored : ∃ field, (anchor, field) ∈ entries)
    (beyond : ∀ e ∈ entries, anchor.row ≤ e.1.row ∧ anchor.col ≤ e.1.col) :
    (Range.between anchor (corner anchor entries)).IsHull fun p => ∃ field, (p, field) ∈ entries := by
  intro r
  simp only [between_corner, Range.contains_iff .row, Range.Covers, Range.extent, Position.line, Axis.other]
  constructor
  · rintro holds p ⟨field, among⟩
    have row := (row_corner_le_iff.1 (Nat.le_refl (corner anchor entries).row)).2 _ among
    have col := (col_corner_le_iff.1 (Nat.le_refl (corner anchor entries).col)).2 _ among
    exact holds p ⟨⟨(beyond _ among).1, row⟩, (beyond _ among).2, col⟩
  · rintro holds p ⟨⟨top, bottom⟩, left, right⟩
    obtain ⟨⟨first, last⟩, first', last'⟩ := holds anchor anchored
    have row := row_corner_le_iff.2 ⟨last, fun e among => (holds e.1 ⟨e.2, among⟩).1.2⟩
    have col := col_corner_le_iff.2 ⟨last', fun e among => (holds e.1 ⟨e.2, among⟩).2.2⟩
    exact ⟨⟨Nat.le_trans first top, Nat.le_trans bottom row⟩, Nat.le_trans first' left, Nat.le_trans right col⟩

end Corner

section Rows

variable {w : Range}

theorem written_congr (same : ∀ p, s.inBounds p = t.inBounds p) : written anchor rows s = written anchor rows t :=
  List.filter_congr fun e _ => same e.1

theorem pasteRows_snd_of_none (none : (s.pasteRows anchor rows policy).1 = none) :
    (s.pasteRows anchor rows policy).2 = s := by
  rcases s.pasteRows_cases anchor rows policy with ⟨_, pasted⟩ | ⟨_, pasted⟩
  · exact congrArg Prod.snd pasted
  · rw [pasted] at none
    cases none

/-- What is written is all that is inside the new bounds. -/
theorem enters_of_pasteRows (pasted : s.pasteRows anchor rows policy = (some w, t)) :
    (rows ≠ [] ∧ t.inBounds anchor = true) ∧ w = Range.between anchor (corner anchor (written anchor rows t)) ∧
      Enters (written anchor rows t) (s.withRoom policy anchor rows) t := by
  rcases s.pasteRows_cases anchor rows policy with ⟨_, none⟩ | ⟨⟨nonempty, inside⟩, some⟩
  · rw [none] at pasted
    cases pasted
  · rw [some] at pasted
    obtain ⟨rfl, rfl⟩ : _ ∧ _ := by simpa using pasted
    have bounds := inBounds_enter (s.withRoom policy anchor rows) (written anchor rows (s.withRoom policy anchor rows))
    rw [bounds, written_congr bounds]
    exact ⟨⟨nonempty, inside⟩, rfl, enters_enter (unambiguous_written _) _⟩

theorem withRoom_of_pasteRows (pasted : s.pasteRows anchor rows policy = (some w, t)) : t.withRoom policy anchor rows = t := by
  obtain ⟨_, _, enters⟩ := enters_of_pasteRows pasted
  cases policy with
  | grow =>
    rw [enters.rest]
    exact ensureSize_of_le (Nat.le_max_right _ _) (Nat.le_max_right _ _)
  | clamp => rfl

theorem pasteRows_pasteRows :
    (s.pasteRows anchor rows policy).2.pasteRows anchor rows policy = s.pasteRows anchor rows policy := by
  cases pasted : s.pasteRows anchor rows policy with
  | mk range t =>
  cases range with
  | none =>
    obtain rfl : t = s := (congrArg Prod.snd pasted).symm.trans (pasteRows_snd_of_none (congrArg Prod.fst pasted))
    exact pasted
  | some w =>
    obtain ⟨⟨nonempty, inside⟩, rfl, enters⟩ := enters_of_pasteRows pasted
    have room := withRoom_of_pasteRows pasted
    rcases t.pasteRows_cases anchor rows policy with ⟨stopped, _⟩ | ⟨_, again⟩
    · rw [room, inside] at stopped
      exact absurd stopped (by simp [nonempty])
    · rw [again, room, enters.again (unambiguous_written t)]

variable (filled : ∀ fields ∈ rows, fields ≠ [])
include filled

theorem inBounds_withRoom_eq_false_iff (nonempty : rows ≠ []) :
    (s.withRoom policy anchor rows).inBounds anchor = false ↔ policy = .clamp ∧ s.inBounds anchor = false := by
  cases policy with
  | grow =>
    obtain ⟨fields, more, rfl⟩ := List.exists_cons_of_ne_nil nonempty
    have room : (s.withRoom .grow anchor (fields :: more)).inBounds anchor = true :=
      inBounds_anchor_withRoom_grow List.mem_cons_self (filled fields List.mem_cons_self)
    simp [room]
  | clamp => simp [withRoom]

theorem pasteRows_fst_eq_none_iff :
    (s.pasteRows anchor rows policy).1 = none ↔ rows = [] ∨ policy = .clamp ∧ s.inBounds anchor = false := by
  rcases s.pasteRows_cases anchor rows policy with ⟨stopped, pasted⟩ | ⟨⟨nonempty, inside⟩, pasted⟩
  · refine iff_of_true (congrArg Prod.fst pasted) ?_
    by_cases nonempty : rows = []
    · exact .inl nonempty
    · exact .inr ((inBounds_withRoom_eq_false_iff filled nonempty).1 (stopped.resolve_left nonempty))
  · rw [pasted]
    refine iff_of_false nofun ?_
    rintro (none | outside)
    · exact nonempty none
    · rw [(inBounds_withRoom_eq_false_iff filled nonempty).2 outside] at inside
      cases inside

theorem reached_anchor (nonempty : rows ≠ []) (inside : t.inBounds anchor = true) : Reached anchor rows t anchor := by
  obtain ⟨fields, more, rfl⟩ := List.exists_cons_of_ne_nil nonempty
  obtain ⟨field, others, rfl⟩ := List.exists_cons_of_ne_nil (filled fields List.mem_cons_self)
  exact ⟨inside, 0, 0, rfl, rfl⟩

theorem pasted_of_pasteRows (pasted : s.pasteRows anchor rows policy = (some w, t)) : Pasted s anchor rows policy w t := by
  obtain ⟨⟨nonempty, inside⟩, rfl, enters⟩ := enters_of_pasteRows pasted
  have same : (s.withRoom policy anchor rows).grid = s.grid := grid_withRoom policy
  have reached : Reached anchor rows t = fun p => ∃ field, (p, field) ∈ written anchor rows t :=
    funext fun _ => propext reached_iff
  refine ⟨?_, ?_, ?_, fun i j field found inside => ?_, fun p spared => ?_, ?_, ?_⟩
  · rintro rfl
    rw [enters.rest]
    exact ⟨rfl, rfl⟩
  · rintro rfl
    rw [enters.rest]
    exact ⟨rfl, rfl⟩
  · rw [enters.rest]
    cases policy <;> rfl
  · have listed := mem_written_iff.2 ⟨inside, mem_placed_iff_fieldAt.2 ⟨i, j, found, rfl⟩⟩
    rw [enters.cell listed, cell, cell, same]
  · rw [reached] at spared
    rw [enters.get?_of_forall_ne fun field listed => spared ⟨field, listed⟩, same]
  · rw [between_corner]
    rfl
  · rw [reached]
    refine isHull_corner ?_ fun e listed => ?_
    · rw [← reached_iff]
      exact reached_anchor filled nonempty inside
    · obtain ⟨i, j, _, here⟩ := mem_placed_iff_fieldAt.1 (mem_written_iff.1 listed).2
      rw [here]
      exact ⟨Nat.le_add_right _ _, Nat.le_add_right _ _⟩

end Rows

theorem filled_gridOfText (text : String) : ∀ fields ∈ gridOfText text, fields ≠ [] := by
  intro fields among
  rw [gridOfText, gridOfChars] at among
  split at among
  next => cases among
  next =>
    obtain ⟨line, _, rfl⟩ := List.mem_map.1 among
    exact mt List.map_eq_nil_iff.1 (Text.splitOn_ne_nil _ _)

/-- On a sheet that fits, and if it is to grow has room for the text: a paste gives no range just when the text has no rows
or begins outside a sheet that does not grow, and then it changes nothing. Else it writes the fields that have a cell, and
nothing more; the sheet that is left fits, and pasting once more changes nothing. -/
theorem pasteText_pasted {s : Sheet} (fits : s.Fits) {anchor : Position} {text : String} {policy : GrowPolicy}
    (room : policy = .grow → RoomForRows anchor (gridOfText text)) :
    ((s.pasteText anchor text policy).1 = none ↔ gridOfText text = [] ∨ policy = .clamp ∧ s.inBounds anchor = false) ∧
      ((s.pasteText anchor text policy).1 = none → (s.pasteText anchor text policy).2 = s) ∧
      (∀ w, (s.pasteText anchor text policy).1 = some w →
        Pasted s anchor (gridOfText text) policy w (s.pasteText anchor text policy).2) ∧
      (s.pasteText anchor text policy).2.Fits ∧
      (s.pasteText anchor text policy).2.pasteText anchor text policy = s.pasteText anchor text policy := by
  have filled := filled_gridOfText text
  refine ⟨pasteRows_fst_eq_none_iff filled, pasteRows_snd_of_none, fun w covered => ?_, fits.pasteRows room, pasteRows_pasteRows⟩
  exact pasted_of_pasteRows filled (Prod.ext covered rfl)

/-- From the last cell, a field above two others makes the sheet one row and one column longer. -/
theorem pasteText_pasted_diagonal :
    (diagonal.Fits ∧ RoomForRows ⟨1, 1⟩ (gridOfText "x\ny\tz")) ∧
      Pasted diagonal ⟨1, 1⟩ (gridOfText "x\ny\tz") .grow ⟨1, 1, 2, 2⟩ (diagonal.pasteText ⟨1, 1⟩ "x\ny\tz" .grow).2 ∧
      (diagonal.pasteText ⟨1, 1⟩ "x\ny\tz" .grow).2.rows.count = 3 ∧
      (diagonal.pasteText ⟨1, 1⟩ "x\ny\tz" .grow).2.Fits := by
  have fits : diagonal.Fits := by decide +kernel
  have room : RoomForRows ⟨1, 1⟩ (gridOfText "x\ny\tz") := by decide +kernel
  obtain ⟨_, _, pasted, roomy, _⟩ := pasteText_pasted fits fun _ : GrowPolicy.grow = .grow => room
  have pasted := pasted ⟨1, 1, 2, 2⟩ (by decide +kernel)
  exact ⟨⟨fits, room⟩, pasted, (pasted.grown rfl).1.trans (by decide +kernel), roomy⟩

end Spreadsheet.Sheet
