import Spreadsheet.Proofs.Sheet.Bounds
import Spreadsheet.Proofs.Sheet.GridText
import Spreadsheet.Proofs.Sheet.Writing

/-! Pasting. All fields of a text are written, the sheet grows to hold them, and nothing else changes. What was copied from
a range comes back as it was shown there, but for a column that ends with an empty cell: its text is that of a shorter one. -/
namespace Spreadsheet

namespace Range

variable {first last : Nat}

theorem span_eq_concat (ordered : first ≤ last) : span first last = List.range' first (last - first) ++ [last] := by
  rw [span, Nat.succ_sub ordered, List.range'_1_concat, Nat.add_sub_cancel' ordered]

theorem getElem?_span_iff (ordered : first ≤ last) {i k : Nat} :
    (span first last)[i]? = some k ↔ i < last - first + 1 ∧ k = first + i := by
  rw [span, Nat.succ_sub ordered, List.getElem?_eq_some_iff]
  constructor
  · rintro ⟨low, rfl⟩
    exact ⟨by simpa using low, by simp⟩
  · rintro ⟨low, rfl⟩
    exact ⟨by simpa using low, by simp⟩

end Range

namespace Sheet

/-- The fields of a row that are shown in a range. -/
def shownFields (s : Sheet) (r : Range) (row : Nat) : List String :=
  (Range.span r.startCol r.endCol).map fun col => s.display ⟨row, col⟩

def shownRows (s : Sheet) (r : Range) : List (List String) := (Range.span r.startRow r.endRow).map (s.shownFields r)

/-- The last row of a range does not look like the end of its text. -/
def Delimited (s : Sheet) (r : Range) : Prop := r.startCol < r.endCol ∨ s.display ⟨r.endRow, r.startCol⟩ ≠ ""

section Copying

variable (s : Sheet) {r : Range}

theorem copyChars_eq (r : Range) : s.copyChars r = joinLines .feed (s.shownRows r) := by
  rw [copyChars, Text.join_eq, shownRows, joinLines, List.map_map]
  refine congrArg _ (List.map_congr_left fun row _ => ?_)
  rw [Function.comp, joinFields, shownFields, List.map_map]
  rfl

variable (rows : r.startRow ≤ r.endRow) (cols : r.startCol ≤ r.endCol)

include rows in
theorem shownRows_eq_concat : s.shownRows r =
    (List.range' r.startRow (r.endRow - r.startRow)).map (s.shownFields r) ++ [s.shownFields r r.endRow] := by
  rw [shownRows, Range.span_eq_concat rows, List.map_append]
  rfl

include cols in
theorem delimited_iff : s.Delimited r ↔ s.shownFields r r.endRow ≠ [""] := by
  rw [Delimited, shownFields, Range.span_eq_concat cols]
  rcases Nat.lt_or_eq_of_le cols with several | single
  · obtain ⟨n, more⟩ := Nat.exists_eq_add_of_lt several
    have size : r.endCol - r.startCol = n + 1 := by omega
    simp [several, size, List.range'_succ]
  · simp [single]

include cols in
theorem length_of_mem_shownRows {fields : List String} (among : fields ∈ s.shownRows r) : fields.length = r.cols := by
  obtain ⟨row, _, rfl⟩ := List.mem_map.1 among
  rw [shownFields, List.length_map, Range.span, List.length_range', Nat.succ_sub cols, Range.cols]

include rows in
theorem length_shownRows : (s.shownRows r).length = r.rows := by
  rw [shownRows, List.length_map, Range.span, List.length_range', Nat.succ_sub rows, Range.rows]

include rows cols in
theorem tabular_shownRows (plain : ∀ p ∈ r.cells, Plain (s.display p)) : Tabular (s.shownRows r) := by
  refine ⟨?_, fun fields among => ?_, List.forall_mem_map.2 fun row inside => ?_⟩
  · exact List.ne_nil_of_length_pos (s.length_shownRows rows ▸ Nat.succ_pos _)
  · exact List.ne_nil_of_length_pos (s.length_of_mem_shownRows cols among ▸ Nat.succ_pos _)
  · refine List.forall_mem_map.2 fun col inside' => plain _ ?_
    exact List.mem_flatMap.2 ⟨row, inside, List.mem_map.2 ⟨col, inside', rfl⟩⟩

end Copying

section Pasting

variable {s : Sheet} {anchor p : Position} {rows : List (List String)} {field : String} {policy : GrowPolicy}

theorem mem_placed_iff : (p, field) ∈ placed anchor rows ↔
    ∃ i j fields, rows[i]? = some fields ∧ fields[j]? = some field ∧ p = ⟨anchor.row + i, anchor.col + j⟩ := by
  simp only [placed, List.mem_flatMap, List.mem_map, Prod.exists, List.mem_zipIdx_iff_getElem?, Prod.mk.injEq]
  constructor
  · rintro ⟨fields, i, row, field, j, found, rfl, rfl⟩
    exact ⟨i, j, fields, row, found, rfl⟩
  · rintro ⟨i, j, fields, row, found, rfl⟩
    exact ⟨fields, i, row, field, j, found, rfl, rfl⟩

theorem unambiguous_placed : Unambiguous (placed anchor rows) := by
  intro p value other listed listed'
  obtain ⟨i, j, fields, row, found, rfl⟩ := mem_placed_iff.1 listed
  obtain ⟨i', j', fields', row', found', same⟩ := mem_placed_iff.1 listed'
  obtain ⟨rfl, rfl⟩ : i = i' ∧ j = j' := by simpa using same
  obtain rfl := Option.some.inj (row.symm.trans row')
  exact Option.some.inj (found.symm.trans found')

theorem width_le_iff {n : Nat} : width rows ≤ n ↔ ∀ fields ∈ rows, fields.length ≤ n := by
  refine (foldl_max_le_iff (m := id) (g := id) (fun _ _ => rfl) (rows.map List.length) 0).trans ?_
  rw [List.forall_mem_map]
  exact and_iff_right (Nat.zero_le n)

/-- The last row and the last column that are reached. -/
def corner (anchor : Position) (written : List (Position × String)) : Position :=
  written.foldl (fun last (p, _) => ⟨max last.row p.row, max last.col p.col⟩) anchor

variable {entries : List (Position × String)}

theorem row_corner_le_iff {n : Nat} : (corner anchor entries).row ≤ n ↔ anchor.row ≤ n ∧ ∀ e ∈ entries, e.1.row ≤ n :=
  foldl_max_le_iff (fun _ _ => rfl) entries anchor

theorem col_corner_le_iff {n : Nat} : (corner anchor entries).col ≤ n ↔ anchor.col ≤ n ∧ ∀ e ∈ entries, e.1.col ≤ n :=
  foldl_max_le_iff (fun _ _ => rfl) entries anchor

theorem corner_eq {written : List (Position × String)} {e : Position × String} (listed : e ∈ written)
    (start : anchor.row ≤ e.1.row ∧ anchor.col ≤ e.1.col)
    (most : ∀ d ∈ written, d.1.row ≤ e.1.row ∧ d.1.col ≤ e.1.col) : corner anchor written = e.1 := by
  have row : (corner anchor written).row = e.1.row :=
    Nat.le_antisymm (row_corner_le_iff.2 ⟨start.1, fun d among => (most d among).1⟩)
      ((row_corner_le_iff.1 (Nat.le_refl _)).2 e listed)
  have col : (corner anchor written).col = e.1.col :=
    Nat.le_antisymm (col_corner_le_iff.2 ⟨start.2, fun d among => (most d among).2⟩)
      ((col_corner_le_iff.1 (Nat.le_refl _)).2 e listed)
  exact (Position.mk.injEq _ _ _ _).mpr ⟨row, col⟩

/-- The sheet with the room that is made for rows. -/
def withRoom (policy : GrowPolicy) (anchor : Position) (rows : List (List String)) (s : Sheet) : Sheet :=
  match policy with
  | .grow => s.ensureSize (anchor.row + rows.length) (anchor.col + width rows)
  | .clamp => s

/-- The sums that say how far a sheet is to grow are below the limit. -/
def RoomForRows (anchor : Position) (rows : List (List String)) : Prop :=
  anchor.row + rows.length < Text.indexLimit ∧ anchor.col + width rows < Text.indexLimit

instance (anchor : Position) (rows : List (List String)) : Decidable (RoomForRows anchor rows) :=
  inferInstanceAs (Decidable (_ ∧ _))

/-- The fields that have a cell inside the bounds. -/
def written (anchor : Position) (rows : List (List String)) (s : Sheet) : List (Position × String) :=
  (placed anchor rows).filter fun (p, _) => s.inBounds p

theorem unambiguous_written (t : Sheet) : Unambiguous (written anchor rows t) := by
  intro p value other listed listed'
  exact unambiguous_placed p value other (List.mem_filter.1 listed).1 (List.mem_filter.1 listed').1

theorem grid_withRoom (policy : GrowPolicy) : (s.withRoom policy anchor rows).grid = s.grid := by cases policy <;> rfl

theorem inBounds_withRoom_grow (low : p.row < anchor.row + rows.length) (low' : p.col < anchor.col + width rows) :
    (s.withRoom .grow anchor rows).inBounds p = true :=
  inBounds_iff.2 ⟨Nat.lt_of_lt_of_le low (Nat.le_max_right _ _), Nat.lt_of_lt_of_le low' (Nat.le_max_right _ _)⟩

theorem pasteRows_cases (s : Sheet) (anchor : Position) (rows : List (List String)) (policy : GrowPolicy) :
    (rows = [] ∨ (s.withRoom policy anchor rows).inBounds anchor = false) ∧ s.pasteRows anchor rows policy = (none, s) ∨
      (rows ≠ [] ∧ (s.withRoom policy anchor rows).inBounds anchor = true) ∧ s.pasteRows anchor rows policy =
        (some (Range.between anchor (corner anchor (written anchor rows (s.withRoom policy anchor rows)))),
          (written anchor rows (s.withRoom policy anchor rows)).foldl (fun t (p, field) => t.setValue p field)
            (s.withRoom policy anchor rows)) := by
  by_cases stopped : (rows.isEmpty || !(s.withRoom policy anchor rows).inBounds anchor) = true
  · exact .inl ⟨by simpa using stopped, if_pos stopped⟩
  · exact .inr ⟨by simpa using stopped, if_neg stopped⟩

theorem Fits.withRoom (fits : s.Fits) (room : policy = .grow → RoomForRows anchor rows) :
    (s.withRoom policy anchor rows).Fits := by
  cases policy with
  | clamp => exact fits
  | grow =>
    obtain ⟨low, low'⟩ := room rfl
    exact ⟨fits.grid, { fits.rows with count := Nat.max_lt.2 ⟨fits.rows.count, low⟩ },
      { fits.cols with count := Nat.max_lt.2 ⟨fits.cols.count, low'⟩ }, fits.merges, fits.filters⟩

theorem Fits.of_inBounds (fits : s.Fits) (inside : s.inBounds p = true) : p.Fits :=
  ⟨Nat.lt_trans (inBounds_iff.1 inside).1 fits.rows.count, Nat.lt_trans (inBounds_iff.1 inside).2 fits.cols.count⟩

/-- All fields get a cell that words can name, for those that have none inside the bounds are dropped. -/
theorem Fits.pasteRows (fits : s.Fits) (room : policy = .grow → RoomForRows anchor rows) :
    (s.pasteRows anchor rows policy).2.Fits := by
  rcases s.pasteRows_cases anchor rows policy with ⟨_, pasted⟩ | ⟨_, pasted⟩
  · rw [pasted]
    exact fits
  · have roomy := fits.withRoom room
    rw [pasted]
    refine (enters_enter (unambiguous_written _) _).fits roomy (fun e among => ?_) fun _ _ _ small => small
    exact roomy.of_inBounds (List.mem_filter.1 among).2

/-- What lies outside the fields is left as it was. -/
theorem get?_pasteRows_of_forall_ne (fresh : ∀ field, (p, field) ∉ placed anchor rows) (policy : GrowPolicy) :
    (s.pasteRows anchor rows policy).2.grid.get? p = s.grid.get? p := by
  rcases s.pasteRows_cases anchor rows policy with ⟨_, pasted⟩ | ⟨_, pasted⟩
  · rw [pasted]
  · have spared : ∀ field, (p, field) ∉ written anchor rows (s.withRoom policy anchor rows) :=
      fun field inside => fresh field (List.mem_filter.1 inside).1
    rw [pasted]
    exact ((enters_enter (unambiguous_written _) _).get?_of_forall_ne spared).trans
      (congrArg (·.get? p) (grid_withRoom policy))

/-- The sheet grows to hold all fields. -/
theorem written_withRoom_grow : written anchor rows (s.withRoom .grow anchor rows) = placed anchor rows := by
  refine List.filter_eq_self.2 fun (p, field) listed => ?_
  obtain ⟨i, j, fields, row, found, rfl⟩ := mem_placed_iff.1 listed
  obtain ⟨low, rfl⟩ := List.getElem?_eq_some_iff.1 row
  obtain ⟨low', _⟩ := List.getElem?_eq_some_iff.1 found
  have narrow := Nat.lt_of_lt_of_le low' (width_le_iff.1 (Nat.le_refl _) _ (List.getElem_mem low))
  exact inBounds_withRoom_grow (Nat.add_lt_add_left low _) (Nat.add_lt_add_left narrow _)

theorem inBounds_anchor_withRoom_grow {fields : List String} (among : fields ∈ rows) (filled : fields ≠ []) :
    (s.withRoom .grow anchor rows).inBounds anchor = true := by
  have wide : 0 < width rows := Nat.lt_of_lt_of_le (List.length_pos_iff.2 filled) (width_le_iff.1 (Nat.le_refl _) _ among)
  exact inBounds_withRoom_grow (Nat.lt_add_of_pos_right (List.length_pos_of_mem among)) (Nat.lt_add_of_pos_right wide)

theorem pasteRows_grow {fields : List String} (among : fields ∈ rows) (filled : fields ≠ []) :
    s.pasteRows anchor rows .grow =
      (some (Range.between anchor (corner anchor (placed anchor rows))),
        (placed anchor rows).foldl (fun t (p, field) => t.setValue p field) (s.withRoom .grow anchor rows)) := by
  rcases s.pasteRows_cases anchor rows .grow with ⟨none | outside, _⟩ | ⟨_, pasted⟩
  · exact absurd none (List.ne_nil_of_mem among)
  · rw [inBounds_anchor_withRoom_grow among filled] at outside
    cases outside
  · rw [pasted, written_withRoom_grow]

theorem raw_pasteRows_grow (listed : (p, field) ∈ placed anchor rows) :
    (s.pasteRows anchor rows .grow).2.raw p = field := by
  obtain ⟨i, j, fields, row, found, rfl⟩ := mem_placed_iff.1 listed
  rw [pasteRows_grow (List.mem_of_getElem? row) (List.ne_nil_of_mem (List.mem_of_getElem? found))]
  exact (enters_enter unambiguous_placed _).raw listed

/-- Rows of one length cover the rectangle of their size. -/
theorem pasteRows_grow_fst {n : Nat} (nonempty : rows ≠ []) (size : ∀ fields ∈ rows, fields.length = n + 1) :
    (s.pasteRows anchor rows .grow).1 =
      some ⟨anchor.row, anchor.col, anchor.row + (rows.length - 1), anchor.col + n⟩ := by
  have tall : rows.length - 1 < rows.length := Nat.sub_lt (List.length_pos_iff.2 nonempty) Nat.one_pos
  have final := List.getElem_mem tall
  have wide : n < rows[rows.length - 1].length := by
    rw [size _ final]
    exact Nat.lt_succ_self n
  have listed : (⟨anchor.row + (rows.length - 1), anchor.col + n⟩, rows[rows.length - 1][n]) ∈ placed anchor rows :=
    mem_placed_iff.2 ⟨_, n, _, List.getElem?_eq_getElem tall, List.getElem?_eq_getElem wide, rfl⟩
  have inside {e : Position × String} (listed : e ∈ placed anchor rows) :
      e.1.row ≤ anchor.row + (rows.length - 1) ∧ e.1.col ≤ anchor.col + n := by
    obtain ⟨i, j, fields, row, found, same⟩ := mem_placed_iff.1 listed
    obtain ⟨low, rfl⟩ := List.getElem?_eq_some_iff.1 row
    obtain ⟨low', _⟩ := List.getElem?_eq_some_iff.1 found
    rw [size _ (List.getElem_mem low)] at low'
    rw [same]
    dsimp only
    omega
  rw [pasteRows_grow final (List.length_pos_iff.1 (Nat.zero_lt_of_lt wide)),
    corner_eq listed ⟨Nat.le_add_right _ _, Nat.le_add_right _ _⟩ fun e listed => inside listed]
  simp only [Range.between, Range.spanning, Nat.min_eq_left (Nat.le_add_right _ _),
    Nat.max_eq_right (Nat.le_add_right _ _)]

end Pasting

/-- A range was pasted as it is shown and with its dimensions, and no other cell has changed. -/
structure Reproduces (s : Sheet) (r : Range) (anchor : Position) (t : Sheet) (pasted : Option Range × Sheet) : Prop where
  values : ∀ i < r.rows, ∀ j < r.cols,
    pasted.2.raw ⟨anchor.row + i, anchor.col + j⟩ = s.display ⟨r.startRow + i, r.startCol + j⟩
  covered : ∃ w, pasted.1 = some w ∧ w.rows = r.rows ∧ w.cols = r.cols
  others : ∀ p, (∀ i < r.rows, ∀ j < r.cols, p ≠ ⟨anchor.row + i, anchor.col + j⟩) →
    pasted.2.grid.get? p = t.grid.get? p

section Roundtrip

variable {s t : Sheet} {r : Range} (rows : r.startRow ≤ r.endRow) (cols : r.startCol ≤ r.endCol)
  (plain : ∀ p ∈ r.cells, Plain (s.display p))
include rows cols plain

theorem gridOfText_copyText (delimited : s.Delimited r) : gridOfText (s.copyText r) = s.shownRows r := by
  have tabular := s.tabular_shownRows rows cols plain
  rw [gridOfText, copyText, String.toList_ofList, copyChars_eq]
  rw [s.shownRows_eq_concat rows] at tabular ⊢
  exact tabular.gridOfChars_unended ((s.delimited_iff cols).1 delimited) .feed

/-- The last row is lost, and with it the only other one if that is empty too. -/
theorem gridOfText_copyText_of_not_delimited (undelimited : ¬s.Delimited r) : gridOfText (s.copyText r) =
    if (s.shownRows r).dropLast = [[""]] then [] else (s.shownRows r).dropLast := by
  have tabular := s.tabular_shownRows rows cols plain
  rw [s.delimited_iff cols, Decidable.not_not] at undelimited
  rw [gridOfText, copyText, String.toList_ofList, copyChars_eq]
  rw [s.shownRows_eq_concat rows, undelimited] at tabular ⊢
  rw [List.dropLast_concat]
  exact tabular.gridOfChars_concat .feed

omit plain in
theorem mem_placed_shownRows {anchor p : Position} {field : String} : (p, field) ∈ placed anchor (s.shownRows r) ↔
    ∃ i < r.rows, ∃ j < r.cols, p = ⟨anchor.row + i, anchor.col + j⟩ ∧
      field = s.display ⟨r.startRow + i, r.startCol + j⟩ := by
  simp only [mem_placed_iff, shownRows, List.getElem?_map, Option.map_eq_some_iff, Range.getElem?_span_iff rows]
  constructor
  · rintro ⟨i, j, _, ⟨_, ⟨low, rfl⟩, rfl⟩, found, rfl⟩
    obtain ⟨_, inside, rfl⟩ := Option.map_eq_some_iff.1 (List.getElem?_map ▸ found)
    obtain ⟨low', rfl⟩ := (Range.getElem?_span_iff cols).1 inside
    exact ⟨i, low, j, low', rfl, rfl⟩
  · rintro ⟨i, low, j, low', rfl, rfl⟩
    refine ⟨i, j, _, ⟨_, ⟨low, rfl⟩, rfl⟩, ?_, rfl⟩
    rw [shownFields, List.getElem?_map, (Range.getElem?_span_iff cols).2 ⟨low', rfl⟩, Option.map_some]

theorem reproduces_of_delimited (delimited : s.Delimited r) (anchor : Position) :
    Reproduces s r anchor t (t.pasteText anchor (s.copyText r) .grow) := by
  rw [pasteText, gridOfText_copyText rows cols plain delimited]
  refine ⟨fun i low j low' => ?_, ?_, fun p other => ?_⟩
  · exact raw_pasteRows_grow ((mem_placed_shownRows rows cols).2 ⟨i, low, j, low', rfl, rfl⟩)
  · have nonempty := (s.tabular_shownRows rows cols plain).nonempty
    refine ⟨_, pasteRows_grow_fst nonempty fun _ => s.length_of_mem_shownRows cols, ?_, ?_⟩
    · rw [length_shownRows s rows, Range.rows, Range.rows, Nat.add_sub_cancel_left, Nat.add_sub_cancel]
    · rw [Range.cols, Range.cols, Nat.add_sub_cancel_left]
  · refine get?_pasteRows_of_forall_ne (fun field listed => ?_) .grow
    obtain ⟨i, low, j, low', same, _⟩ := (mem_placed_shownRows rows cols).1 listed
    exact other i low j low' same

/-- What is read has no more rows than the range and rows of its width. -/
theorem size_gridOfText_copyText : (gridOfText (s.copyText r)).length ≤ r.rows ∧
    ∀ fields ∈ gridOfText (s.copyText r), fields.length = r.cols := by
  have size (fields : List String) (among : fields ∈ s.shownRows r) := s.length_of_mem_shownRows cols among
  have tall := s.length_shownRows rows
  by_cases delimited : s.Delimited r
  · rw [gridOfText_copyText rows cols plain delimited]
    exact ⟨Nat.le_of_eq tall, size⟩
  · rw [gridOfText_copyText_of_not_delimited rows cols plain delimited]
    split
    · exact ⟨Nat.zero_le _, nofun⟩
    · rw [List.length_dropLast, tall]
      exact ⟨Nat.sub_le _ _, fun fields among => size fields (List.dropLast_subset _ among)⟩

theorem roomForRows_copyText {anchor : Position}
    (room : anchor.row + r.rows < Text.indexLimit ∧ anchor.col + r.cols < Text.indexLimit) :
    RoomForRows anchor (gridOfText (s.copyText r)) := by
  obtain ⟨short, size⟩ := size_gridOfText_copyText rows cols plain
  have narrow := width_le_iff.2 fun fields among => Nat.le_of_eq (size fields among)
  exact ⟨Nat.lt_of_le_of_lt (Nat.add_le_add_left short _) room.1,
    Nat.lt_of_le_of_lt (Nat.add_le_add_left narrow _) room.2⟩

theorem length_gridOfText_copyText_lt (undelimited : ¬s.Delimited r) : (gridOfText (s.copyText r)).length < r.rows := by
  rw [gridOfText_copyText_of_not_delimited rows cols plain undelimited]
  split
  · exact Nat.succ_pos _
  · rw [List.length_dropLast, s.length_shownRows rows]
    exact Nat.lt_succ_self _

theorem pasteText_of_not_delimited (undelimited : ¬s.Delimited r) (anchor : Position) :
    ((t.pasteText anchor (s.copyText r) .grow).1 = none ∨
        ∃ w, (t.pasteText anchor (s.copyText r) .grow).1 = some w ∧ w.rows < r.rows) ∧
      ∀ col, (t.pasteText anchor (s.copyText r) .grow).2.grid.get? ⟨anchor.row + (r.endRow - r.startRow), col⟩ =
        t.grid.get? ⟨anchor.row + (r.endRow - r.startRow), col⟩ := by
  have short := length_gridOfText_copyText_lt rows cols plain undelimited
  obtain ⟨_, size⟩ := size_gridOfText_copyText rows cols plain
  rw [pasteText]
  generalize gridOfText (s.copyText r) = grid at short size
  rw [Range.rows, Nat.lt_succ_iff] at short
  constructor
  · by_cases nonempty : grid = []
    · subst nonempty
      exact .inl rfl
    · refine .inr ⟨_, pasteRows_grow_fst nonempty size, ?_⟩
      have tall := List.length_pos_iff.2 nonempty
      simp only [Range.rows]
      omega
  · intro col
    refine get?_pasteRows_of_forall_ne (fun field listed => ?_) .grow
    obtain ⟨i, j, fields, row, _, same⟩ := mem_placed_iff.1 listed
    obtain ⟨low, _⟩ := List.getElem?_eq_some_iff.1 row
    have here : anchor.row + (r.endRow - r.startRow) = anchor.row + i := congrArg Position.row same
    omega

/-- Where a sheet fits and has room for the range from the anchor on, what is copied and pasted comes back as it is shown just
when the last row does not look like the end of the text; when it does, the row that it was to be pasted to stays as it was.
In both cases the sheet that is left fits. -/
theorem reproduces_pasteText_iff (fits : t.Fits) {anchor : Position}
    (room : anchor.row + r.rows < Text.indexLimit ∧ anchor.col + r.cols < Text.indexLimit) :
    (Reproduces s r anchor t (t.pasteText anchor (s.copyText r) .grow) ↔ s.Delimited r) ∧
      (¬s.Delimited r → ∀ col,
        (t.pasteText anchor (s.copyText r) .grow).2.grid.get? ⟨anchor.row + (r.endRow - r.startRow), col⟩ =
          t.grid.get? ⟨anchor.row + (r.endRow - r.startRow), col⟩) ∧
      (t.pasteText anchor (s.copyText r) .grow).2.Fits := by
  refine ⟨⟨fun reproduces => ?_, fun delimited => reproduces_of_delimited rows cols plain delimited anchor⟩,
    fun undelimited => (pasteText_of_not_delimited rows cols plain undelimited anchor).2,
    fits.pasteRows fun _ => roomForRows_copyText rows cols plain room⟩
  by_cases delimited : s.Delimited r
  · exact delimited
  exfalso
  obtain ⟨w, covered, size, _⟩ := reproduces.covered
  rcases (pasteText_of_not_delimited (t := t) rows cols plain delimited anchor).1 with none | ⟨w', covered', short⟩
  · rw [none] at covered
    cases covered
  · obtain rfl := Option.some.inj (covered.symm.trans covered')
    omega

end Roundtrip

/-- Two cells with a corner in common, and nothing in the others. -/
def diagonal : Sheet := ((ofSize "Diagonal" 2 2).setValue ⟨0, 0⟩ "a").setValue ⟨1, 1⟩ "b"

theorem reproduces_pasteText_iff_diagonal :
    ((∀ p ∈ Range.cells ⟨0, 0, 1, 1⟩, Plain (diagonal.display p)) ∧ diagonal.Fits) ∧ Reproduces diagonal ⟨0, 0, 1, 1⟩ ⟨1, 0⟩ diagonal
      (diagonal.pasteText ⟨1, 0⟩ (diagonal.copyText ⟨0, 0, 1, 1⟩) .grow) := by
  have plain : ∀ p ∈ Range.cells ⟨0, 0, 1, 1⟩, Plain (diagonal.display p) := by decide +kernel
  have fits : diagonal.Fits := by decide +kernel
  have room : 1 + Range.rows ⟨0, 0, 1, 1⟩ < Text.indexLimit ∧ 0 + Range.cols ⟨0, 0, 1, 1⟩ < Text.indexLimit := by decide
  exact ⟨⟨plain, fits⟩, (reproduces_pasteText_iff (by decide) (by decide) plain fits room).1.2 (.inl (by decide))⟩

/-- The empty cell below the one on the left is not pasted over the one on the right. -/
theorem not_reproduces_diagonal : (∀ p ∈ Range.cells ⟨0, 0, 1, 0⟩, Plain (diagonal.display p)) ∧
    ¬Reproduces diagonal ⟨0, 0, 1, 0⟩ ⟨0, 1⟩ diagonal
      (diagonal.pasteText ⟨0, 1⟩ (diagonal.copyText ⟨0, 0, 1, 0⟩) .grow) := by
  refine ⟨by decide +kernel, fun reproduces => ?_⟩
  have stale := reproduces.values 1 (by decide) 0 (by decide)
  exact absurd stale (by decide +kernel)

end Sheet

end Spreadsheet
