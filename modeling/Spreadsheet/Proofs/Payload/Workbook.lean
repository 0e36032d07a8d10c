import Spreadsheet.Payload.Workbook
import Spreadsheet.Proofs.Payload.Cell

/-! Sheets and workbooks come back from their texts, if they hold only sizes and indices that reading accepts, no
blank cells and at least one row, one column and one sheet. -/
namespace Spreadsheet

open Json Text

theorem readIndex_numeral {i : Nat} (low : i < indexLimit) : readIndex (numeral i) = some i := by
  have canonical : ¬ ((decide ((numeral i).head? = some '0') && decide (numeral i ≠ ['0'])) = true) := by
    cases i with
    | zero => decide
    | succ i => simp [head_numeral_ne_zero (Nat.succ_pos i)]
  rw [readIndex, if_neg canonical, readNumeral_numeral low]

theorem plain_numeral (n : Nat) : escape (numeral n) = numeral n :=
  escape_of_plain fun _ member => plain_of_isDigit (isDigit_of_mem_numeral member)

section Tables

variable {α : Type}

theorem printed_indexedToJson {print : α → Json} {t : Table Nat α} (values : ∀ v, Printed (print v)) :
    Printed (indexedToJson print t) := by
  refine .object ?_ ?_
  · intro m inside
    obtain ⟨e, _, rfl⟩ := List.mem_map.1 inside
    exact ⟨numeral e.1, (plain_numeral _).symm⟩
  · intro m inside
    obtain ⟨e, _, rfl⟩ := List.mem_map.1 inside
    exact values e.2

theorem asIndexed_indexedToJson {print : α → Json} {view : Json → Option α} {t : Table Nat α}
    (keys : ∀ e ∈ t.entries, e.1 < indexLimit) (values : ∀ e ∈ t.entries, view (print e.2) = some e.2) :
    asIndexed view (indexedToJson print t) = some t := by
  have members : (t.entries.map fun e => (numeral e.1, print e.2)).mapM
      (fun m => do return (← readIndex m.1, ← view m.2)) = some t.entries := by
    rw [List.mapM_map]
    refine (mapM_eq_map (g := id) ?_).trans (congrArg some (List.map_id _))
    intro e inside
    simp only [Function.comp_apply, readIndex_numeral (keys e inside), values e inside]
    rfl
  exact Option.map_eq_some_iff.2 ⟨_, members, Table.ofList_entries t⟩

theorem field_indexed {print : α → Json} {view : Json → Option α} {t : Table Nat α} {fields : List Field}
    {name : String}
    (distinct : (fields.map Field.name).Nodup) (inside : ⟨name, !t.isEmpty, indexedToJson print t⟩ ∈ fields)
    (keys : ∀ e ∈ t.entries, e.1 < indexLimit) (values : ∀ e ∈ t.entries, view (print e.2) = some e.2) :
    field (kept fields) name ∅ (asIndexed view) = some t := by
  apply field_kept distinct inside (fun _ => asIndexed_indexedToJson keys values)
  intro left
  exact (Table.eq_empty (by simpa using left)).symm

end Tables

theorem mapM_map_eq {α : Type} {print : α → Json} {view : Json → Option α} {l : List α}
    (each : ∀ a ∈ l, view (print a) = some a) : (l.map print).mapM view = some l := by
  rw [List.mapM_map]
  exact (mapM_eq_map (g := id) each).trans (congrArg some (List.map_id _))

theorem printed_map {α : Type} {print : α → Json} (each : ∀ a, Printed (print a)) (l : List α) :
    Printed (.array (l.map print)) := by
  refine .array ?_
  intro v inside
  obtain ⟨a, _, rfl⟩ := List.mem_map.1 inside
  exact each a

theorem asIndices_indicesToJson {s : Keys Nat} (low : ∀ i ∈ s.toList, i < indexLimit) :
    asIndices (indicesToJson s) = some s := by
  have items : (s.toList.map ofNat).mapM (asNat indexLimit) = some s.toList :=
    mapM_map_eq fun i inside => asNat_ofNat (low i inside)
  rw [indicesToJson, asIndices]
  simp only [asList, Option.bind_eq_bind, Option.bind_some, items, Keys.ofList_toList]
  rfl

theorem asTexts_textsToJson (s : Keys String) : asTexts (textsToJson s) = some s := by
  have items : (s.toList.map ofString).mapM asString = some s.toList := mapM_map_eq fun t _ => asString_ofString t
  rw [textsToJson, asTexts]
  simp only [asList, Option.bind_eq_bind, Option.bind_some, items, Keys.ofList_toList]
  rfl

namespace Sheet

def fields (s : Sheet) : List Field :=
  [⟨"name", true, ofString s.name⟩, ⟨"cells", true, s.grid.toJson⟩, ⟨"numRows", true, ofNat s.rows.count⟩,
    ⟨"numCols", true, ofNat s.cols.count⟩, ⟨"colWidths", !s.cols.sizes.isEmpty, indexedToJson ofNat s.cols.sizes⟩,
    ⟨"rowHeights", !s.rows.sizes.isEmpty, indexedToJson ofNat s.rows.sizes⟩,
    ⟨"hiddenRows", !s.rows.hidden.isEmpty, indicesToJson s.rows.hidden⟩,
    ⟨"hiddenCols", !s.cols.hidden.isEmpty, indicesToJson s.cols.hidden⟩,
    ⟨"freezeRow", s.rows.frozen ≠ 0, ofNat s.rows.frozen⟩, ⟨"freezeCol", s.cols.frozen ≠ 0, ofNat s.cols.frozen⟩,
    ⟨"mergedCells", !s.merges.isEmpty, .array (s.merges.map Range.toJson)⟩, ⟨"filterEnabled", s.filterEnabled, .bool true⟩,
    ⟨"filterValues", !s.filters.isEmpty, indexedToJson textsToJson s.filters⟩]

theorem toJson_eq (s : Sheet) : s.toJson = ofFields s.fields := by simp [toJson, ofFields, fields]

theorem printed (s : Sheet) : Printed s.toJson := by
  rw [toJson_eq]
  refine printed_ofFields _ ?_
  intro f inside _
  simp only [fields, List.mem_cons, List.not_mem_nil, or_false] at inside
  rcases inside with rfl | rfl | rfl | rfl | rfl | rfl | rfl | rfl | rfl | rfl | rfl | rfl | rfl
  all_goals first
    | exact printed_ofString _
    | exact printed_ofNat _
    | exact s.grid.printed
    | exact .bool _
    | exact printed_indexedToJson printed_ofNat
    | exact printed_map printed_ofNat _
    | exact printed_map Range.printed _
    | exact printed_indexedToJson fun texts => printed_map printed_ofString texts.toList

theorem asBound_ofNat {n : Nat} (positive : 0 < n) (low : n < indexLimit) : asBound (ofNat n) = some n := by
  rw [asBound, asNat_ofNat low, Option.map_some, Nat.max_eq_left positive]

section Lines

variable {fields : List Field} {l : Lines} (distinct : (fields.map Field.name).Nodup) (name : String) (fits : l.Fits)
include distinct fits

theorem field_sizes (inside : ⟨name, !l.sizes.isEmpty, indexedToJson ofNat l.sizes⟩ ∈ fields) :
    field (kept fields) name ∅ (asIndexed (asNat sizeLimit)) = some l.sizes :=
  field_indexed distinct inside (fun e member => (fits.sizes e member).1) fun e member => asNat_ofNat (fits.sizes e member).2

theorem field_hidden (inside : ⟨name, !l.hidden.isEmpty, indicesToJson l.hidden⟩ ∈ fields) :
    field (kept fields) name ∅ asIndices = some l.hidden := by
  apply field_kept distinct inside (fun _ => asIndices_indicesToJson fits.hidden)
  intro left
  exact (Table.eq_empty (by simpa using left)).symm

end Lines

theorem ofJson?_toJson {s : Sheet} (regular : s.Regular) (fits : s.Fits) : ofJson? s.toJson = some s := by
  have distinct : (s.fields.map Field.name).Nodup := by simp [fields]
  have record : s.toJson.asRecord fieldNames = some (kept s.fields) := by
    rw [toJson_eq]
    exact asRecord_ofFields rfl distinct
  have bound (name : String) (absent : Nat) {n : Nat} (positive : 0 < n) (low : n < indexLimit)
      (inside : ⟨name, true, ofNat n⟩ ∈ s.fields) : field (kept s.fields) name absent asBound = some n :=
    field_always distinct inside (asBound_ofNat positive low)
  have frozen (name : String) {n : Nat} (low : n < indexLimit) (inside : ⟨name, n ≠ 0, ofNat n⟩ ∈ s.fields) :
      field (kept s.fields) name 0 (asNat indexLimit) = some n :=
        field_unless_default distinct inside (asNat_ofNat low)
  have gridInside : ⟨"cells", true, s.grid.toJson⟩ ∈ s.fields := by simp [fields]
  have mergesInside : ⟨"mergedCells", !s.merges.isEmpty, .array (s.merges.map Range.toJson)⟩ ∈ s.fields :=
    by simp [fields]
  have enabledInside : ⟨"filterEnabled", s.filterEnabled, .bool true⟩ ∈ s.fields := by simp [fields]
  have filtersInside : ⟨"filterValues", !s.filters.isEmpty, indexedToJson textsToJson s.filters⟩ ∈ s.fields :=
    by simp [fields]
  have name : field (kept s.fields) "name" defaultName asString = some s.name :=
    field_always distinct List.mem_cons_self (asString_ofString _)
  have grid : field (kept s.fields) "cells" {} Grid.ofJson? = some s.grid :=
    field_always distinct gridInside (Grid.ofJson?_toJson regular.visible fits.grid)
  have merges : field (kept s.fields) "mergedCells" [] asRanges = some s.merges := by
    refine field_kept distinct mergesInside (fun _ => mapM_map_eq fun r inside => Range.ofJson?_toJson (fits.merges r inside)) ?_
    intro left
    exact (List.isEmpty_iff.1 (by simpa using left)).symm
  have enabled := field_flag distinct enabledInside
  have filters := field_indexed distinct filtersInside fits.filters fun e _ => asTexts_textsToJson e.2
  have numRows := bound "numRows" defaultRows regular.rows fits.rows.count (by simp [fields])
  have numCols := bound "numCols" defaultCols regular.cols fits.cols.count (by simp [fields])
  have rowHeights := field_sizes distinct "rowHeights" fits.rows (by simp [fields])
  have colWidths := field_sizes distinct "colWidths" fits.cols (by simp [fields])
  have hiddenRows := field_hidden distinct "hiddenRows" fits.rows (by simp [fields])
  have hiddenCols := field_hidden distinct "hiddenCols" fits.cols (by simp [fields])
  have freezeRow := frozen "freezeRow" fits.rows.frozen (by simp [fields])
  have freezeCol := frozen "freezeCol" fits.cols.frozen (by simp [fields])
  rw [ofJson?, bind_of_some record, bind_of_some name, bind_of_some grid, bind_of_some numRows,
    bind_of_some rowHeights,
    bind_of_some hiddenRows, bind_of_some freezeRow, bind_of_some numCols, bind_of_some colWidths, bind_of_some hiddenCols,
    bind_of_some freezeCol, bind_of_some merges, bind_of_some enabled, bind_of_some filters]
  rfl

theorem asBound_pos {j : Json} {n : Nat} (read : asBound j = some n) : 0 < n := by
  obtain ⟨m, _, rfl⟩ := Option.map_eq_some_iff.1 read
  exact Nat.le_max_right m 1

theorem bound_pos {record : List (String × Json)} {name : String} {absent n : Nat} (positive : 0 < absent)
    (read : field record name absent asBound = some n) : 0 < n := by
  rcases field_cases read with rfl | ⟨j, view⟩
  · exact positive
  · exact asBound_pos view

theorem exists_record {j : Json} {s : Sheet} (read : ofJson? j = some s) :
    ∃ r, j.asRecord fieldNames = some r ∧ field r "cells" {} Grid.ofJson? = some s.grid ∧
      field r "numRows" defaultRows asBound = some s.rows.count ∧
      field r "numCols" defaultCols asBound = some s.cols.count ∧
      field r "mergedCells" [] asRanges = some s.merges := by
  obtain ⟨r, record, read⟩ := Option.bind_eq_some_iff.1 read
  obtain ⟨name, _, read⟩ := Option.bind_eq_some_iff.1 read
  obtain ⟨grid, cells, read⟩ := Option.bind_eq_some_iff.1 read
  obtain ⟨rows, numRows, read⟩ := Option.bind_eq_some_iff.1 read
  obtain ⟨rowHeights, _, read⟩ := Option.bind_eq_some_iff.1 read
  obtain ⟨hiddenRows, _, read⟩ := Option.bind_eq_some_iff.1 read
  obtain ⟨freezeRow, _, read⟩ := Option.bind_eq_some_iff.1 read
  obtain ⟨cols, numCols, read⟩ := Option.bind_eq_some_iff.1 read
  obtain ⟨colWidths, _, read⟩ := Option.bind_eq_some_iff.1 read
  obtain ⟨hiddenCols, _, read⟩ := Option.bind_eq_some_iff.1 read
  obtain ⟨freezeCol, _, read⟩ := Option.bind_eq_some_iff.1 read
  obtain ⟨merges, mergedCells, read⟩ := Option.bind_eq_some_iff.1 read
  obtain ⟨enabled, _, read⟩ := Option.bind_eq_some_iff.1 read
  obtain ⟨filters, _, read⟩ := Option.bind_eq_some_iff.1 read
  cases read
  exact ⟨r, record, cells, numRows, numCols, mergedCells⟩

theorem regular_ofJson? {j : Json} {s : Sheet} (read : ofJson? j = some s) : s.Regular := by
  obtain ⟨r, _, cells, numRows, numCols, _⟩ := exists_record read
  refine ⟨?_, bound_pos (by decide) numRows, bound_pos (by decide) numCols⟩
  rcases field_cases cells with empty | ⟨j, view⟩
  · rw [← empty]
    exact Grid.noBlank_empty
  · exact Grid.noBlank_ofJson? view

end Sheet

namespace Workbook

theorem printed (w : Workbook) : Printed w.toJson := by
  refine printed_ofFields [⟨"sheets", true, .array (w.sheets.map Sheet.toJson)⟩] ?_
  intro f inside _
  rw [List.mem_singleton.1 inside]
  exact printed_map Sheet.printed _

theorem asSheets_map {sheets : List Sheet} (regular : ∀ s ∈ sheets, s.Regular) (fits : ∀ s ∈ sheets, s.Fits) :
    asSheets (.array (sheets.map Sheet.toJson)) = some sheets :=
  mapM_map_eq fun s inside => Sheet.ofJson?_toJson (regular s inside) (fits s inside)

theorem parse_text {w : Workbook} (regular : w.Regular) (fits : w.Fits) : parse w.toPayload = some w := by
  let fields : List Field := [⟨"sheets", true, .array (w.sheets.map Sheet.toJson)⟩]
  have distinct : (fields.map Field.name).Nodup := by simp [fields]
  have record : w.toJson.asRecord ["sheets"] = some (kept fields) := asRecord_ofFields rfl distinct
  have sheets : required (kept fields) "sheets" asSheets = some w.sheets :=
    required_kept distinct List.mem_cons_self (asSheets_map regular.sheets fits.sheets)
  have kept : ofSheets w.sheets = w := by
    rw [ofSheets, if_neg (by simpa using regular.inhabited)]
  rw [parse, toPayload, String.toList_ofList, bind_of_some (read_write w.printed), bind_of_some record,
    bind_of_some sheets, kept]
  rfl

theorem regular_parse {payload : String} {w : Workbook} (read : parse payload = some w) : w.Regular := by
  obtain ⟨j, _, read⟩ := Option.bind_eq_some_iff.1 read
  obtain ⟨r, _, read⟩ := Option.bind_eq_some_iff.1 read
  obtain ⟨sheets, found, read⟩ := Option.bind_eq_some_iff.1 read
  rw [← Option.some.inj read]
  obtain ⟨items, _, viewed⟩ := Option.bind_eq_some_iff.1 found
  obtain ⟨items, _, viewed⟩ := Option.bind_eq_some_iff.1 viewed
  apply regular_ofSheets
  intro s inside
  obtain ⟨item, _, one⟩ := mem_of_mapM viewed inside
  exact Sheet.regular_ofJson? one

theorem regular_load (payload : Option String) : (load payload).Regular := by
  rw [load]
  cases read : payload.bind parse with
  | none => exact regular_default
  | some w =>
    obtain ⟨text, _, parsed⟩ := Option.bind_eq_some_iff.1 read
    exact regular_parse parsed

end Workbook

/-- Sheets as they come up: made with a size, read from a record, or edited. -/
inductive Sheet.Reachable : Sheet → Prop
  | ofSize (name : String) (rows cols : Nat) : Reachable (.ofSize name rows cols)
  | read {j : Json} {s : Sheet} (read : Sheet.ofJson? j = some s) : Reachable s
  | edit {s : Sheet} (reachable : Reachable s) (e : Sheet.Edit) : Reachable (e.apply s)

theorem Sheet.Reachable.regular {s : Sheet} (reachable : s.Reachable) : s.Regular := by
  induction reachable with
  | ofSize name rows cols => exact regular_ofSize name rows cols
  | read read => exact regular_ofJson? read
  | edit _ e ih => exact ih.apply e

theorem Sheet.Reachable.applyAll {s : Sheet} (reachable : s.Reachable) (edits : List Sheet.Edit) :
    (Sheet.applyAll edits s).Reachable :=
  List.foldlRecOn edits _ reachable fun _ reachable e _ => reachable.edit e

namespace Workbook

/-- Workbooks as they come up: the default one, made of sheets, loaded from any text, or edited. -/
inductive Reachable : Workbook → Prop
  | default : Reachable default
  | ofSheets {sheets : List Sheet} (each : ∀ s ∈ sheets, s.Reachable) : Reachable (ofSheets sheets)
  | load (payload : Option String) : Reachable (load payload)
  | edit {w : Workbook} (reachable : Reachable w) {e : Edit} (incoming : ∀ s ∈ e.incoming, s.Reachable) : Reachable (e.apply w)

theorem Reachable.regular {w : Workbook} (reachable : w.Reachable) : w.Regular := by
  induction reachable with
  | default => exact regular_default
  | ofSheets each => exact regular_ofSheets fun s inside => (each s inside).regular
  | load payload => exact regular_load payload
  | edit _ incoming ih => exact ih.apply fun s inside => (incoming s inside).regular

theorem Reachable.applyAll {w : Workbook} (reachable : w.Reachable) {edits : List Edit}
    (incoming : ∀ e ∈ edits, ∀ s ∈ e.incoming, s.Reachable) : (w.applyAll edits).Reachable := by
  induction edits generalizing w with
  | nil => exact reachable
  | cons e rest ih =>
    apply ih (reachable.edit (incoming e List.mem_cons_self))
    intro f inside
    exact incoming f (List.mem_cons_of_mem _ inside)

/-- Writing a workbook and reading the text back gives the same workbook. -/
theorem parse_toPayload {w : Workbook} (reachable : w.Reachable) (fits : w.Fits) : parse w.toPayload = some w :=
  parse_text reachable.regular fits

/-- The default workbook with filtered, sized, frozen, hidden, merged and styled parts. -/
def decorated : Workbook :=
  default.applyAll <| List.map (Edit.editSheet 0) [.setFilter 0 (Keys.ofList ["", "a\tb"]), .setSize .col 7 90, .freeze .col 1,
    .hide .row 2 3, .merge ⟨4, 4, 5, 6⟩,
    .setCell ⟨1, 2⟩ { value := "=\"é\n\"&A1", bold := true, format := .percent, fontSize := some 14 }]

theorem parse_toPayload_decorated : decorated.Reachable ∧ decorated.Fits ∧ parse decorated.toPayload =
  some decorated := by
  have reachable : decorated.Reachable := by
    apply Reachable.default.applyAll
    intro e inside s incoming
    obtain ⟨edit, _, rfl⟩ := List.mem_map.1 inside
    cases incoming
  have fits : decorated.Fits := by decide +kernel
  exact ⟨reachable, fits, parse_toPayload reachable fits⟩

end Workbook

end Spreadsheet
