import Spreadsheet.Csv.Export
import Spreadsheet.Proofs.Csv.Import
import Spreadsheet.Proofs.Csv.Records

/-! Comma-separated text that was written is read back. A field is read up to its separator whatever it holds, since its
quotes are balanced; so a record is found on the line it was written to, and only empty lines hold none. -/
namespace Spreadsheet

open Text

namespace Csv

variable {c : Char} {f rest pre : List Char} {record : List (List Char)} {n next row : Nat}

theorem plainField_append (plain : ∀ c ∈ f, endsField c = false) (ends : AtFieldEnd rest) :
    plainField (f ++ rest) = (f, rest) := by
  have all : ∀ c ∈ f, (!endsField c) = true := fun c inside => congrArg not (plain c inside)
  exact Prod.ext (takeWhile_append all ends) (dropWhile_append all ends)

theorem quotedField_pair (cs : List Char) :
    quotedField ('"' :: '"' :: cs) = ('"' :: (quotedField cs).1, (quotedField cs).2) := by
  rw [quotedField]

theorem quotedField_other (other : c ≠ '"') (cs : List Char) :
    quotedField (c :: cs) = (c :: (quotedField cs).1, (quotedField cs).2) := by
  rw [quotedField.eq_def]
  split
  next eq => cases eq
  next eq =>
    cases eq
    exact absurd rfl other
  next eq =>
    cases eq
    exact if_neg other

theorem quotedField_close (ends : AtFieldEnd rest) : quotedField ('"' :: rest) = ([], rest) := by
  rw [quotedField.eq_def]
  split
  next eq => cases eq
  next eq =>
    cases eq
    exact absurd (endsField_of_atFieldEnd ends rfl) (by decide)
  next eq =>
    cases eq
    have none : ∀ c ∈ ([] : List Char), endsField c = false := fun c inside => nomatch inside
    exact plainField_append none ends

theorem quotedField_body (f : List Char) (ends : AtFieldEnd rest) :
    quotedField (Quoted.body f ++ '"' :: rest) = (f, rest) := by
  induction f with
  | nil => exact quotedField_close ends
  | cons c f ih =>
    rw [Quoted.body]
    split
    next quote => rw [List.cons_append, List.cons_append, quotedField_pair, ih, quote]
    next other => rw [List.cons_append, quotedField_other other, ih]

theorem field_of_other {cs : List Char} (other : '"' ∉ cs.head?) : field cs = plainField cs := by
  rw [field.eq_def]
  split
  next => exact absurd rfl other
  next => rfl

theorem plain_of_needsQuotes (plain : needsQuotes f = false) : ∀ c ∈ f, c ≠ '"' ∧ endsField c = false := by
  intro c inside
  have other := List.any_eq_false.1 plain c inside
  simpa using other

theorem mem_head?_append (first : c ∈ (f ++ rest).head?) : c ∈ f.head? ∨ c ∈ rest.head? := by
  cases f with
  | nil => exact .inr first
  | cons d f => exact .inl first

/-- A written field starts with a quote, or is written as it is. -/
theorem mem_head?_writeField (first : c ∈ (writeField f ++ rest).head?) :
    c = '"' ∨ (c ∈ f.head? ∧ endsField c = false) ∨ c ∈ rest.head? := by
  rw [writeField] at first
  split at first
  next => exact .inl (Option.some.inj first).symm
  next plain =>
    rcases mem_head?_append first with own | after
    · have inside : c ∈ f := List.mem_of_mem_head? own
      exact .inr (.inl ⟨own, (plain_of_needsQuotes (Bool.eq_false_iff.2 plain) c inside).2⟩)
    · exact .inr (.inr after)

theorem field_writeField (f : List Char) (ends : AtFieldEnd rest) : field (writeField f ++ rest) = (f, rest) := by
  rw [writeField]
  split
  next quoted =>
    rw [Quoted.write, List.cons_append, List.append_assoc]
    exact quotedField_body f ends
  next plain =>
    have plain := plain_of_needsQuotes (Bool.eq_false_iff.2 plain)
    have other : '"' ∉ (f ++ rest).head? := by
      intro first
      rcases mem_head?_append first with own | after
      · exact (plain '"' (List.mem_of_mem_head? own)).1 rfl
      · exact absurd (endsField_of_atFieldEnd ends after) (by decide)
    rw [field_of_other other]
    exact plainField_append (fun c inside => (plain c inside).2) ends

theorem writeRecord_cons (f : List Char) {record : List (List Char)} (more : record ≠ []) :
    writeRecord (f :: record) = writeField f ++ ',' :: writeRecord record := by
  obtain ⟨g, record, rfl⟩ := List.exists_cons_of_ne_nil more
  rfl

theorem fields_writeRecord (filled : record ≠ []) (ends : AtRecordEnd rest) :
    fields (writeRecord record ++ rest) = (record, rest.tail) := by
  induction record with
  | nil => exact absurd rfl filled
  | cons f record ih =>
    by_cases more : record = []
    · subst more
      exact fields_of_atRecordEnd (field_writeField f ends.atFieldEnd) ends
    · rw [writeRecord_cons f more, List.append_assoc, List.cons_append,
        fields_of_comma (field_writeField f (atFieldEnd_comma _)), ih more]

theorem eq_nil_of_writeField (empty : writeField f = []) : f = [] := by
  rw [writeField] at empty
  split at empty
  next => cases empty
  next => exact empty

theorem eq_nil_of_writeRecord (empty : writeRecord record = []) (inside : f ∈ record) : f = [] := by
  cases record with
  | nil => cases inside
  | cons g record =>
    by_cases more : record = []
    · subst more
      obtain rfl := List.mem_singleton.1 inside
      exact eq_nil_of_writeField empty
    · rw [writeRecord_cons g more] at empty
      exact absurd (List.append_eq_nil_iff.1 empty).2 (List.cons_ne_nil _ _)

theorem mem_head?_writeRecord (filled : record ≠ []) (first : c ∈ (writeRecord record ++ rest).head?) :
    c = '"' ∨ c = ',' ∨ (∃ f ∈ record.head?, c ∈ f.head? ∧ endsField c = false) ∨ c ∈ rest.head? := by
  obtain ⟨f, record, rfl⟩ := List.exists_cons_of_ne_nil filled
  by_cases more : record = []
  · subst more
    rcases mem_head?_writeField first with quote | own | after
    · exact .inl quote
    · exact .inr (.inr (.inl ⟨f, rfl, own⟩))
    · exact .inr (.inr (.inr after))
  · rw [writeRecord_cons f more, List.append_assoc] at first
    rcases mem_head?_writeField first with quote | own | after
    · exact .inl quote
    · exact .inr (.inr (.inl ⟨f, rfl, own⟩))
    · exact .inr (.inl (Option.some.inj after).symm)

theorem stops_writeRecord (filled : record ≠ []) : Stops isBreak (writeRecord record) := by
  intro c first
  have first : c ∈ (writeRecord record ++ []).head? := by rwa [List.append_nil]
  rcases mem_head?_writeRecord filled first with rfl | rfl | ⟨f, _, _, plain⟩ | after
  · rfl
  · rfl
  · exact (Bool.or_eq_false_iff.1 plain).2
  · cases after

theorem recordsFrom_writeRecord (filled : record ≠ []) (ends : AtRecordEnd rest) (offset : Nat) :
    recordsFrom offset (writeRecord record ++ rest) =
      (if writeRecord record = [] then [] else [⟨offset, record⟩]) ++
        recordsFrom (offset + (writeRecord record).length) rest := by
  split
  next empty => rw [empty]; rfl
  next solid => exact recordsFrom_append solid (stops_writeRecord filled) (fields_writeRecord filled ends) ends offset

/-- The lines that end in a text, whatever comes after it. -/
def Counts (n : Nat) (pre : List Char) : Prop :=
  ∀ rest, unquotedBreaks false (pre ++ rest) = n + unquotedBreaks false rest

theorem unquotedBreaks_body (f rest : List Char) :
    unquotedBreaks true (Quoted.body f ++ rest) = unquotedBreaks true rest := by
  induction f with
  | nil => rfl
  | cons c f ih =>
    rw [Quoted.body]
    split
    next => simp [unquotedBreaks, ih]
    next other => simp [unquotedBreaks, ih, other]

theorem unquotedBreaks_plain (plain : ∀ c ∈ f, c ≠ '"' ∧ endsField c = false) (rest : List Char) :
    unquotedBreaks false (f ++ rest) = unquotedBreaks false rest := by
  induction f with
  | nil => rfl
  | cons c f ih =>
    obtain ⟨other, inner⟩ := plain c List.mem_cons_self
    have solid : c ≠ '\n' := by rintro rfl; cases inner
    simp [unquotedBreaks, other, solid, ih fun d inside => plain d (List.mem_cons_of_mem _ inside)]

theorem counts_writeField (f : List Char) : Counts 0 (writeField f) := by
  intro rest
  rw [writeField, Nat.zero_add]
  split
  next =>
    rw [Quoted.write, List.cons_append, List.append_assoc]
    simp [unquotedBreaks, unquotedBreaks_body]
  next plain => exact unquotedBreaks_plain (plain_of_needsQuotes (Bool.eq_false_iff.2 plain)) rest

theorem counts_writeRecord (record : List (List Char)) : Counts 0 (writeRecord record) := by
  induction record with
  | nil => exact fun rest => (Nat.zero_add _).symm
  | cons f record ih =>
    by_cases more : record = []
    · subst more
      exact counts_writeField f
    · intro rest
      rw [writeRecord_cons f more, List.append_assoc, counts_writeField, List.cons_append]
      have comma : unquotedBreaks false (',' :: (writeRecord record ++ rest)) =
        unquotedBreaks false (writeRecord record ++ rest) := rfl
      rw [comma, ih rest, Nat.zero_add]

theorem Counts.line (counts : Counts n pre) (record : List (List Char)) :
    Counts (n + 1) (pre ++ (writeRecord record ++ ['\n'])) := by
  intro rest
  rw [List.append_assoc, counts, List.append_assoc, counts_writeRecord, List.singleton_append]
  have line : unquotedBreaks false ('\n' :: rest) = unquotedBreaks false rest + 1 := rfl
  omega

/-- The records of a written text with their rows. An empty line has a row but no record. -/
def filledRows (row : Nat) (records : List (List (List Char))) : List (Nat × List String) :=
  ((records.zipIdx row).filter fun r => writeRecord r.1 ≠ []).map fun r => (r.2, r.1.map fun f => String.ofList (trimChars f))

theorem filledRows_cons (row : Nat) (record : List (List Char)) (records : List (List (List Char))) :
    filledRows row (record :: records) =
      (if writeRecord record = [] then [] else [(row, record.map fun f => String.ofList (trimChars f))]) ++
        filledRows (row + 1) records := by
  rw [filledRows, List.zipIdx_cons, List.filter_cons]
  split <;> simp_all [filledRows]

theorem exists_join_cons (line : List Char) (lines : List (List Char)) : ∃ rest, join '\n' (line :: lines) = line ++ rest ∧
    AtRecordEnd rest ∧ (lines = [] ∧ rest = [] ∨ rest = '\n' :: join '\n' lines) := by
  cases lines with
  | nil => exact ⟨[], (List.append_nil _).symm, atRecordEnd_nil, .inl ⟨rfl, rfl⟩⟩
  | cons second lines => exact ⟨'\n' :: join '\n' (second :: lines), rfl, atRecordEnd_cons rfl _, .inr rfl⟩

theorem place_join {records : List (List (List Char))} (filled : ∀ record ∈ records, record ≠ [])
    (counts : Counts n pre) (free : next ≤ n) :
    place (pre ++ join '\n' (records.map writeRecord)) next
      (recordsFrom pre.length (join '\n' (records.map writeRecord))) = filledRows n records := by
  induction records generalizing n next pre with
  | nil =>
    have none : join '\n' (([] : List (List (List Char))).map writeRecord) = [] := rfl
    rw [none, recordsFrom_nil]
    rfl
  | cons record records ih =>
    obtain ⟨solid, filled⟩ := List.forall_mem_cons.1 filled
    obtain ⟨rest, written, ends, more⟩ := exists_join_cons (writeRecord record) (records.map writeRecord)
    -- what follows the first line is placed below it, whether or not the line holds a record
    have later : ∀ next ≤ n + 1, place (pre ++ (writeRecord record ++ rest)) next
        (recordsFrom (pre.length + (writeRecord record).length) rest) = filledRows (n + 1) records := by
      intro next free
      rcases more with ⟨last, rfl⟩ | rfl
      · rw [List.map_eq_nil_iff.1 last, recordsFrom_nil]
        rfl
      · have below := ih filled (counts.line record) free
        rw [recordsFrom_break rfl]
        simpa [Nat.add_assoc] using below
    have here : unquotedBreaks false ((pre ++ (writeRecord record ++ rest)).take pre.length) = n := by
      have whole := counts []
      rw [List.append_nil] at whole
      rw [List.take_left, whole]
      rfl
    rw [List.map_cons, written, recordsFrom_writeRecord solid ends, filledRows_cons]
    split
    next => exact later next (Nat.le_succ_of_le free)
    next =>
      rw [List.singleton_append, place, here, Nat.max_eq_left free, later (n + 1) (Nat.le_refl _)]
      rfl

theorem mem_head?_join {records : List (List (List Char))} (filled : ∀ record ∈ records, record ≠ [])
    (first : c ∈ (join '\n' (records.map writeRecord)).head?) :
    c = '"' ∨ endsField c = true ∨ ∃ record ∈ records.head?, ∃ f ∈ record.head?, c ∈ f.head? := by
  cases records with
  | nil => cases first
  | cons record records =>
    obtain ⟨rest, written, ends, _⟩ := exists_join_cons (writeRecord record) (records.map writeRecord)
    rw [List.map_cons, written] at first
    rcases mem_head?_writeRecord (filled record List.mem_cons_self) first with quote | rfl | ⟨f, begin, own, _⟩ | after
    · exact .inl quote
    · exact .inr (.inl rfl)
    · exact .inr (.inr ⟨record, rfl, f, begin, own⟩)
    · exact .inr (.inl (endsField_of_atFieldEnd ends.atFieldEnd after))

theorem mem_filledRows_iff {records : List (List (List Char))} {fields : List String} :
    (row, fields) ∈ filledRows 0 records ↔ ∃ record, records[row]? = some record ∧ writeRecord record ≠ [] ∧
      fields = record.map fun f => String.ofList (trimChars f) := by
  rw [filledRows, List.mem_map]
  constructor
  · rintro ⟨⟨record, at_⟩, inside, pair⟩
    obtain ⟨rfl, rfl⟩ := Prod.mk.inj pair
    obtain ⟨listed, solid⟩ := List.mem_filter.1 inside
    exact ⟨record, List.mem_zipIdx_iff_getElem?.1 listed, of_decide_eq_true solid, rfl⟩
  · rintro ⟨record, listed, solid, rfl⟩
    exact ⟨(record, row), List.mem_filter.2 ⟨List.mem_zipIdx_iff_getElem?.2 listed, decide_eq_true solid⟩, rfl⟩

end Csv

namespace Sheet

variable (s : Sheet) {row col : Nat}

def displayedRows (s : Sheet) : List (List (List Char)) := (List.range s.rows.count).map s.displayedRow

theorem toList_toCsv : s.toCsv.toList = join '\n' (s.displayedRows.map Csv.writeRecord) := by
  rw [toCsv, displayedRows, String.toList_ofList, List.map_map]
  rfl

theorem getElem?_displayedRows (inside : row < s.rows.count) : s.displayedRows[row]? = some (s.displayedRow row) := by
  rw [displayedRows, List.getElem?_map, List.getElem?_range inside]
  rfl

theorem getElem?_displayedRow (row : Nat) (inside : col < s.cols.count) :
    (s.displayedRow row)[col]? = some (s.display ⟨row, col⟩).toList := by
  rw [displayedRow, List.getElem?_map, List.getElem?_range inside]
  rfl

theorem eq_zero_of_mem_head?_range {n first : Nat} (top : first ∈ (List.range n).head?) : first = 0 := by
  rw [List.head?_range] at top
  split at top
  next => cases top
  next => exact (Option.some.inj top).symm

theorem eq_of_mem_head?_displayedRows {record : List (List Char)} (top : record ∈ s.displayedRows.head?) :
    record = s.displayedRow 0 := by
  rw [displayedRows, List.head?_map] at top
  obtain ⟨row, least, rfl⟩ := Option.map_eq_some_iff.1 top
  rw [eq_zero_of_mem_head?_range least]

theorem eq_of_mem_head?_displayedRow {field : List Char} (row : Nat) (left : field ∈ (s.displayedRow row).head?) :
    field = (s.display ⟨row, 0⟩).toList := by
  rw [displayedRow, List.head?_map] at left
  obtain ⟨col, least, rfl⟩ := Option.map_eq_some_iff.1 left
  rw [eq_zero_of_mem_head?_range least]

theorem placedRecords_toCsv (unmarked : (s.display ⟨0, 0⟩).toList.head? ≠ some '\ufeff') (inside : 0 < s.cols.count) :
    Csv.placedRecords s.toCsv.toList = Csv.filledRows 0 s.displayedRows := by
  have filled : ∀ record ∈ s.displayedRows, record ≠ [] := by
    intro record listed
    obtain ⟨row, _, rfl⟩ := List.mem_map.1 listed
    exact List.ne_nil_of_mem (List.mem_of_getElem? (s.getElem?_displayedRow row inside))
  have start : '\ufeff' ∉ s.toCsv.toList.head? := by
    intro first
    rw [toList_toCsv] at first
    rcases Csv.mem_head?_join filled first with quote | ends | ⟨record, top, field, left, mark⟩
    · exact absurd quote (by decide)
    · exact absurd ends (by decide)
    · obtain rfl := s.eq_of_mem_head?_displayedRows top
      obtain rfl := s.eq_of_mem_head?_displayedRow 0 left
      exact unmarked mark
  have counts : Csv.Counts 0 [] := fun rest => (Nat.zero_add _).symm
  rw [Csv.placedRecords, Csv.records_of_unmarked start, toList_toCsv]
  exact Csv.place_join filled counts (Nat.le_refl 0)

/-- What a sheet shows is found again in a new sheet, without the blanks around it. -/
theorem raw_importCsv_toCsv (unmarked : (s.display ⟨0, 0⟩).toList.head? ≠ some '\ufeff') (name : String)
    (inRows : row < s.rows.count) (inCols : col < s.cols.count) :
    ((ofSize name 1 1).importCsv s.toCsv).2.raw ⟨row, col⟩ = trim (s.display ⟨row, col⟩) := by
  have placed := s.placedRecords_toCsv unmarked (Nat.zero_lt_of_lt inCols)
  have listed := s.getElem?_displayedRows inRows
  have shown := s.getElem?_displayedRow row inCols
  by_cases empty : Csv.writeRecord (s.displayedRow row) = []
  · have blank := Csv.eq_nil_of_writeRecord empty (List.mem_of_getElem? shown)
    rw [raw_importCsv_of_vacant _ (fun fields filled => ?_) rfl, trim, blank]
    · rfl
    · rw [placed, Csv.mem_filledRows_iff] at filled
      obtain ⟨record, listed', solid, _⟩ := filled
      rw [listed] at listed'
      cases listed'
      exact solid empty
  · have inside := Csv.mem_filledRows_iff.2 ⟨_, listed, empty, rfl⟩
    rw [← placed] at inside
    refine raw_importCsv _ inside ?_
    rw [List.getElem?_map, shown]
    rfl

/-- One column with blank rows around a text that has to be quoted. -/
def notes : Sheet := (ofSize "Notes" 3 1).setValue ⟨1, 0⟩ " say \"hi\",\nthen go "

theorem raw_importCsv_toCsv_notes :
    (notes.display ⟨0, 0⟩).toList.head? ≠ some '\ufeff' ∧ 1 < notes.rows.count ∧ 0 < notes.cols.count ∧
      ((ofSize "Copy" 1 1).importCsv notes.toCsv).2.raw ⟨1, 0⟩ = "say \"hi\",\nthen go" := by
  have unmarked : (notes.display ⟨0, 0⟩).toList.head? ≠ some '\ufeff' := by decide +kernel
  have shown : trim (notes.display ⟨1, 0⟩) = "say \"hi\",\nthen go" := by decide +kernel
  have inRows : 1 < notes.rows.count := by decide
  have inCols : 0 < notes.cols.count := by decide
  exact ⟨unmarked, inRows, inCols, shown ▸ notes.raw_importCsv_toCsv unmarked "Copy" inRows inCols⟩

end Sheet

end Spreadsheet
