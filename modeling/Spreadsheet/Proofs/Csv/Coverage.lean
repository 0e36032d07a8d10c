import Spreadsheet.Proofs.Csv.Import
import Spreadsheet.Proofs.Csv.Records
import Spreadsheet.Proofs.Sheet.Bounds

/-! What importing records changes, whatever reader they come from. The values of the cells that records cover are
entered and the bounds grow to hold them; if the reader fails or there is nothing to enter, the sheet is left alone. -/
namespace Spreadsheet

open Text

namespace Csv

variable {next row : Nat} {fields : List String} {rows : List (Nat × List String)}

theorem width_le_iff {n : Nat} : width rows ≤ n ↔ ∀ r ∈ rows, r.2.length ≤ n := by
  rw [width, List.foldl_map]
  exact (foldl_max_le_iff (m := id) (fun _ _ => rfl) rows 0).trans (and_iff_right (Nat.zero_le n))

theorem width_eq_zero_iff : width rows = 0 ↔ ∀ r ∈ rows, r.2 = [] := by
  rw [← Nat.le_zero, width_le_iff]
  exact forall₂_congr fun r _ => Nat.le_zero.trans List.length_eq_zero_iff

theorem height_eq_zero_iff : height rows = 0 ↔ rows = [] := by
  rw [height]
  cases last : rows.getLast? with
  | none => simpa using last
  | some r =>
    refine iff_of_false (Nat.succ_ne_zero _) ?_
    rintro rfl
    cases last

section Ascending

variable (ascending : rows.Pairwise fun a b => a.1 < b.1)
include ascending

theorem lt_height_of_mem (placed : (row, fields) ∈ rows) : row < height rows := by
  rcases List.eq_nil_or_concat' rows with rfl | ⟨before, last, rfl⟩
  · cases placed
  · rw [height, List.getLast?_concat]
    rcases List.mem_append.1 placed with inside | here
    · exact Nat.lt_succ_of_lt ((List.pairwise_append.1 ascending).2.2 _ inside last List.mem_cons_self)
    · rw [← List.mem_singleton.1 here]
      exact Nat.lt_succ_self row

/-- Nothing is entered below the last record or beside the longest one. -/
theorem within_of_mem_entries (wide : width rows ≠ 0) {p : Position} {value : String}
    (entered : (p, value) ∈ entries 0 rows) : p.row < height rows ∧ p.col < width rows := by
  rcases entries_cases ascending (fun _ _ => Nat.zero_le _) entered with
    ⟨fields, placed, found⟩ | ⟨_, first, _, ⟨r, inside, above⟩, _⟩
  · have filled := (List.getElem?_eq_some_iff.1 found).1
    exact ⟨lt_height_of_mem ascending placed, Nat.lt_of_lt_of_le filled (width_le_iff.1 (Nat.le_refl _) _ placed)⟩
  · rw [first]
    exact ⟨Nat.lt_trans above (lt_height_of_mem ascending inside), Nat.pos_of_ne_zero wide⟩

end Ascending

end Csv

namespace Sheet

/-- Enters records that have their rows. No range is given if they have no fields. -/
def enterRows (rows : List (Nat × List String)) (s : Sheet) : Option Range × Sheet :=
  if Csv.height rows = 0 ∨ Csv.width rows = 0 then (none, s)
  else
    (some ⟨0, 0, Csv.height rows - 1, Csv.width rows - 1⟩,
      (Csv.entries 0 rows).foldl (fun t (p, field) => t.setValue p field)
        (s.ensureSize (Csv.height rows) (Csv.width rows)))

/-- Enters what a reader gives, unless it fails at some record. -/
def importRead {ε : Type} (content : List Char) (read : List (Except ε Csv.Record)) (s : Sheet) :
    Except ε (Option Range) × Sheet :=
  match read.mapM id with
  | .error e => (.error e, s)
  | .ok records => let (covered, t) := s.enterRows (Csv.place content 0 records); (.ok covered, t)

/-- What the records of a text make of a sheet when they cover a range of it. -/
structure Imported (content : List Char) (records : List Csv.Record) (s : Sheet) (w : Range) (t : Sheet) : Prop where
  origin : w.origin = ⟨0, 0⟩
  rest : t = { s with
    grid := t.grid
    rows := { s.rows with count := max s.rows.count w.rows }
    cols := { s.cols with count := max s.cols.count w.cols } }
  fields : ∀ (i : Nat) (r : Csv.Record), records[i]? = some r →
    ∃ row, ((Csv.place content 0 records).map (·.1))[i]? = some row ∧ ∀ col field, r.fields[col]? = some field →
      w.contains ⟨row, col⟩ = true ∧ t.raw ⟨row, col⟩ = String.ofList (trimChars field)
  outside : ∀ p, w.contains p = false → t.grid.get? p = s.grid.get? p
  values : ∀ p, t.cell p = (s.cell p).withValue (t.raw p)

/-- How an import ends. -/
inductive ImportEnd {ε : Type} (content : List Char) (read : List (Except ε Csv.Record)) (s : Sheet) :
    Except ε (Option Range) → Sheet → Prop
  | failed {e : ε} (stopped : read.mapM id = .error e) : ImportEnd content read s (.error e) s
  | empty {records : List Csv.Record} (whole : read.mapM id = .ok records) (vacant : ∀ r ∈ records, r.fields = []) :
    ImportEnd content read s (.ok none) s
  | covered {records : List Csv.Record} {w : Range} {t : Sheet} (whole : read.mapM id = .ok records)
    (imported : Imported content records s w t) : ImportEnd content read s (.ok (some w)) t

variable {s t : Sheet} {w : Range} {rows : List (Nat × List String)} {content : List Char} {records : List Csv.Record}

theorem enterRows_cases (rows : List (Nat × List String)) (s : Sheet) :
    ((∀ r ∈ rows, r.2 = []) ∧ s.enterRows rows = (none, s)) ∨
      (Csv.height rows ≠ 0 ∧ Csv.width rows ≠ 0 ∧ s.enterRows rows =
        (some ⟨0, 0, Csv.height rows - 1, Csv.width rows - 1⟩,
          (Csv.entries 0 rows).foldl (fun t (p, field) => t.setValue p field)
            (s.ensureSize (Csv.height rows) (Csv.width rows)))) := by
  rw [enterRows]
  split
  next none =>
    refine .inl ⟨?_, rfl⟩
    rcases none with flat | narrow
    · rw [Csv.height_eq_zero_iff.1 flat]
      exact List.forall_mem_nil _
    · exact Csv.width_eq_zero_iff.1 narrow
  next some =>
    obtain ⟨tall, wide⟩ := not_or.1 some
    exact .inr ⟨tall, wide, rfl⟩

section Ascending

variable (ascending : rows.Pairwise fun a b => a.1 < b.1)
include ascending

theorem enters_of_enterRows (entered : s.enterRows rows = (some w, t)) :
    w = ⟨0, 0, Csv.height rows - 1, Csv.width rows - 1⟩ ∧ w.rows = Csv.height rows ∧ w.cols = Csv.width rows ∧
      Csv.width rows ≠ 0 ∧ Enters (Csv.entries 0 rows) (s.ensureSize w.rows w.cols) t := by
  rcases s.enterRows_cases rows with ⟨_, none⟩ | ⟨tall, wide, some⟩
  · rw [none] at entered
    cases entered
  · rw [some] at entered
    obtain ⟨rfl, rfl⟩ : _ ∧ _ := by simpa using entered
    have high : Range.rows ⟨0, 0, Csv.height rows - 1, Csv.width rows - 1⟩ = Csv.height rows :=
      Nat.sub_add_cancel (Nat.pos_of_ne_zero tall)
    have broad : Range.cols ⟨0, 0, Csv.height rows - 1, Csv.width rows - 1⟩ = Csv.width rows :=
      Nat.sub_add_cancel (Nat.pos_of_ne_zero wide)
    rw [high, broad]
    exact ⟨rfl, rfl, rfl, wide, enters_enter (Csv.unambiguous_entries ascending) _⟩

theorem contains_of_mem_entries (entered : s.enterRows rows = (some w, t)) {p : Position} {value : String}
    (among : (p, value) ∈ Csv.entries 0 rows) : w.contains p = true := by
  obtain ⟨rfl, _, _, wide, _⟩ := enters_of_enterRows ascending entered
  have ⟨high, left⟩ := Csv.within_of_mem_entries ascending wide among
  simp only [Range.contains, Bool.and_eq_true, decide_eq_true_eq]
  omega

theorem enterRows_enterRows : (s.enterRows rows).2.enterRows rows = s.enterRows rows := by
  rcases s.enterRows_cases rows with ⟨_, none⟩ | ⟨tall, wide, some⟩
  · rw [none]
    exact none
  · have enters := enters_enter (Csv.unambiguous_entries ascending) (s.ensureSize (Csv.height rows) (Csv.width rows))
    rw [some, enterRows, if_neg (not_or.2 ⟨tall, wide⟩)]
    rw [ensureSize_of_le, enters.again (Csv.unambiguous_entries ascending)]
    all_goals
      rw [enters.rest]
      exact Nat.le_max_right _ _

end Ascending

theorem imported_of_enterRows (entered : s.enterRows (Csv.place content 0 records) = (some w, t)) :
    Imported content records s w t := by
  have ascending := Csv.ascending_place content 0 records
  obtain ⟨corners, _, _, _, enters⟩ := enters_of_enterRows ascending entered
  refine ⟨?_, enters.rest, fun i r listed => ?_, fun p outside => ?_, enters.cell_eq⟩
  · rw [corners]
    rfl
  · obtain ⟨row, placed⟩ := Csv.getElem?_place content 0 listed
    refine ⟨row, ?_, fun col field found => ?_⟩
    · rw [List.getElem?_map, placed]
      rfl
    · have text : (r.fields.map fun f => String.ofList (trimChars f))[col]? = some (String.ofList (trimChars field)) := by
        rw [List.getElem?_map, found]
        rfl
      have among : (⟨row, col⟩, _) ∈ Csv.entries 0 _ := Csv.mem_entries_of_mem (List.mem_of_getElem? placed) text
      exact ⟨contains_of_mem_entries ascending entered among, enters.raw among⟩
  · refine enters.get?_of_forall_ne fun value among => ?_
    rw [contains_of_mem_entries ascending entered among] at outside
    cases outside

theorem importEnd_enterRows {ε : Type} {read : List (Except ε Csv.Record)} (whole : read.mapM id = .ok records)
    (s : Sheet) : ImportEnd content read s (.ok (s.enterRows (Csv.place content 0 records)).1)
      (s.enterRows (Csv.place content 0 records)).2 := by
  cases entered : s.enterRows (Csv.place content 0 records) with
  | mk covered t =>
  cases covered with
  | some w => exact .covered whole (imported_of_enterRows entered)
  | none =>
    rcases s.enterRows_cases (Csv.place content 0 records) with ⟨vacant, none⟩ | ⟨_, _, some⟩
    · obtain rfl : t = s := congrArg Prod.snd (entered.symm.trans none)
      refine .empty whole fun r among => ?_
      obtain ⟨i, listed⟩ := List.getElem?_of_mem among
      obtain ⟨row, placed⟩ := Csv.getElem?_place content 0 listed
      exact List.map_eq_nil_iff.1 (vacant _ (List.mem_of_getElem? placed))
    · rw [some] at entered
      cases entered

/-- Every record of a text has a field, so that there is nothing to enter only if there is no record. -/
theorem enterRows_placedRecords (content : String) (s : Sheet) :
    s.enterRows (Csv.placedRecords content.toList) = s.importCsv content := by
  rcases s.enterRows_cases (Csv.placedRecords content.toList) with ⟨vacant, none⟩ | ⟨tall, _, some⟩
  · have nothing : Csv.placedRecords content.toList = [] := by
      refine List.eq_nil_iff_forall_not_mem.2 fun r placed => ?_
      obtain ⟨r', among, text⟩ : ∃ r' ∈ Csv.records content.toList, _ = r.2 := by
        rw [← List.mem_map, ← Csv.map_snd_place content.toList 0]
        exact List.mem_map_of_mem placed
      rw [vacant r placed] at text
      exact Csv.fields_ne_nil_of_mem_records among (List.map_eq_nil_iff.1 text)
    rw [none, importCsv, nothing]
    rfl
  · have several : (Csv.placedRecords content.toList).isEmpty = false :=
      List.isEmpty_eq_false_iff.2 (mt Csv.height_eq_zero_iff.2 tall)
    rw [some, importCsv]
    simp only [several, Bool.false_eq_true, if_false]

/-- An import that fails, or has nothing to enter, changes nothing; else it enters the fields of the records, changes
nothing but values inside the range it gives, and grows the bounds to hold it. Importing once more changes nothing.
The reader may be any that gives records or fails, such as the one that reads the text here and never fails. -/
theorem importEnd_importRead {ε : Type} (content : String) (read : List (Except ε Csv.Record)) (s : Sheet) :
    ImportEnd content.toList read s (s.importRead content.toList read).1 (s.importRead content.toList read).2 ∧
      (s.importRead content.toList read).2.importRead content.toList read = s.importRead content.toList read ∧
      s.importRead content.toList ((Csv.records content.toList).map .ok) =
        ((.ok (s.importCsv content).1 : Except ε (Option Range)), (s.importCsv content).2) := by
  refine ⟨?_, ?_, ?_⟩
  · rw [importRead]
    cases whole : read.mapM id with
    | error e => exact .failed whole
    | ok records => exact importEnd_enterRows whole s
  · rw [importRead]
    cases whole : read.mapM id with
    | error e => rw [importRead, whole]
    | ok records =>
      simp only [importRead, whole, enterRows_enterRows (Csv.ascending_place content.toList 0 records)]
  · have whole : ((Csv.records content.toList).map Except.ok : List (Except ε Csv.Record)).mapM id =
        .ok (Csv.records content.toList) := by
      rw [List.mapM_map]
      exact (List.mapM_pure (f := id)).trans (congrArg Except.ok (List.map_id _))
    rw [← enterRows_placedRecords, importRead, whole]
    rfl

end Sheet

end Spreadsheet
