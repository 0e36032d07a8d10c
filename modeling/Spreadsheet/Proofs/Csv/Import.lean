import Mathlib.Data.List.Nodup
import Spreadsheet.Csv.Import
import Spreadsheet.Proofs.Sheet.Writing

/-! What is found in a sheet after comma-separated text was entered. Records go to different rows, one below the other,
so that every field of a record is found in its row, and nothing but empty text in a row without a record. -/
namespace Spreadsheet

namespace Csv

open Text

variable {content : List Char} {next row col : Nat} {fields : List String} {rows : List (Nat × List String)}

theorem le_of_mem_place {rs : List Record} (inside : (row, fields) ∈ place content next rs) : next ≤ row := by
  induction rs generalizing next with
  | nil => cases inside
  | cons r rs ih =>
    rcases List.mem_cons.1 inside with first | later
    · obtain rfl : row = _ := congrArg Prod.fst first
      exact Nat.le_max_right _ _
    · have below := ih later
      omega

theorem ascending_place (content : List Char) (next : Nat) (rs : List Record) :
    (place content next rs).Pairwise fun a b => a.1 < b.1 := by
  induction rs generalizing next with
  | nil => exact .nil
  | cons r rs ih => exact List.pairwise_cons.2 ⟨fun _ later => le_of_mem_place later, ih _⟩

theorem map_snd_place (content : List Char) (next : Nat) (rs : List Record) :
    (place content next rs).map (·.2) = rs.map fun r => r.fields.map fun f => String.ofList (trimChars f) := by
  induction rs generalizing next with
  | nil => rfl
  | cons r rs ih => rw [place, List.map_cons, List.map_cons, ih]

theorem getElem?_place (content : List Char) (next : Nat) {rs : List Record} {i : Nat} {r : Record}
    (listed : rs[i]? = some r) :
    ∃ row, (place content next rs)[i]? = some (row, r.fields.map fun f => String.ofList (trimChars f)) := by
  have texts : ((place content next rs).map (·.2))[i]? = some (r.fields.map fun f => String.ofList (trimChars f)) := by
    rw [map_snd_place, List.getElem?_map, listed]
    rfl
  rw [List.getElem?_map] at texts
  obtain ⟨⟨row, _⟩, placed, rfl⟩ := Option.map_eq_some_iff.1 texts
  exact ⟨row, placed⟩

theorem eq_of_mem_ascending (ascending : rows.Pairwise fun a b => a.1 < b.1) {others : List String}
    (placed : (row, fields) ∈ rows) (placed' : (row, others) ∈ rows) : fields = others := by
  have distinct : (rows.map (·.1)).Nodup := List.pairwise_map.2 (ascending.imp Nat.ne_of_lt)
  exact congrArg Prod.snd (List.inj_on_of_nodup_map distinct placed placed' rfl)

theorem mem_entries_of_mem (placed : (row, fields) ∈ rows) {field : String} (found : fields[col]? = some field) :
    (⟨row, col⟩, field) ∈ entries next rows := by
  induction rows generalizing next with
  | nil => cases placed
  | cons r rows ih =>
    rw [entries]
    rcases List.mem_cons.1 placed with rfl | later
    · apply List.mem_append_left
      apply List.mem_append_right
      exact List.mem_map.2 ⟨(field, col), List.mem_zipIdx_iff_getElem?.2 found, rfl⟩
    · exact List.mem_append_right _ (ih later)

theorem mem_entries_of_passed (least : next ≤ row) (above : ∃ r ∈ rows, row < r.1)
    (vacant : ∀ fields, (row, fields) ∉ rows) : (⟨row, 0⟩, "") ∈ entries next rows := by
  induction rows generalizing next with
  | nil =>
    obtain ⟨r, inside, _⟩ := above
    cases inside
  | cons r rows ih =>
    obtain ⟨first, fields⟩ := r
    have other : row ≠ first := by
      rintro rfl
      exact vacant fields List.mem_cons_self
    rw [entries, List.append_assoc]
    by_cases passed : row < first
    · apply List.mem_append_left
      exact List.mem_map.2 ⟨row, List.mem_range'_1.2 (by omega), rfl⟩
    · apply List.mem_append_right
      apply List.mem_append_right
      refine ih (by omega) ?_ fun fields later => vacant fields (List.mem_cons_of_mem _ later)
      obtain ⟨r, inside, below⟩ := above
      rcases List.mem_cons.1 inside with rfl | later
      · exact absurd below passed
      · exact ⟨r, later, below⟩

/-- What is entered is a field of a record in its row, or empty text in the first cell of a row that was passed over. -/
theorem entries_cases (ascending : rows.Pairwise fun a b => a.1 < b.1) (bounded : ∀ r ∈ rows, next ≤ r.1)
    {p : Position} {value : String} (entered : (p, value) ∈ entries next rows) :
    (∃ fields, (p.row, fields) ∈ rows ∧ fields[p.col]? = some value) ∨
      (value = "" ∧ p.col = 0 ∧ next ≤ p.row ∧ (∃ r ∈ rows, p.row < r.1) ∧ ∀ fields, (p.row, fields) ∉ rows) := by
  induction rows generalizing next with
  | nil => cases entered
  | cons r rows ih =>
    obtain ⟨row, fields⟩ := r
    obtain ⟨below, ascending⟩ := List.pairwise_cons.1 ascending
    rw [entries, List.append_assoc] at entered
    rcases List.mem_append.1 entered with passed | entered
    · obtain ⟨blank, inside, same⟩ := List.mem_map.1 passed
      obtain ⟨rfl, rfl⟩ := Prod.mk.inj same
      have range := List.mem_range'_1.1 inside
      have above : blank < row := by omega
      refine .inr ⟨rfl, rfl, range.1, ⟨_, List.mem_cons_self, above⟩, fun others placed => ?_⟩
      rcases List.mem_cons.1 placed with first | later
      · have here : blank = row := congrArg Prod.fst first
        omega
      · have after : row < blank := below _ later
        omega
    · rcases List.mem_append.1 entered with here | later
      · obtain ⟨⟨field, col⟩, inside, same⟩ := List.mem_map.1 here
        obtain ⟨rfl, rfl⟩ := Prod.mk.inj same
        exact .inl ⟨fields, List.mem_cons_self, List.mem_zipIdx_iff_getElem?.1 inside⟩
      · rcases ih ascending (fun r inside => below r inside) later with
          ⟨others, placed, found⟩ | ⟨empty, first, after, ⟨r, inside, above⟩, vacant⟩
        · exact .inl ⟨others, List.mem_cons_of_mem _ placed, found⟩
        · have least := bounded _ List.mem_cons_self
          refine .inr ⟨empty, first, by omega, ⟨r, List.mem_cons_of_mem _ inside, above⟩, fun others placed => ?_⟩
          rcases List.mem_cons.1 placed with same | later
          · have here : p.row = row := congrArg Prod.fst same
            omega
          · exact vacant others later

theorem unambiguous_entries (ascending : rows.Pairwise fun a b => a.1 < b.1) :
    Sheet.Unambiguous (entries 0 rows) := by
  intro p value other entered entered'
  have known := @entries_cases 0 rows ascending (fun _ _ => Nat.zero_le _) p
  rcases known entered with ⟨fields, placed, found⟩ | ⟨rfl, _, _, _, vacant⟩
  all_goals rcases known entered' with ⟨fields', placed', found'⟩ | ⟨rfl, _, _, _, vacant'⟩
  · rw [eq_of_mem_ascending ascending placed' placed, found] at found'
    exact Option.some.inj found'
  · exact absurd placed (vacant' fields)
  · exact absurd placed' (vacant fields')
  · rfl

end Csv

namespace Sheet

variable {content : String} {row col : Nat} (s : Sheet)

/-- Room may be made first, which is not seen in the cells. -/
theorem enters_importCsv (content : String) : ∃ t : Sheet, t.grid = s.grid ∧
    Enters (Csv.entries 0 (Csv.placedRecords content.toList)) t (s.importCsv content).2 := by
  have unambiguous := Csv.unambiguous_entries (Csv.ascending_place content.toList 0 (Csv.records content.toList))
  rw [importCsv]
  dsimp only
  split
  next none =>
    rw [Csv.placedRecords] at none ⊢
    rw [List.isEmpty_iff.1 none] at unambiguous ⊢
    exact ⟨s, rfl, enters_enter unambiguous s⟩
  next => exact ⟨s.ensureSize _ _, rfl, enters_enter unambiguous _⟩

theorem raw_importCsv {fields : List String} (placed : (row, fields) ∈ Csv.placedRecords content.toList)
    {field : String} (found : fields[col]? = some field) : (s.importCsv content).2.raw ⟨row, col⟩ = field := by
  obtain ⟨t, _, enters⟩ := s.enters_importCsv content
  exact enters.raw (Csv.mem_entries_of_mem placed found)

/-- A row that was passed over begins with an empty cell, whatever was there. -/
theorem raw_importCsv_of_passed (vacant : ∀ fields, (row, fields) ∉ Csv.placedRecords content.toList)
    (above : ∃ r ∈ Csv.placedRecords content.toList, row < r.1) : (s.importCsv content).2.raw ⟨row, 0⟩ = "" := by
  obtain ⟨t, _, enters⟩ := s.enters_importCsv content
  exact enters.raw (Csv.mem_entries_of_passed (Nat.zero_le row) above vacant)

theorem raw_importCsv_of_vacant (vacant : ∀ fields, (row, fields) ∉ Csv.placedRecords content.toList)
    (empty : s.raw ⟨row, col⟩ = "") : (s.importCsv content).2.raw ⟨row, col⟩ = "" := by
  obtain ⟨t, same, enters⟩ := s.enters_importCsv content
  by_cases entered : ∃ value, ((⟨row, col⟩ : Position), value) ∈ Csv.entries 0 (Csv.placedRecords content.toList)
  · obtain ⟨value, entered⟩ := entered
    rw [enters.raw entered]
    rcases Csv.entries_cases (Csv.ascending_place content.toList 0 _) (fun _ _ => Nat.zero_le _) entered with
      ⟨fields, placed, _⟩ | ⟨blank, _⟩
    · exact absurd placed (vacant fields)
    · exact blank
  · rw [raw, Grid.raw, enters.get?_of_forall_ne (not_exists.1 entered), same]
    exact empty

end Sheet

end Spreadsheet
