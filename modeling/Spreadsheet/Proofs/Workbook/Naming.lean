import Mathlib
import Spreadsheet.Proofs.Sheet.Filling
import Spreadsheet.Proofs.Text.Blank
import Spreadsheet.Proofs.Text.Numeral
import Spreadsheet.Workbook

/-! The names of new sheets. Candidates with different numbers never count as the same name, so that a sheet blocks at
most one of them, and the search for a name that is free ends. -/
namespace Spreadsheet.Workbook

open Text

theorem nameKey_numberedName (n : Nat) : nameKey (numberedName n) = "sheet" ++ String.ofList (numeral n) := by
  have plain : ∀ c ∈ ['S', 'h', 'e', 'e', 't'] ++ numeral n, c.isAlphanum = true := by
    rw [List.forall_mem_append]
    exact ⟨by simp, fun c digit => by simp [Char.isAlphanum, isDigit_of_mem_numeral digit]⟩
  have solid := trimChars_of_solid fun c inside => isBlank_of_isAlphanum (plain c inside)
  have ascii : ∀ c ∈ ['S', 'h', 'e', 'e', 't'] ++ numeral n, c.toNat < 0x80 := by
    intro c inside
    have bounds := bounds_of_isAlphanum (plain c inside)
    omega
  have chars : (numberedName n).toList = ['S', 'h', 'e', 'e', 't'] ++ numeral n := by simp [numberedName]
  rw [nameKey, lower, toList_trim, chars, solid, lowerFrom_of_ascii [] ascii, List.map_append,
    map_numeral fun _ => toLower_of_isDigit, String.ofList_append]
  rfl

theorem nameKey_numberedName_injective : Function.Injective fun n => nameKey (numberedName n) := by
  intro n m same
  simp only [nameKey_numberedName, String.append_right_inj] at same
  exact numeral_injective (String.ofList_injective same)

variable {w : Workbook}

theorem hasName_iff {name : String} : w.hasName name = true ↔ ∃ s ∈ w.sheets, nameKey s.name = nameKey name := by
  simp [hasName]

/-- Among one more candidates than there are sheets one is free, since different candidates need different sheets. -/
theorem exists_free (w : Workbook) (first : Nat) :
    ∃ n ∈ List.range' first (w.sheetCount + 1), ¬w.hasName (numberedName n) = true := by
  by_contra! blocked
  have distinct := (List.nodup_range' (s := first) (n := w.sheetCount + 1)).map nameKey_numberedName_injective
  have taken : (List.range' first (w.sheetCount + 1)).map (fun n => nameKey (numberedName n)) ⊆
      w.sheets.map (nameKey ·.name) := by
    intro key listed
    obtain ⟨n, candidate, rfl⟩ := List.mem_map.1 listed
    exact List.mem_map.2 (hasName_iff.1 (blocked n candidate))
  have few := (distinct.subperm taken).length_le
  simp only [List.length_map, List.length_range', sheetCount] at few
  omega

theorem find?_freshNumber (w : Workbook) :
    (List.range' (w.sheetCount + 1) (w.sheetCount + 1)).find? (fun n => !w.hasName (numberedName n)) =
      some w.freshNumber := by
  obtain ⟨n, candidate, free⟩ := exists_free w (w.sheetCount + 1)
  obtain ⟨m, first⟩ : ∃ m, (List.range' (w.sheetCount + 1) (w.sheetCount + 1)).find?
      (fun n => !w.hasName (numberedName n)) = some m := by
    rw [← Option.isSome_iff_exists, List.find?_isSome]
    exact ⟨n, candidate, by simpa using free⟩
  rw [freshNumber, first, Option.getD_some]

theorem freshNumber_le (w : Workbook) : w.freshNumber ≤ 2 * w.sheetCount + 1 := by
  have candidate := List.mem_of_find?_eq_some (find?_freshNumber w)
  rw [List.mem_range'_1] at candidate
  omega

theorem isLeast_freshNumber (w : Workbook) :
    IsLeast {n | w.sheetCount + 1 ≤ n ∧ ¬w.hasName (numberedName n) = true} w.freshNumber := by
  obtain ⟨free, candidate, before⟩ := List.find?_range'_eq_some.1 (find?_freshNumber w)
  rw [List.mem_range'_1] at candidate
  refine ⟨⟨candidate.1, by simpa using free⟩, ?_⟩
  rintro n ⟨low, free⟩
  by_contra! less
  exact free (by simpa using before n low less)

/-- The next candidate of the search for a name, with its number. -/
def nextName (x : Nat × String) : Nat × String := (x.1 + 1, numberedName (x.1 + 1))

theorem iterate_nextName (n k : Nat) : nextName^[k] (n, numberedName n) = (n + k, numberedName (n + k)) := by
  induction k with
  | zero => rfl
  | succ k ih =>
    rw [Function.iterate_succ_apply', ih]
    rfl

theorem ends_nextName (w : Workbook) : Sheet.Ends (fun x => w.hasName x.2 = true) nextName
    (w.sheetCount + 1, numberedName (w.sheetCount + 1)) (w.freshNumber, numberedName w.freshNumber) := by
  obtain ⟨⟨low, free⟩, least⟩ := isLeast_freshNumber w
  refine ⟨w.freshNumber - (w.sheetCount + 1), ?_, free, fun k less => ?_⟩
  · rw [iterate_nextName, Nat.add_sub_cancel' low]
  · rw [iterate_nextName]
    by_contra free
    have := least ⟨Nat.le_add_right _ k, free⟩
    omega

/-- The search for a name, started at one above the count of sheets, ends at the first name that is no sheet's name, case and
blanks at the ends aside; the new sheet comes last under that name, is empty, and leaves the others as they are. -/
theorem addSheet_takes_first_free_name (w : Workbook) (rows cols : Nat) :
    ∃ N, IsLeast {n | w.sheetCount + 1 ≤ n ∧
        ∀ s ∈ w.sheets, Text.lower (Text.trim s.name) ≠ Text.lower (Text.trim ("Sheet" ++ toString n))} N ∧
      N ≤ 2 * w.sheetCount + 1 ∧
      Sheet.Ends (fun x => w.hasName x.2 = true) nextName
        (w.sheetCount + 1, "Sheet" ++ toString (w.sheetCount + 1)) (N, "Sheet" ++ toString N) ∧
      w.addSheet rows cols = (w.sheetCount, ⟨w.sheets ++
        [{ name := "Sheet" ++ toString N, rows := { count := max rows 1 }, cols := { count := max cols 1 } }]⟩) := by
  have named (n : Nat) : "Sheet" ++ toString n = numberedName n := by
    rw [Nat.toString_eq_ofList_toDigits]
    rfl
  have free : {n | w.sheetCount + 1 ≤ n ∧ ∀ s ∈ w.sheets, nameKey s.name ≠ nameKey (numberedName n)} =
      {n | w.sheetCount + 1 ≤ n ∧ ¬w.hasName (numberedName n) = true} := by
    simp only [hasName_iff, not_exists, not_and, ne_eq]
  simp only [named]
  refine ⟨w.freshNumber, ?_, freshNumber_le w, ends_nextName w, rfl⟩
  exact free ▸ isLeast_freshNumber w

/-- Case and blanks do not make a name free. -/
example : (addSheet 10 5 ⟨[.ofSize " SHEET2 " 1 1]⟩).2.sheets.map (·.name) = [" SHEET2 ", "Sheet3"] := by decide +kernel

end Spreadsheet.Workbook
