import Spreadsheet.Proofs.Csv.Import
import Spreadsheet.Proofs.Csv.Lines

/-! Records and the lines they are on. The rows are counted by a scanner of its own, which takes every quote for one that
opens or closes a field. It agrees with the reader where no quote stands in a field without quotes. -/
namespace Spreadsheet.Csv

open Text
open Text.Encoding (dropMark)

/-- Every record is in the row of the line it starts on. -/
def OnLines (content : List Char) : Prop := (placedRecords content).map (·.1) = recordLines content

/-- The lines as they are counted for the rows. -/
def countedLines (content : List Char) : List Nat :=
  (records content).map fun r => unquotedBreaks false (content.take r.offset)

/-- Every count gives the line, or one above it where the next free row is the line anyway. -/
def Reach (next : Nat) : List Nat → List Nat → Prop
  | [], [] => True
  | count :: counts, line :: lines => (count = line ∨ count < line ∧ line = next) ∧ Reach (line + 1) counts lines
  | _, _ => False

/-- No quote stands in a field without quotes. -/
def Tidy (q : ReadState) : List Char → Prop
  | [] => True
  | c :: cs => ¬ (c = '"' ∧ q = .plain) ∧ Tidy (q.next c) cs

/-- What is found in a sheet if every record is entered on its line. -/
structure Entered (content : List Char) (t : Sheet) : Prop where
  filled : ∀ (i line : Nat) (r : Record) (col : Nat) (field : List Char), (recordLines content)[i]? = some line →
    (records content)[i]? = some r → r.fields[col]? = some field →
      t.raw ⟨line, col⟩ = String.ofList (trimChars field)
  blank : ∀ row, row ∉ recordLines content → (∃ line ∈ recordLines content, row < line) → t.raw ⟨row, 0⟩ = ""

variable {content cs : List Char} {next : Nat} {lines : List Nat} {q : ReadState}

theorem map_place_eq_iff (content : List Char) {rs : List Record} (ascending : lines.Pairwise (· < ·))
    (free : ∀ line ∈ lines, next ≤ line) : (place content next rs).map (·.1) = lines ↔
      Reach next (rs.map fun r => unquotedBreaks false (content.take r.offset)) lines := by
  induction rs generalizing next lines with
  | nil =>
    cases lines with
    | nil => exact iff_of_true rfl trivial
    | cons line lines => exact iff_of_false (fun same => by cases same) id
  | cons r rs ih =>
    cases lines with
    | nil => exact iff_of_false (fun same => by cases same) id
    | cons line lines =>
      obtain ⟨below, ascending⟩ := List.pairwise_cons.1 ascending
      have least := free line List.mem_cons_self
      have first (count : Nat) : max count next = line ↔ count = line ∨ count < line ∧ line = next := by omega
      rw [place, List.map_cons, List.map_cons, List.cons.injEq, Reach, first]
      refine and_congr_right fun here => ?_
      rw [(first _).2 here]
      exact ih ascending below

theorem reach_self (next : Nat) (lines : List Nat) : Reach next lines lines := by
  induction lines generalizing next with
  | nil => trivial
  | cons line lines ih => exact ⟨.inl rfl, ih (line + 1)⟩

theorem Tidy.take (tidy : Tidy q cs) (n : Nat) : Tidy q (cs.take n) := by
  induction cs generalizing q n with
  | nil =>
    rw [List.take_nil]
    trivial
  | cons c cs ih =>
    cases n with
    | zero => trivial
    | succ n => exact ⟨tidy.1, ih tidy.2 n⟩

theorem next_eq_quoted_iff {c : Char} (literal : ¬ (c = '"' ∧ q = .plain)) :
    q.next c = .quoted ↔ (c = '"' ↔ q ≠ .quoted) := by
  by_cases quote : c = '"'
  · subst quote
    cases q with
    | plain => exact absurd ⟨rfl, rfl⟩ literal
    | start | quoted | closed => decide
  · cases q <;> simp [ReadState.next, quote] <;> split <;> simp

theorem unquotedBreaks_eq_lineBreaks (tidy : Tidy q cs) : unquotedBreaks (q = .quoted) cs = lineBreaks q cs := by
  induction cs generalizing q with
  | nil => rfl
  | cons c cs ih =>
    obtain ⟨literal, tidy⟩ := tidy
    rw [lineBreaks, ← ih tidy, unquotedBreaks]
    have parity := next_eq_quoted_iff literal
    split
    next quote =>
      subst quote
      have inner : ¬ q.Breaks '"' := by
        rintro ⟨line, _⟩
        cases line
      have turned : decide (q.next '"' = .quoted) = !decide (q = .quoted) := by simp [parity]
      rw [if_neg inner, Nat.zero_add, turned]
    next other =>
      have same : decide (q.next c = .quoted) = decide (q = .quoted) := by simp [parity, other]
      have line : (c = '\n' && !decide (q = .quoted)) = true ↔ q.Breaks c := by simp [ReadState.Breaks]
      rw [same, ite_congr (propext line) (fun _ => rfl) (fun _ => rfl)]
      split <;> omega

theorem dropMark_eq_or (content : List Char) :
    (dropMark content = content ∧ '\ufeff' ∉ content.head?) ∨ content = '\ufeff' :: dropMark content := by
  unfold dropMark
  split
  next => exact .inr rfl
  next other =>
    refine .inl ⟨rfl, fun first => ?_⟩
    obtain ⟨cs, marked⟩ := List.head?_eq_some_iff.1 first
    exact other cs marked

theorem dropMark_suffix (content : List Char) : dropMark content <:+ content := by
  rcases dropMark_eq_or content with ⟨same, _⟩ | marked
  · exact ⟨[], same⟩
  · exact ⟨['\ufeff'], marked.symm⟩

theorem unquotedBreaks_of_mark (cs : List Char) : unquotedBreaks false ('\ufeff' :: cs) = unquotedBreaks false cs := rfl

/-- The lines are counted right if no quote is where the reader takes it for text, and no blank line follows a mark. -/
theorem countedLines_eq (tidy : Tidy .start (dropMark content))
    (begins : '\ufeff' ∈ content.head? → Stops isBreak (dropMark content)) : countedLines content = recordLines content := by
  have agree (n : Nat) : unquotedBreaks false ((dropMark content).take n) = lineBreaks .start ((dropMark content).take n) :=
    unquotedBreaks_eq_lineBreaks (tidy.take n)
  rw [recordLines, countedLines]
  rcases dropMark_eq_or content with ⟨same, unmarked⟩ | marked
  · rw [same] at agree ⊢
    rw [records_of_unmarked unmarked]
    exact List.map_congr_left fun r _ => agree r.offset
  · have solid := begins (by rw [marked]; rfl)
    generalize dropMark content = cs at *
    subst marked
    rw [records_mark]
    cases read : recordsFrom 0 cs with
    | nil => rfl
    | cons r rs =>
      have start : r.offset = 0 := offset_of_stops solid read
      rw [List.map_cons, List.modifyHead_cons, List.map_cons, List.map_map, List.map_cons, start]
      refine congrArg _ (List.map_congr_left fun r _ => ?_)
      rw [← agree, ← unquotedBreaks_of_mark, Function.comp_apply, Nat.add_comm, List.take_succ_cons]

/-- The records that are placed on their lines are found there, and a blank line above one of them has an empty cell. -/
theorem OnLines.entered {content : String} (placed : OnLines content.toList) (s : Sheet) :
    Entered content.toList (s.importCsv content).2 where
  filled := by
    intro i line r col field numbered listed found
    obtain ⟨row, inside⟩ := getElem?_place content.toList 0 listed
    obtain rfl : row = line := by
      rw [← placed, List.getElem?_map, placedRecords, inside] at numbered
      exact Option.some.inj numbered
    refine s.raw_importCsv (List.mem_of_getElem? inside) ?_
    rw [List.getElem?_map, found]
    rfl
  blank := by
    rintro row vacant ⟨line, listed, above⟩
    rw [← placed] at vacant listed
    obtain ⟨r, inside, rfl⟩ := List.mem_map.1 listed
    exact s.raw_importCsv_of_passed (fun fields inside => vacant (List.mem_map.2 ⟨_, inside, rfl⟩)) ⟨r, inside, above⟩

/-- Every record is entered on its line exactly if the counts reach the lines; so they do if no quote stands in a field
without quotes and no blank line follows a byte order mark. The lines are those that are not blank. -/
theorem onLines_iff_reach (content : String) (paired : Paired content.toList) :
    (OnLines content.toList ↔ Reach 0 (countedLines content.toList) (recordLines content.toList)) ∧
      (Tidy .start (dropMark content.toList) →
        ('\ufeff' ∈ content.toList.head? → Stops isBreak (dropMark content.toList)) → OnLines content.toList) ∧
      recordLines content.toList = filledLines 0 (linesFrom .start (dropMark content.toList)) ∧
      (OnLines content.toList → ∀ s : Sheet, Entered content.toList (s.importCsv content).2) := by
  have lines := recordLines_eq_filledLines (paired.of_suffix (dropMark_suffix _))
  have sharp : OnLines content.toList ↔ Reach 0 (countedLines content.toList) (recordLines content.toList) := by
    refine map_place_eq_iff content.toList ?_ fun _ _ => Nat.zero_le _
    rw [lines]
    exact ascending_filledLines 0 _
  refine ⟨sharp, fun tidy begins => ?_, lines, fun placed s => placed.entered s⟩
  rw [sharp, countedLines_eq tidy begins]
  exact reach_self 0 _

/-- Two records with a blank line between them. The line feed and the quotes of the first one are within quotes. -/
def quotedLine : String := "\"x\ny\",1\r\n\r\nz,2\n"

theorem onLines_quotedLine : Paired quotedLine.toList ∧ OnLines quotedLine.toList ∧
    ((Sheet.ofSize "Table" 1 1).importCsv quotedLine).2.raw ⟨2, 1⟩ = "2" := by
  have paired : Paired quotedLine.toList := by simp [Paired, quotedLine, List.suffix_cons_iff]
  have tidy : Tidy .start (dropMark quotedLine.toList) := by
    simp [Tidy, quotedLine, dropMark, ReadState.next, endsField, isBreak]
  obtain ⟨_, sufficient, _, entered⟩ := onLines_iff_reach quotedLine paired
  have unmarked : '\ufeff' ∉ quotedLine.toList.head? := by decide
  have placed := sufficient tidy fun marked => absurd marked unmarked
  have last : (records quotedLine.toList)[1]? = some ⟨11, [['z'], ['2']]⟩ := by decide +kernel
  exact ⟨paired, placed, (entered placed _).filled 1 2 _ 1 ['2'] (by decide +kernel) last rfl⟩

/-- A quote within the first field, which is text to the reader, hides the line breaks after it from the count. -/
def strayQuote : String := "a\"b\n\nc"

theorem not_onLines_strayQuote : Paired strayQuote.toList ∧ recordLines strayQuote.toList = [0, 2] ∧
    ((Sheet.ofSize "Table" 1 1).importCsv strayQuote).2.raw ⟨1, 0⟩ = "c" ∧
    ((Sheet.ofSize "Table" 1 1).importCsv strayQuote).2.raw ⟨2, 0⟩ = "" ∧ ¬ OnLines strayQuote.toList := by
  have paired : Paired strayQuote.toList := by simp [Paired, strayQuote, List.suffix_cons_iff]
  have lines : recordLines strayQuote.toList = [0, 2] := by decide +kernel
  have rows : (placedRecords strayQuote.toList).map (·.1) = [0, 1] := by decide +kernel
  refine ⟨paired, lines, by decide +kernel, by decide +kernel, fun placed => ?_⟩
  have same : [0, 1] = [0, 2] := rows.symm.trans (placed.trans lines)
  exact absurd same (by decide)

end Spreadsheet.Csv
