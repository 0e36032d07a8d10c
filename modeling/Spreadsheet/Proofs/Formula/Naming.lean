import Spreadsheet.Proofs.Address
import Spreadsheet.Proofs.Formula.Parsing
import Spreadsheet.Proofs.Formula.Target

/-! The names of cells. They are made of the letters of a column and the numeral of a row, and those who read them, in an
address or in a formula, find the cell again; a formula does so only for columns whose letters a reference may have. -/
namespace Spreadsheet

open Text

namespace Formula

variable {p : Position}

def Reference.ofPosition (p : Position) : Reference := ⟨false, Column.letters p.col, false, numeral (p.row + 1)⟩

theorem Reference.chars_ofPosition (p : Position) : (ofPosition p).chars = p.nameChars := by
  simp [chars, ofPosition, anchor, Position.nameChars]

theorem Reference.sound_ofPosition (p : Position) : (ofPosition p).Sound :=
  ⟨Column.letters_ne_nil _, fun _ => Column.isAlpha_of_mem_letters, numeral_ne_nil _, fun _ => isDigit_of_mem_numeral⟩

theorem Reference.position?_ofPosition (fits : p.row + 1 < indexLimit) (near : p.col + 1 < indexLimit) :
    (ofPosition p).position? = some p :=
  position?_of (by simp [row?, ofPosition, readNumeral_numeral fits]) (Column.ofLetters?_letters near)

theorem map_toUpper_nameChars (p : Position) : p.nameChars.map Char.toUpper = p.nameChars := by
  rw [Position.nameChars, List.map_append, Column.map_toUpper_letters, map_numeral fun _ => toUpper_of_isDigit]

theorem Expr.parse_equals_name (p : Position) :
    Expr.parse ("=" ++ p.name) = Token.ofWord p.nameChars >>= fun t => Expr.ofTokens [t] := by
  have word : Token.IsWord p.nameChars := by
    rw [← Reference.chars_ofPosition]
    exact (Reference.sound_ofPosition p).isWord
  have solid : ∀ c ∈ '=' :: p.nameChars, isBlank c = false :=
    List.forall_mem_cons.2 ⟨rfl, fun _ inside => isBlank_of_isAlphanum (Position.isAlphanum_of_mem_nameChars inside)⟩
  have text : ("=" ++ p.name).toList = '=' :: p.nameChars := by simp [Position.name]
  have stops : Stops Token.isWordChar [] := by
    intro _ first
    cases first
  have scanned := word.scan_append stops
  rw [List.append_nil] at scanned
  rw [Expr.parse, text, trimChars_of_solid solid]
  simp only [scanned, Token.scan]
  cases Token.ofWord p.nameChars <;> rfl

theorem Expr.parse_equals_name_near (fits : p.row + 1 < indexLimit) (low : p.col ≤ Column.last) :
    Expr.parse ("=" ++ p.name) = .ok (.ref p) := by
  have near : p.col + 1 < indexLimit := Nat.lt_of_le_of_lt (Nat.succ_le_succ low) (by decide)
  have token := (Reference.sound_ofPosition p).ofWord_chars (Column.length_letters_le_iff.2 low) (Reference.position?_ofPosition fits near)
  rw [parse_equals_name, ← Reference.chars_ofPosition, token]
  rfl

theorem Expr.parse_equals_name_far (far : Column.last < p.col) :
    Expr.parse ("=" ++ p.name) = .error (.unknownName p.name) := by
  have unsigned : '$' ∉ p.nameChars := fun inside => nomatch Position.isAlphanum_of_mem_nameChars inside
  have token := (Reference.sound_ofPosition p).ofWord_long (Column.lt_length_letters_iff.2 far)
  rw [Reference.chars_ofPosition, Token.ofWord.ofName, if_neg unsigned, map_toUpper_nameChars, ← Position.name] at token
  rw [parse_equals_name, token]
  rfl

end Formula

/-- The letters of a column are read back as the column, and in either case they are the only letters that are; reading letters
never goes beyond the index range. The name of a cell is read back as the cell, in a formula too unless its column is past
the last one that references can name: there it is an unknown name. -/
theorem names_read_back :
    (∀ col, col + 1 < indexLimit → Column.ofName? (Column.name col) = some col) ∧
    (∀ s col, Column.ofName? s = some col →
      (s ≠ "" ∧ ∀ c ∈ s.toList, c.isAlpha = true) ∧ Column.name col = s.toUpper) ∧
    (∀ s, (∀ before, before <+: s.toList → ∀ n, before.foldl Column.step (some 0) = some n →
        n = Column.value before ∧ n < indexLimit) ∧
      ∀ col, Column.ofName? s = some col ↔ (s ≠ "" ∧ ∀ c ∈ s.toList, c.isAlpha = true) ∧
        Column.value s.toList = col + 1 ∧ col + 1 < indexLimit) ∧
    (∀ p : Position, p.row + 1 < indexLimit → p.col + 1 < indexLimit → Position.parse p.name = .ok p) ∧
    ∀ p : Position, p.row + 1 < indexLimit →
      (p.col ≤ Column.last → Formula.Expr.parse ("=" ++ p.name) = .ok (.ref p)) ∧
      (Column.last < p.col → Formula.Expr.parse ("=" ++ p.name) = .error (.unknownName p.name)) := by
  refine ⟨?_, ?_, fun s => ⟨?_, ?_⟩, fun _ => Position.parse_name,
    fun p fits => ⟨Formula.Expr.parse_equals_name_near fits, Formula.Expr.parse_equals_name_far⟩⟩
  · intro col near
    rw [Column.ofName?, Column.name, String.toList_ofList, Column.ofLetters?_letters near]
  · intro s col read
    obtain ⟨⟨some_letter, alpha⟩, same, _⟩ := Column.ofLetters?_eq_some_iff_letters.1 read
    refine ⟨⟨some_letter ∘ String.toList_eq_nil_iff.2, alpha⟩, String.toList_inj.1 ?_⟩
    rw [Column.name, String.toList_ofList, ← same, String.toUpper, String.toList_map]
  · intro before _ n read
    rw [Column.foldl_step, Option.ite_none_right_eq_some] at read
    obtain ⟨⟨_, low⟩, same⟩ := read
    cases same
    exact ⟨rfl, low⟩
  · intro col
    rw [Column.ofName?, Column.ofLetters?_eq_some_iff, ne_eq, String.toList_eq_nil_iff]

end Spreadsheet
