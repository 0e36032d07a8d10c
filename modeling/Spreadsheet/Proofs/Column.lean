import Mathlib
import Spreadsheet.Position
import Spreadsheet.Proofs.Text.Casing
import Spreadsheet.Proofs.Text.Numeral

/-! Column names. Letters write a number, counted from one, and the letters of a column write the number after it; letters
in either case are read if there are any and their number is in the index range. A name has more than three letters just
past `ZZZ`. -/
namespace Spreadsheet.Column

open Text

/-- The number that letters write, counted from one. -/
def value (cs : List Char) : Nat := cs.foldl (fun n c => n * 26 + letterValue c) 0

theorem value_concat (cs : List Char) (c : Char) : value (cs ++ [c]) = value cs * 26 + letterValue c := by
  rw [value, List.foldl_concat, value]

section Letters

variable {c : Char}

theorem isAlpha_letter {d : Nat} (low : d < 26) : (letter d).isAlpha = true := by
  have all : ∀ d < 26, (letter d).isAlpha = true := by decide
  exact all d low

theorem letterValue_letter {d : Nat} (low : d < 26) : letterValue (letter d) = d + 1 := by
  have all : ∀ d < 26, letterValue (letter d) = d + 1 := by decide
  exact all d low

theorem bounds_of_letterValue (alpha : c.isAlpha = true) : 0 < letterValue c ∧ letterValue c ≤ 26 := by
  grind [letterValue, Char.isAlpha, Char.isUpper, Char.isLower, Char.toUpper, Char.toNat, UInt32.le_iff_toNat_le, UInt32.toNat_add]

theorem letter_letterValue (alpha : c.isAlpha = true) : letter (letterValue c - 1) = c.toUpper := by
  have positive := (bounds_of_letterValue alpha).1
  rw [letterValue] at positive
  have code : 65 + (letterValue c - 1) = c.toUpper.toNat := by
    rw [letterValue]
    omega
  rw [letter, code, Char.ofNat_toNat]

theorem isAlpha_of_mem_letters {n : Nat} (member : c ∈ letters n) : c.isAlpha = true := by
  induction n using Nat.strongRecOn with
  | ind n ih =>
    rw [letters] at member
    split at member
    next small =>
      rw [List.mem_singleton.1 member]
      exact isAlpha_letter small
    next large =>
      rcases List.mem_append.1 member with inside | last
      · exact ih (n / 26 - 1) (by omega) inside
      · rw [List.mem_singleton.1 last]
        exact isAlpha_letter (Nat.mod_lt _ (by decide))

end Letters

theorem letters_ne_nil (n : Nat) : letters n ≠ [] := by
  rw [letters]
  split <;> simp

theorem value_letters (n : Nat) : value (letters n) = n + 1 := by
  induction n using Nat.strongRecOn with
  | ind n ih =>
    rw [letters]
    split
    next small => simp [value, letterValue_letter small]
    next large =>
      rw [value_concat, ih (n / 26 - 1) (by omega), letterValue_letter (Nat.mod_lt _ (by decide))]
      omega

section Reading

variable {cs : List Char} {n : Nat}

theorem value_pos (alpha : ∀ c ∈ cs, c.isAlpha = true) (some_letter : cs ≠ []) : 0 < value cs := by
  obtain ⟨front, c, rfl⟩ := (List.eq_nil_or_concat' cs).resolve_left some_letter
  have bounds := bounds_of_letterValue (alpha c (by simp))
  rw [value_concat]
  omega

/-- Letters are read back as they are written, but for the case. -/
theorem letters_value (alpha : ∀ c ∈ cs, c.isAlpha = true) (some_letter : cs ≠ []) :
    letters (value cs - 1) = cs.map Char.toUpper := by
  induction cs using List.reverseRecOn with
  | nil => exact absurd rfl some_letter
  | append_singleton cs c ih =>
    obtain ⟨front, back⟩ := List.forall_mem_append.1 alpha
    have last := back c (List.mem_singleton_self c)
    have bounds := bounds_of_letterValue last
    rw [value_concat, List.map_append, List.map_singleton, ← letter_letterValue last, letters]
    by_cases first : cs = []
    · subst first
      have single : value [] = 0 := rfl
      rw [single, if_pos (by omega), Nat.zero_mul, Nat.zero_add]
      rfl
    · have before := value_pos front first
      rw [if_neg (by omega), ← ih front first]
      congr 2
      · congr 1
        omega
      · congr 1
        omega

theorem letters_injective {m n : Nat} (same : letters m = letters n) : m = n := by
  have numbers := congrArg value same
  rw [value_letters, value_letters] at numbers
  exact Nat.succ.inj numbers

/-- What has been read of some letters is the number that they write, as long as it is in the index range. -/
theorem foldl_step (cs : List Char) : cs.foldl step (some 0) =
    if (∀ c ∈ cs, c.isAlpha = true) ∧ value cs < indexLimit then some (value cs) else none := by
  induction cs using List.reverseRecOn with
  | nil => simp [value, indexLimit]
  | append_singleton cs c ih =>
    rw [List.foldl_concat, ih, value_concat]
    simp only [List.forall_mem_append, List.forall_mem_singleton]
    split
    next read => simp [step, eq_true read.1]
    next unread =>
      rw [if_neg]
      · rfl
      · rintro ⟨⟨front, _⟩, low⟩
        exact unread ⟨front, by omega⟩

theorem ofLetters?_eq_some_iff : ofLetters? cs = some n ↔
    (cs ≠ [] ∧ ∀ c ∈ cs, c.isAlpha = true) ∧ value cs = n + 1 ∧ n + 1 < indexLimit := by
  rw [ofLetters?, foldl_step, Option.ite_none_left_eq_some, List.isEmpty_iff, Option.map_eq_some_iff, and_assoc]
  refine and_congr_right fun some_letter => ?_
  simp only [Option.ite_none_right_eq_some, Option.some.injEq]
  constructor
  · rintro ⟨_, ⟨⟨alpha, low⟩, rfl⟩, rfl⟩
    have positive := value_pos alpha some_letter
    exact ⟨alpha, by omega, by omega⟩
  · rintro ⟨alpha, number, low⟩
    exact ⟨n + 1, ⟨⟨alpha, by omega⟩, number⟩, rfl⟩

theorem ofLetters?_eq_some_iff_letters : ofLetters? cs = some n ↔
    (cs ≠ [] ∧ ∀ c ∈ cs, c.isAlpha = true) ∧ cs.map Char.toUpper = letters n ∧ n + 1 < indexLimit := by
  rw [ofLetters?_eq_some_iff]
  refine and_congr_right fun ⟨some_letter, alpha⟩ => and_congr_left fun _ => ?_
  rw [← letters_value alpha some_letter]
  constructor
  · intro number
    rw [number, Nat.add_sub_cancel]
  · intro same
    have positive := value_pos alpha some_letter
    have number := letters_injective same
    omega

end Reading

theorem map_toUpper_letters (n : Nat) : (letters n).map Char.toUpper = letters n := by
  have alpha : ∀ c ∈ letters n, c.isAlpha = true := fun _ => isAlpha_of_mem_letters
  rw [← letters_value alpha (letters_ne_nil n), value_letters, Nat.add_sub_cancel]

theorem ofLetters?_letters {n : Nat} (fits : n + 1 < indexLimit) : ofLetters? (letters n) = some n :=
  ofLetters?_eq_some_iff.2 ⟨⟨letters_ne_nil n, fun _ => isAlpha_of_mem_letters⟩, value_letters n, fits⟩

section Last

/-- The last column whose name has three letters, `ZZZ`. -/
def last : Nat := 18277

theorem length_letters_le_succ_iff {n k : Nat} :
    (letters n).length ≤ k + 1 ↔ n < 26 ∨ (letters (n / 26 - 1)).length ≤ k := by
  rw [letters]
  split
  next small => simp [small]
  next large => simp [large]

theorem length_letters_le_iff {n : Nat} : (letters n).length ≤ 3 ↔ n ≤ last := by
  have shortest (m : Nat) : (letters m).length ≤ 0 ↔ False := by simp [letters_ne_nil]
  rw [length_letters_le_succ_iff, length_letters_le_succ_iff, length_letters_le_succ_iff, shortest, or_false, last]
  omega

theorem lt_length_letters_iff {n : Nat} : 3 < (letters n).length ↔ last < n := by
  rw [← Nat.not_le, length_letters_le_iff, Nat.not_le]

theorem le_last_of_ofLetters? {cs : List Char} (short : cs.length ≤ 3) {n : Nat} (read : ofLetters? cs = some n) :
    n ≤ last := by
  obtain ⟨_, same, _⟩ := ofLetters?_eq_some_iff_letters.1 read
  rwa [← length_letters_le_iff, ← same, List.length_map]

example : letters last = ['Z', 'Z', 'Z'] := by decide +kernel

end Last

end Spreadsheet.Column
