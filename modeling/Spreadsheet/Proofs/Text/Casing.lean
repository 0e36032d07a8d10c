import Mathlib
import Spreadsheet.Text.Casing

/-! ASCII characters and their case. Digits are not letters and have one case only, and in lower case a text of ASCII
characters is mapped character by character, whatever stands around them. -/
namespace Spreadsheet.Text

variable {c : Char}

theorem bounds_of_isAlphanum (plain : c.isAlphanum = true) : 48 ≤ c.toNat ∧ c.toNat ≤ 122 := by
  grind [Char.isAlphanum, Char.isAlpha, Char.isUpper, Char.isLower, Char.isDigit, Char.toNat, UInt32.le_iff_toNat_le]

theorem uncased_of_isDigit (digit : c.isDigit = true) : c.isUpper = false ∧ c.isLower = false := by
  grind [Char.isDigit, Char.isUpper, Char.isLower]

theorem isAlpha_of_isDigit (digit : c.isDigit = true) : c.isAlpha = false := by
  simp [Char.isAlpha, uncased_of_isDigit digit]

theorem toUpper_of_isDigit (digit : c.isDigit = true) : c.toUpper = c :=
  Char.toUpper_eq_of_not_isLower (by simp [uncased_of_isDigit digit])

theorem toLower_of_isDigit (digit : c.isDigit = true) : c.toLower = c :=
  Char.toLower_eq_of_not_isUpper (by simp [uncased_of_isDigit digit])

theorem isUpper_iff : c.isUpper = true ↔ 0x41 ≤ c.toNat ∧ c.toNat ≤ 0x5A := by
  simp only [Char.isUpper, decide_eq_true_iff, ge_iff_le, UInt32.le_iff_toNat_le]
  rfl

theorem lowerChar_of_ascii (ascii : c.toNat < 0x80) : lowerChar c = c.toLower := by
  -- the ASCII capitals are the first run of the table, and the other runs start beyond ASCII
  have capitals : lowerRuns = ⟨0x41, 0x5A, 1, 32⟩ :: lowerRuns.tail := rfl
  have others : lowerRuns.tail.find? (·.holds c.toNat) = none := by
    have beyond : ∀ r ∈ lowerRuns.tail, 0x80 ≤ r.first := by decide +kernel
    rw [List.find?_eq_none]
    intro r listed holds
    have start := beyond r listed
    simp only [CaseRun.holds, Bool.and_eq_true, decide_eq_true_eq] at holds
    omega
  rw [lowerChar, capitals]
  by_cases upper : c.isUpper = true
  · have inside := isUpper_iff.1 upper
    rw [List.find?_cons_of_pos (by simpa [CaseRun.holds, Nat.mod_one] using inside), Char.toLower_eq_of_isUpper upper]
    rfl
  · have outside := mt isUpper_iff.2 upper
    rw [List.find?_cons_of_neg (by simpa [CaseRun.holds, Nat.mod_one] using outside), others,
      Char.toLower_eq_of_not_isUpper upper]

theorem lowerWithin_of_ascii (ascii : c.toNat < 0x80) (before after : List Char) :
    lowerWithin before c after = [c.toLower] := by
  have not_sigma : c ≠ capitalSigma := by
    rintro rfl
    exact absurd ascii (by decide)
  have not_dotted : c ≠ dottedCapitalI := by
    rintro rfl
    exact absurd ascii (by decide)
  rw [lowerWithin, if_neg not_sigma, if_neg not_dotted, lowerChar_of_ascii ascii]

theorem lowerFrom_of_ascii (before : List Char) {cs : List Char} (ascii : ∀ c ∈ cs, c.toNat < 0x80) :
    lowerFrom before cs = cs.map Char.toLower := by
  induction cs generalizing before with
  | nil => rfl
  | cons c cs ih =>
    rw [List.forall_mem_cons] at ascii
    rw [lowerFrom, lowerWithin_of_ascii ascii.1, ih _ ascii.2]
    rfl

end Spreadsheet.Text
