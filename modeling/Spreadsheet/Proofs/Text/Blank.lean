import Mathlib
import Spreadsheet.Text.Blank
import Spreadsheet.Proofs.Text.Casing

/-! Texts with the blanks at their ends cut off. It does not matter from which end they are cut first, and a character in
the middle that is not blank parts the cutting at the two ends. -/
namespace Spreadsheet.Text

section Ends

variable {α : Type} {p : α → Bool}

theorem rdropWhile_append_cons {c : α} (solid : p c = false) (front rest : List α) :
    (front ++ c :: rest).rdropWhile p = front ++ c :: rest.rdropWhile p := by
  induction rest using List.reverseRecOn with
  | nil =>
    rw [List.rdropWhile_concat_neg _ _ _ (by simp [solid])]
    rfl
  | append_singleton rest d ih =>
    have grouped : front ++ c :: (rest ++ [d]) = (front ++ c :: rest) ++ [d] := by simp
    rw [grouped, List.rdropWhile_concat, List.rdropWhile_concat, ih]
    split <;> simp

theorem dropWhile_append_cons {c : α} (solid : p c = false) (front rest : List α) :
    (front ++ c :: rest).dropWhile p = front.dropWhile p ++ c :: rest := by
  induction front with
  | nil => simp [solid]
  | cons d front ih =>
    rw [List.cons_append, List.dropWhile_cons, List.dropWhile_cons, ih]
    split <;> rfl

theorem rdropWhile_dropWhile (l : List α) : (l.dropWhile p).rdropWhile p = (l.rdropWhile p).dropWhile p := by
  by_cases blank : ∀ c ∈ l, p c = true
  · rw [List.dropWhile_eq_nil_iff.2 blank, List.rdropWhile_eq_nil_iff.2 blank]
    rfl
  · simp only [not_forall, Bool.not_eq_true] at blank
    obtain ⟨c, inside, solid⟩ := blank
    obtain ⟨front, rest, rfl⟩ := List.append_of_mem inside
    rw [dropWhile_append_cons solid, rdropWhile_append_cons solid, rdropWhile_append_cons solid, dropWhile_append_cons solid]

end Ends

theorem isBlank_of_isAlphanum {c : Char} (plain : c.isAlphanum = true) : isBlank c = false := by
  have between := bounds_of_isAlphanum plain
  rw [← Bool.not_eq_true]
  simp only [isBlank, Bool.or_eq_true, Bool.and_eq_true, decide_eq_true_eq, beq_iff_eq]
  omega

theorem trimChars_eq (cs : List Char) : trimChars cs = (cs.dropWhile isBlank).rdropWhile isBlank := rfl

theorem trimChars_append_cons {c : Char} (solid : isBlank c = false) (front rest : List Char) :
    trimChars (front ++ c :: rest) = front.dropWhile isBlank ++ c :: rest.rdropWhile isBlank := by
  rw [trimChars_eq, dropWhile_append_cons solid, rdropWhile_append_cons solid]

theorem mem_trimChars {c : Char} (solid : isBlank c = false) {cs : List Char} (inside : c ∈ cs) : c ∈ trimChars cs := by
  obtain ⟨front, rest, rfl⟩ := List.append_of_mem inside
  rw [trimChars_append_cons solid]
  simp

theorem trimChars_of_solid {cs : List Char} (solid : ∀ c ∈ cs, isBlank c = false) : trimChars cs = cs := by
  have front : cs.dropWhile isBlank = cs := List.dropWhile_eq_self_iff.2 fun _ => by simp [solid]
  rw [trimChars_eq, front, List.rdropWhile_eq_self_iff]
  intro some_char
  simp [solid]

theorem trimChars_dropWhile (cs : List Char) : trimChars (cs.dropWhile isBlank) = trimChars cs := by
  rw [trimChars_eq, List.dropWhile_idempotent, trimChars_eq]

theorem trimChars_rdropWhile (cs : List Char) : trimChars (cs.rdropWhile isBlank) = trimChars cs := by
  rw [trimChars_eq, ← rdropWhile_dropWhile, List.rdropWhile_idempotent, trimChars_eq]

end Spreadsheet.Text
