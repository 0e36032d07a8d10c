import Spreadsheet.Proofs.Text.Blank
import Spreadsheet.Proofs.Text.Split

/-! The lines of texts that are put together. A text splits at a line feed wherever it stands, and each line but the last
loses one return at its end. -/
namespace Spreadsheet.Text

variable {separator c : Char} {cs part : List Char} {parts rest : List (List Char)}

theorem join_splitOn (separator : Char) (cs : List Char) : join separator (splitOn separator cs) = cs := by
  rw [join_eq, splitOn_eq]
  exact List.intercalate_splitOn separator

theorem join_cons (part : List Char) (filled : parts ≠ []) :
    join separator (part :: parts) = part ++ separator :: join separator parts := by
  obtain ⟨next, parts, rfl⟩ := List.exists_cons_of_ne_nil filled
  rfl

theorem join_concat (separator : Char) (parts : List (List Char)) (last : List Char) :
    join separator (parts ++ [last]) = parts.flatMap (· ++ [separator]) ++ last := by
  induction parts with
  | nil => rfl
  | cons part parts ih =>
    rw [List.cons_append, join_cons part (by simp), ih]
    simp

theorem splitOn_append_separator (separator : Char) (front rest : List Char) :
    splitOn separator (front ++ separator :: rest) = splitOn separator front ++ splitOn separator rest := by
  simp only [splitOn_eq]
  exact List.splitOn_append_cons_self front rest

theorem splitOn_of_free (free : separator ∉ cs) : splitOn separator cs = [cs] := by
  rw [splitOn_eq]
  exact List.splitOn_eq_singleton free

theorem splitOn_append (front : List Char) (free : separator ∉ front) (split : splitOn separator cs = part :: parts) :
    splitOn separator (front ++ cs) = (front ++ part) :: parts := by
  induction front with
  | nil => exact split
  | cons c front ih =>
    rw [List.mem_cons, not_or] at free
    rw [List.cons_append, splitOn, if_neg (Ne.symm free.1), ih free.2]
    rfl

theorem exists_splitOn (separator : Char) (cs : List Char) : ∃ part parts, splitOn separator cs = part :: parts :=
  List.exists_cons_of_ne_nil (splitOn_ne_nil separator cs)

theorem exists_splitOn_concat (separator : Char) (cs : List Char) : ∃ front last, splitOn separator cs = front ++ [last] :=
  (List.eq_nil_or_concat' _).resolve_left (splitOn_ne_nil separator cs)

theorem endLines_append (filled : rest ≠ []) (parts : List (List Char)) :
    endLines (parts ++ rest) = parts.map (dropLast '\r') ++ endLines rest := by
  induction parts with
  | nil => rfl
  | cons part parts ih =>
    obtain ⟨next, more, same⟩ := List.exists_cons_of_ne_nil (show parts ++ rest ≠ [] by simp [filled])
    rw [List.cons_append, List.map_cons, List.cons_append, ← ih, same]
    rfl

theorem exists_dropLast (c : Char) (cs : List Char) : ∃ last, (last = [] ∨ last = [c]) ∧ cs = dropLast c cs ++ last := by
  unfold dropLast
  split
  next ends => exact ⟨[c], .inr rfl, (List.dropLast_append_getLast? c ends).symm⟩
  next => exact ⟨[], .inl rfl, (List.append_nil cs).symm⟩

theorem trimChars_cons_blank (blank : isBlank c = true) (cs : List Char) : trimChars (c :: cs) = trimChars cs := by
  rw [trimChars_eq, List.dropWhile_cons_of_pos blank, trimChars_eq]

theorem trimChars_dropLast (blank : isBlank c = true) (cs : List Char) : trimChars (dropLast c cs) = trimChars cs := by
  obtain ⟨last, rfl | rfl, same⟩ := exists_dropLast c cs
  · rw [List.append_nil] at same
    rw [← same]
  · conv_rhs => rw [same, ← trimChars_rdropWhile, List.rdropWhile_concat_pos _ _ _ blank, trimChars_rdropWhile]

end Spreadsheet.Text
