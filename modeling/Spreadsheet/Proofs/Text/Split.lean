import Spreadsheet.Text.Split

/-! Texts that are joined can be cut again: parts without the separator come back when their join is cut at it. -/
namespace Spreadsheet.Text

variable {separator c : Char} {parts : List (List Char)}

theorem splitOn_eq (separator : Char) (cs : List Char) : splitOn separator cs = cs.splitOn separator := by
  induction cs with
  | nil => rfl
  | cons c cs ih =>
    rw [splitOn, ih, List.splitOn_cons_eq_if_modifyHead]
    cases found : cs.splitOn separator with
    | nil => exact absurd found (List.splitOn_ne_nil separator cs)
    | cons part parts => simp

theorem join_eq (separator : Char) (parts : List (List Char)) : join separator parts = [separator].intercalate parts := by
  induction parts with
  | nil => rfl
  | cons part parts ih =>
    cases parts with
    | nil => simp [join, List.intercalate]
    | cons next parts => simp [join, ih, List.intercalate]

theorem splitOn_join (parted : parts ≠ []) (free : ∀ part ∈ parts, separator ∉ part) :
    splitOn separator (join separator parts) = parts := by
  rw [splitOn_eq, join_eq]
  exact List.splitOn_intercalate separator free parted

theorem mem_join (inside : c ∈ join separator parts) : c = separator ∨ ∃ part ∈ parts, c ∈ part := by
  induction parts with
  | nil => cases inside
  | cons part parts ih =>
    cases parts with
    | nil => exact .inr ⟨part, List.mem_cons_self, inside⟩
    | cons next parts =>
      rcases List.mem_append.1 inside with first | rest
      · exact .inr ⟨part, List.mem_cons_self, first⟩
      rcases List.mem_cons.1 rest with rfl | rest
      · exact .inl rfl
      obtain same | ⟨part, among, later⟩ := ih rest
      · exact .inl same
      · exact .inr ⟨part, List.mem_cons_of_mem _ among, later⟩

theorem join_eq_nil_iff : join separator parts = [] ↔ parts = [] ∨ parts = [[]] := by
  match parts with
  | [] => simp [join]
  | [part] => simp [join]
  | part :: next :: parts => simp [join]

theorem dropLast_concat (c : Char) (cs : List Char) : dropLast c (cs ++ [c]) = cs := by simp [dropLast]

theorem dropLast_eq_self {cs : List Char} (free : c ∉ cs) : dropLast c cs = cs :=
  if_neg fun last => free (List.mem_of_getLast? last)

/-- Only the last part of a text says how it ends. -/
theorem dropLast_append {last : List Char} (filled : last ≠ []) (free : c ∉ last) (front : List Char) :
    dropLast c (front ++ last) = front ++ last := by
  obtain ⟨d, final⟩ := Option.ne_none_iff_exists'.1 (mt List.getLast?_eq_none_iff.1 filled)
  refine if_neg fun ends => free (List.mem_of_getLast? ?_)
  rwa [List.getLast?_append, final, Option.some_or, ← final] at ends

theorem splitOn_ne_nil (separator : Char) (cs : List Char) : splitOn separator cs ≠ [] := by
  rw [splitOn_eq]
  exact List.splitOn_ne_nil separator cs

theorem flatten_splitOn (separator : Char) (cs : List Char) : (splitOn separator cs).flatten = cs.filter (· ≠ separator) := by
  induction cs with
  | nil => rfl
  | cons c cs ih =>
    obtain ⟨part, parts, split⟩ := List.exists_cons_of_ne_nil (splitOn_ne_nil separator cs)
    rw [split] at ih
    rw [splitOn, split]
    by_cases same : c = separator
    · rw [if_pos same, List.filter_cons_of_neg (by simp [same]), ← ih]
      rfl
    · rw [if_neg same, List.filter_cons_of_pos (by simp [same]), ← ih]
      rfl

theorem splitOn_append_cons {part : List Char} (free : separator ∉ part) (rest : List Char) :
    splitOn separator (part ++ separator :: rest) = part :: splitOn separator rest := by
  rw [splitOn_eq, splitOn_eq]
  exact List.splitOn_append_cons_self_of_not_mem free rest

end Spreadsheet.Text
