import Spreadsheet.Number.Display
import Spreadsheet.Proofs.Text.Split

/-! Digits in groups of three. A comma goes in where the number of digits still to come is a multiple of three, so every
group has three digits apart from the first, which has what is left over or, where nothing is, three as well. -/
namespace Spreadsheet.Number

open Text

/-- The text holds the digits in groups of three, a comma between any two of them. The first group may be shorter. -/
structure Grouped (digits text : List Char) : Prop where
  ungrouped : text.filter (· ≠ ',') = digits
  starts : text.head? ≠ some ','
  ends : text.getLast? ≠ some ','
  groups : digits ≠ [] → ∃ first rest, splitOn ',' text = first :: rest ∧ (first :: rest).flatten = digits ∧
    (1 ≤ first.length ∧ first.length ≤ 3) ∧ ∀ group ∈ rest, group.length = 3
  empty : digits = [] → text = []

variable {c : Char} {cs digits : List Char}

theorem groupThousands_cons (c : Char) (cs : List Char) :
    groupThousands (c :: cs) =
      if cs ≠ [] ∧ cs.length % 3 = 0 then c :: ',' :: groupThousands cs else c :: groupThousands cs := by
  rw [groupThousands]
  congr 1
  simp [and_comm]

theorem head?_groupThousands (cs : List Char) : (groupThousands cs).head? = cs.head? := by
  cases cs with
  | nil => rfl
  | cons c cs =>
    rw [groupThousands_cons]
    split <;> rfl

theorem getLast?_groupThousands (cs : List Char) : (groupThousands cs).getLast? = cs.getLast? := by
  induction cs with
  | nil => rfl
  | cons c cs ih =>
    rw [groupThousands_cons]
    split
    next comma =>
      obtain ⟨d, cs, rfl⟩ := List.exists_cons_of_ne_nil comma.1
      rw [List.getLast?_cons, List.getLast?_cons, ih, List.getLast?_cons_cons, List.getLast?_cons]
      rfl
    next => rw [List.getLast?_cons, ih, List.getLast?_cons]

theorem filter_groupThousands (plain : ',' ∉ cs) : (groupThousands cs).filter (· ≠ ',') = cs := by
  induction cs with
  | nil => rfl
  | cons c cs ih =>
    obtain ⟨other, plain⟩ := not_or.1 (mt List.mem_cons.2 plain)
    have kept (l : List Char) : (c :: l).filter (· ≠ ',') = c :: l.filter (· ≠ ',') :=
      List.filter_cons_of_pos (by simpa using Ne.symm other)
    have dropped (l : List Char) : (',' :: l).filter (· ≠ ',') = l.filter (· ≠ ',') := List.filter_cons_of_neg (by simp)
    rw [groupThousands_cons]
    split
    next => rw [kept, dropped, ih plain]
    next => rw [kept, ih plain]

/-- As many digits are in the first group as are left over from groups of three, or three of them. -/
theorem splitOn_groupThousands (plain : ',' ∉ c :: cs) :
    ∃ first rest, splitOn ',' (groupThousands (c :: cs)) = first :: rest ∧ first.length = cs.length % 3 + 1 ∧
      ∀ group ∈ rest, group.length = 3 := by
  induction cs generalizing c with
  | nil =>
    have other : c ≠ ',' := fun same => plain (by simp [same])
    exact ⟨[c], [], by simp [groupThousands, splitOn, other], rfl, nofun⟩
  | cons d cs ih =>
    obtain ⟨other, plain⟩ := not_or.1 (mt List.mem_cons.2 plain)
    obtain ⟨first, rest, split, short, full⟩ := ih plain
    by_cases whole : (d :: cs).length % 3 = 0
    · -- only whole groups follow, and the digit is a group of its own for now
      have three : first.length = 3 := by
        simp only [List.length_cons] at whole
        omega
      rw [groupThousands_cons, if_pos ⟨List.cons_ne_nil d cs, whole⟩]
      refine ⟨[c], first :: rest, ?_, ?_, List.forall_mem_cons.2 ⟨three, full⟩⟩
      · rw [splitOn, if_neg (Ne.symm other), splitOn, if_pos rfl, split]
      · rw [whole, List.length_singleton]
    · rw [groupThousands_cons, if_neg fun both => whole both.2]
      refine ⟨c :: first, rest, ?_, ?_, full⟩
      · rw [splitOn, if_neg (Ne.symm other), split]
      · simp only [List.length_cons] at whole ⊢
        omega

/-- Digits are grouped from the right however many there are. -/
theorem grouped_groupThousands (numeric : ∀ d ∈ digits, d.isDigit = true) : Grouped digits (groupThousands digits) := by
  have plain : ',' ∉ digits := fun inside => nomatch numeric _ inside
  refine ⟨filter_groupThousands plain, fun first => ?_, fun last => ?_, fun filled => ?_, ?_⟩
  · rw [head?_groupThousands] at first
    exact plain (List.mem_of_head? first)
  · rw [getLast?_groupThousands] at last
    exact plain (List.mem_of_getLast? last)
  · obtain ⟨d, ds, rfl⟩ := List.exists_cons_of_ne_nil filled
    obtain ⟨first, rest, split, short, full⟩ := splitOn_groupThousands plain
    refine ⟨first, rest, split, ?_, by omega, full⟩
    rw [← split, flatten_splitOn, filter_groupThousands plain]
  · rintro rfl
    rfl

/-- Six digits are two whole groups, and nothing is left over. -/
theorem grouped_groupThousands_whole :
    (∀ d ∈ ['1', '2', '3', '4', '5', '6'], d.isDigit = true) ∧
      Grouped ['1', '2', '3', '4', '5', '6'] ['1', '2', '3', ',', '4', '5', '6'] := by
  have numeric : ∀ d ∈ ['1', '2', '3', '4', '5', '6'], d.isDigit = true :=
    List.all_eq_true.1 rfl
  exact ⟨numeric, grouped_groupThousands numeric⟩

end Spreadsheet.Number
