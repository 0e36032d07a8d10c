import Spreadsheet.Csv.Records
import Spreadsheet.Proofs.Text.Numeral

/-! How records are read: a field goes to its separator, a record to its line break, and the next record is looked for
from there. -/
namespace Spreadsheet.Csv

open Text

/-- Nothing follows, or what ends a field. -/
abbrev AtFieldEnd (rest : List Char) : Prop := Stops (fun c => !endsField c) rest

/-- Nothing follows, or what ends a record. -/
abbrev AtRecordEnd (rest : List Char) : Prop := Stops (fun c => !isBreak c) rest

variable {offset : Nat} {c : Char} {cs text first rest : List Char} {found : List (List Char)}

theorem AtRecordEnd.atFieldEnd (ends : AtRecordEnd rest) : AtFieldEnd rest := by
  refine ends.mono fun c inside => ?_
  have other : endsField c = false := by simpa using inside
  have solid : isBreak c = false := (Bool.or_eq_false_iff.1 other).2
  exact congrArg not solid

theorem endsField_of_atFieldEnd (ends : AtFieldEnd rest) (next : c ∈ rest.head?) : endsField c = true := by
  simpa using ends c next

theorem isBreak_of_atRecordEnd (ends : AtRecordEnd rest) (next : c ∈ rest.head?) : isBreak c = true := by
  simpa using ends c next

theorem atFieldEnd_comma (rest : List Char) : AtFieldEnd (',' :: rest) := by
  rintro c ⟨⟩
  rfl

theorem atRecordEnd_nil : AtRecordEnd [] := by
  rintro c ⟨⟩

theorem atRecordEnd_cons (line : isBreak c = true) (rest : List Char) : AtRecordEnd (c :: rest) := by
  rintro _ ⟨⟩
  exact congrArg not line

theorem fields_of_comma (read : field cs = (first, ',' :: rest)) :
    fields cs = (first :: (fields rest).1, (fields rest).2) := by
  rw [fields]
  split
  next eq =>
    rw [read] at eq
    cases eq
    rw [read]
  next other eq =>
    rw [read] at eq
    cases eq
    exact absurd rfl other
  next eq =>
    rw [read] at eq
    cases eq

theorem fields_of_atRecordEnd (read : field cs = (first, rest)) (ends : AtRecordEnd rest) :
    fields cs = ([first], rest.tail) := by
  rw [fields]
  split
  next eq =>
    rw [read] at eq
    subst eq
    exact absurd (isBreak_of_atRecordEnd ends rfl) (by decide)
  next eq =>
    rw [read] at eq
    subst eq
    rw [read, List.tail_cons]
  next eq =>
    rw [read] at eq
    subst eq
    rw [read, List.tail_nil]

theorem recordsFrom_of_nil (empty : cs.dropWhile isBreak = []) : recordsFrom offset cs = [] := by
  rw [recordsFrom]
  split
  next => rfl
  next eq =>
    rw [empty] at eq
    cases eq

theorem recordsFrom_of_cons (solid : cs.dropWhile isBreak = c :: rest) :
    recordsFrom offset cs = ⟨offset + (cs.length - (c :: rest).length), (fields (c :: rest)).1⟩ ::
      recordsFrom (offset + (cs.length - (fields (c :: rest)).2.length)) (fields (c :: rest)).2 := by
  rw [recordsFrom]
  split
  next eq =>
    rw [solid] at eq
    cases eq
  next eq =>
    rw [solid] at eq
    cases eq
    have whole := (List.dropWhile_sublist (l := cs) isBreak).length_le
    have part := length_fields_lt c rest
    rw [solid] at whole
    have place : offset + (cs.length - (c :: rest).length) + ((c :: rest).length - (fields (c :: rest)).2.length) =
        offset + (cs.length - (fields (c :: rest)).2.length) := by omega
    rw [← place]

@[simp] theorem recordsFrom_nil (offset : Nat) : recordsFrom offset [] = [] := recordsFrom_of_nil rfl

theorem recordsFrom_break (line : isBreak c = true) (offset : Nat) (cs : List Char) :
    recordsFrom offset (c :: cs) = recordsFrom (offset + 1) cs := by
  have skipped : (c :: cs).dropWhile isBreak = cs.dropWhile isBreak := List.dropWhile_cons_of_pos line
  have whole := (List.dropWhile_sublist (l := cs) isBreak).length_le
  cases found : cs.dropWhile isBreak with
  | nil => rw [recordsFrom_of_nil (skipped.trans found), recordsFrom_of_nil found]
  | cons d rest =>
    have part := length_fields_lt d rest
    rw [found] at whole
    have first : offset + ((c :: cs).length - (d :: rest).length) = offset + 1 + (cs.length - (d :: rest).length) := by
      simp only [List.length_cons] at whole ⊢
      omega
    have next : offset + ((c :: cs).length - (fields (d :: rest)).2.length) =
        offset + 1 + (cs.length - (fields (d :: rest)).2.length) := by
      simp only [List.length_cons] at whole part ⊢
      omega
    rw [recordsFrom_of_cons (skipped.trans found), recordsFrom_of_cons found, first, next]

theorem recordsFrom_append (filled : text ≠ []) (solid : Stops isBreak text)
    (read : fields (text ++ rest) = (found, rest.tail)) (ends : AtRecordEnd rest) (offset : Nat) :
    recordsFrom offset (text ++ rest) = ⟨offset, found⟩ :: recordsFrom (offset + text.length) rest := by
  obtain ⟨c, cs, rfl⟩ := List.exists_cons_of_ne_nil filled
  have whole : (c :: cs ++ rest).dropWhile isBreak = c :: (cs ++ rest) := dropWhile_of_stops solid
  rw [recordsFrom_of_cons whole, ← List.cons_append, read]
  have start : offset + ((c :: cs ++ rest).length - (c :: cs ++ rest).length) = offset := by omega
  rw [start]
  cases rest with
  | nil => simp only [List.tail_nil, recordsFrom_nil]
  | cons d rest =>
    have line := isBreak_of_atRecordEnd ends rfl
    have next : offset + ((c :: cs ++ d :: rest).length - rest.length) = offset + (c :: cs).length + 1 := by
      simp only [List.length_append, List.length_cons]
      omega
    rw [recordsFrom_break line, List.tail_cons, next]

/-- The offsets follow the place where the text begins. -/
theorem recordsFrom_add (shift offset : Nat) (cs : List Char) :
    recordsFrom (shift + offset) cs = (recordsFrom offset cs).map fun r => ⟨shift + r.offset, r.fields⟩ := by
  induction size : cs.length using Nat.strongRecOn generalizing offset cs with
  | ind n ih =>
    cases skipped : cs.dropWhile isBreak with
    | nil =>
      rw [recordsFrom_of_nil skipped, recordsFrom_of_nil skipped]
      rfl
    | cons c rest =>
      have whole := (List.dropWhile_sublist (l := cs) isBreak).length_le
      have part := length_fields_lt c rest
      rw [skipped] at whole
      rw [recordsFrom_of_cons skipped, recordsFrom_of_cons skipped, List.map_cons, Nat.add_assoc, Nat.add_assoc,
        ih _ (by omega) _ _ rfl]

theorem offset_of_stops {r : Record} {rs : List Record} (begins : Stops isBreak cs)
    (read : recordsFrom offset cs = r :: rs) : r.offset = offset := by
  cases cs with
  | nil =>
    rw [recordsFrom_nil] at read
    cases read
  | cons c cs =>
    rw [recordsFrom_of_cons (dropWhile_of_stops begins)] at read
    cases read
    exact Nat.add_eq_left.2 (Nat.sub_self _)

theorem records_of_unmarked (unmarked : '\ufeff' ∉ cs.head?) : records cs = recordsFrom 0 cs := by
  rw [records.eq_def]
  split
  next => exact absurd rfl unmarked
  next => rfl

/-- The first record after a byte order mark counts as the start, wherever it is. -/
theorem records_mark (cs : List Char) : records ('\ufeff' :: cs) =
    ((recordsFrom 0 cs).map fun r => ⟨1 + r.offset, r.fields⟩).modifyHead fun r => { r with offset := 0 } := by
  have shifted := recordsFrom_add 1 0 cs
  rw [records, shifted]
  cases recordsFrom 0 cs <;> rfl

theorem fields_ne_nil (cs : List Char) : (fields cs).1 ≠ [] := by
  rw [fields]
  split <;> exact List.cons_ne_nil _ _

theorem fields_ne_nil_of_mem_recordsFrom {r : Record} (among : r ∈ recordsFrom offset cs) : r.fields ≠ [] := by
  fun_induction recordsFrom offset cs with
  | case1 => cases among
  | case2 offset cs c rest _ start found ih =>
    rcases List.mem_cons.1 among with rfl | later
    · exact fields_ne_nil (c :: rest)
    · exact ih later

theorem fields_ne_nil_of_mem_records {r : Record} (among : r ∈ records cs) : r.fields ≠ [] := by
  rw [records.eq_def] at among
  split at among
  next cs =>
    have filled : ∀ r ∈ recordsFrom 1 cs, r.fields ≠ [] := fun _ => fields_ne_nil_of_mem_recordsFrom
    cases read : recordsFrom 1 cs with
    | nil =>
      rw [read] at among
      cases among
    | cons first more =>
      rw [read] at among filled
      rcases List.mem_cons.1 among with rfl | later
      · exact filled first List.mem_cons_self
      · exact filled r (List.mem_cons_of_mem _ later)
  next => exact fields_ne_nil_of_mem_recordsFrom among

end Spreadsheet.Csv
