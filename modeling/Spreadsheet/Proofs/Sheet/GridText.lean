import Spreadsheet.Proofs.Text.Split
import Spreadsheet.Sheet.Pasting

/-! Rows of fields as text. Where no field holds a tab or a line break, the text gives the rows back unless it ends like the
text of a row less: it does when the last row is one empty field. -/
namespace Spreadsheet

open Text

/-- A field that does not look like several ones. -/
structure Plain (field : String) : Prop where
  tab : '\t' ∉ field.toList
  feed : '\n' ∉ field.toList
  carriage : '\r' ∉ field.toList

instance (field : String) : Decidable (Plain field) :=
  decidable_of_iff ('\t' ∉ field.toList ∧ '\n' ∉ field.toList ∧ '\r' ∉ field.toList)
    ⟨fun ⟨tab, feed, carriage⟩ => ⟨tab, feed, carriage⟩, fun plain => ⟨plain.tab, plain.feed, plain.carriage⟩⟩

def joinFields (fields : List String) : List Char := join '\t' (fields.map String.toList)

/-- A line ends with a line feed, alone or after a return. -/
inductive LineEnd
  | feed
  | returnFeed
  deriving DecidableEq

/-- What stands before the line feed. -/
def LineEnd.lead : LineEnd → List Char
  | feed => []
  | returnFeed => ['\r']

def LineEnd.chars (e : LineEnd) : List Char := e.lead ++ ['\n']

def joinLines (e : LineEnd) (rows : List (List String)) : List Char := e.chars.intercalate (rows.map joinFields)

/-- There are rows, each with fields, and all fields are plain. -/
structure Tabular (rows : List (List String)) : Prop where
  nonempty : rows ≠ []
  filled : ∀ fields ∈ rows, fields ≠ []
  plain : ∀ fields ∈ rows, ∀ field ∈ fields, Plain field

instance (rows : List (List String)) : Decidable (Tabular rows) :=
  decidable_of_iff (rows ≠ [] ∧ (∀ fields ∈ rows, fields ≠ []) ∧ ∀ fields ∈ rows, ∀ field ∈ fields, Plain field)
    ⟨fun ⟨nonempty, filled, plain⟩ => ⟨nonempty, filled, plain⟩,
      fun tabular => ⟨tabular.nonempty, tabular.filled, tabular.plain⟩⟩

variable {rows : List (List String)} {fields last : List String} {e : LineEnd}

theorem joinFields_eq_nil_iff (filled : fields ≠ []) : joinFields fields = [] ↔ fields = [""] := by
  rw [joinFields, join_eq_nil_iff, List.map_eq_nil_iff]
  match fields with
  | [] => exact absurd rfl filled
  | [field] => simp
  | _ :: _ :: _ => simp

theorem notMem_joinFields (plain : ∀ field ∈ fields, Plain field) :
    '\n' ∉ joinFields fields ∧ '\r' ∉ joinFields fields := by
  have only {c : Char} (other : c ≠ '\t') (inside : c ∈ joinFields fields) : ∃ field ∈ fields, c ∈ field.toList := by
    obtain ⟨_, part, inside⟩ := (mem_join inside).resolve_left other
    obtain ⟨field, among, rfl⟩ := List.mem_map.1 part
    exact ⟨field, among, inside⟩
  constructor <;> intro inside
  · obtain ⟨field, among, inside⟩ := only (by decide) inside
    exact (plain field among).feed inside
  · obtain ⟨field, among, inside⟩ := only (by decide) inside
    exact (plain field among).carriage inside

/-- The fields are found again whether or not a return is left at the end of their line. -/
theorem splitOn_joinFields (filled : fields ≠ []) (plain : ∀ field ∈ fields, Plain field) (e : LineEnd) :
    (splitOn '\t' (dropLast '\r' (joinFields fields ++ e.lead))).map String.ofList = fields := by
  have line : dropLast '\r' (joinFields fields ++ e.lead) = joinFields fields := by
    cases e with
    | feed => exact (congrArg _ (List.append_nil _)).trans (dropLast_eq_self (notMem_joinFields plain).2)
    | returnFeed => exact dropLast_concat _ _
  rw [line, joinFields, splitOn_join (mt List.map_eq_nil_iff.1 filled)]
  · rw [List.map_map]
    exact (List.map_congr_left fun field _ => String.ofList_toList).trans (List.map_id _)
  · exact List.forall_mem_map.2 fun field among => (plain field among).tab

theorem joinLines_singleton (e : LineEnd) (fields : List String) : joinLines e [fields] = joinFields fields :=
  List.intercalate_singleton

theorem joinLines_cons (e : LineEnd) (fields : List String) (more : rows ≠ []) :
    joinLines e (fields :: rows) = joinFields fields ++ e.chars ++ joinLines e rows := by
  obtain ⟨next, rows, rfl⟩ := List.exists_cons_of_ne_nil more
  exact List.intercalate_cons_cons

theorem joinLines_concat (e : LineEnd) (nonempty : rows ≠ []) (last : List String) :
    joinLines e (rows ++ [last]) = joinLines e rows ++ e.chars ++ joinFields last := by
  induction rows with
  | nil => exact absurd rfl nonempty
  | cons fields rows ih =>
    by_cases more : rows = []
    · subst more
      rw [List.singleton_append, joinLines_cons e fields (List.cons_ne_nil _ _), joinLines_singleton, joinLines_singleton]
    · rw [List.cons_append, joinLines_cons e fields (List.append_ne_nil_of_left_ne_nil more _), ih more,
        joinLines_cons e fields more]
      simp only [List.append_assoc]

namespace Tabular

theorem exists_concat (tabular : Tabular rows) : ∃ init last, rows = init ++ [last] :=
  ⟨_, _, (List.dropLast_concat_getLast tabular.nonempty).symm⟩

theorem joinLines_eq_nil_iff (tabular : Tabular rows) : joinLines e rows = [] ↔ rows = [[""]] := by
  have filled := tabular.filled
  match rows with
  | [] => exact absurd rfl tabular.nonempty
  | [fields] => simp [joinLines_singleton, joinFields_eq_nil_iff (filled fields List.mem_cons_self)]
  | fields :: next :: rows => simp [joinLines_cons e fields (List.cons_ne_nil next rows), LineEnd.chars]

theorem splitOn_joinLines (tabular : Tabular rows) :
    ((splitOn '\n' (joinLines e rows)).map fun line => (splitOn '\t' (dropLast '\r' line)).map String.ofList) = rows := by
  obtain ⟨nonempty, filled, plain⟩ := tabular
  induction rows with
  | nil => exact absurd rfl nonempty
  | cons fields rows ih =>
    obtain ⟨parted, filled⟩ := List.forall_mem_cons.1 filled
    obtain ⟨plain', plain⟩ := List.forall_mem_cons.1 plain
    obtain ⟨free, _⟩ := notMem_joinFields plain'
    by_cases more : rows = []
    · have line := splitOn_joinFields parted plain' .feed
      rw [LineEnd.lead, List.append_nil] at line
      rw [more, joinLines_singleton, splitOn_eq, List.splitOn_eq_singleton free, List.map_singleton, line]
    · have inner : '\n' ∉ joinFields fields ++ e.lead := by cases e <;> simp [LineEnd.lead, free]
      have cut : joinLines e (fields :: rows) = joinFields fields ++ e.lead ++ '\n' :: joinLines e rows := by
        rw [joinLines_cons e fields more, LineEnd.chars]
        simp only [List.append_assoc, List.singleton_append]
      rw [cut, splitOn_append_cons inner, List.map_cons, splitOn_joinFields parted plain', ih more filled plain]

/-- The text of rows does not end with a return, not even if its last line is empty. -/
theorem dropLast_joinLines (tabular : Tabular rows) : dropLast '\r' (joinLines e rows) = joinLines e rows := by
  obtain ⟨init, last, rfl⟩ := tabular.exists_concat
  obtain ⟨_, free⟩ := notMem_joinFields (tabular.plain last (List.mem_append_right _ List.mem_cons_self))
  by_cases more : init = []
  · rw [more, List.nil_append, joinLines_singleton]
    exact dropLast_eq_self free
  · rw [joinLines_concat e more]
    by_cases empty : joinFields last = []
    · rw [empty, List.append_nil, LineEnd.chars, ← List.append_assoc]
      exact dropLast_append (List.cons_ne_nil _ _) (by decide) _
    · exact dropLast_append empty free _

/-- A text gives the rows that are left of it without a line break at its end, but for a single empty field. -/
theorem gridOfChars_eq (tabular : Tabular rows) {cs : List Char}
    (left : dropLast '\r' (dropLast '\n' cs) = joinLines e rows) : gridOfChars cs = if rows = [[""]] then [] else rows := by
  rw [gridOfChars, left]
  simp only [List.isEmpty_iff, tabular.joinLines_eq_nil_iff, tabular.splitOn_joinLines]

theorem gridOfChars_ended (tabular : Tabular rows) (e e' : LineEnd) :
    gridOfChars (joinLines e rows ++ e'.chars) = if rows = [[""]] then [] else rows := by
  refine tabular.gridOfChars_eq (e := e) ?_
  rw [LineEnd.chars, ← List.append_assoc, dropLast_concat]
  cases e' with
  | feed => exact (congrArg _ (List.append_nil _)).trans tabular.dropLast_joinLines
  | returnFeed => exact dropLast_concat _ _

theorem gridOfChars_unended (tabular : Tabular (rows ++ [last])) (whole : last ≠ [""]) (e : LineEnd) :
    gridOfChars (joinLines e (rows ++ [last])) = rows ++ [last] := by
  have among : last ∈ rows ++ [last] := List.mem_append_right rows (List.mem_singleton_self last)
  have line : joinFields last ≠ [] := mt (joinFields_eq_nil_iff (tabular.filled last among)).1 whole
  obtain ⟨feed, _⟩ := notMem_joinFields (tabular.plain last among)
  have several : rows ++ [last] ≠ [[""]] := by
    intro single
    have final := congrArg List.getLast? single
    rw [List.getLast?_concat] at final
    exact whole (Option.some.inj final)
  have left : dropLast '\n' (joinLines e (rows ++ [last])) = joinLines e (rows ++ [last]) := by
    by_cases more : rows = []
    · rw [more, List.nil_append, joinLines_singleton]
      exact dropLast_eq_self feed
    · rw [joinLines_concat e more]
      exact dropLast_append line feed _
  rw [tabular.gridOfChars_eq ((congrArg _ left).trans tabular.dropLast_joinLines), if_neg several]

/-- A last row of one empty field is lost, since it ends the text like a line break. -/
theorem gridOfChars_concat (tabular : Tabular (rows ++ [[""]])) (e : LineEnd) :
    gridOfChars (joinLines e (rows ++ [[""]])) = if rows = [[""]] then [] else rows := by
  by_cases nonempty : rows = []
  · subst nonempty
    rfl
  · have part : Tabular rows :=
      ⟨nonempty, fun fields among => tabular.filled fields (List.mem_append_left _ among),
        fun fields among => tabular.plain fields (List.mem_append_left _ among)⟩
    rw [joinLines_concat e nonempty, ← part.gridOfChars_ended e e]
    exact congrArg gridOfChars (List.append_nil _)

end Tabular

/-- Rows of plain fields come back from their text when each line has its end. When the last one has none, a last row of
one empty field is lost; and two such rows leave none. -/
theorem gridOfText_joinLines (tabular : Tabular rows) (several : rows ≠ [[""]]) (e e' : LineEnd) :
    gridOfText (String.ofList (joinLines e rows ++ e'.chars)) = rows ∧
      gridOfText (String.ofList (joinLines e rows)) =
        if rows = [[""], [""]] then [] else if rows.getLast? = some [""] then rows.dropLast else rows := by
  simp only [gridOfText, String.toList_ofList]
  refine ⟨(tabular.gridOfChars_ended e e').trans (if_neg several), ?_⟩
  obtain ⟨init, last, rfl⟩ := tabular.exists_concat
  simp only [List.getLast?_concat, List.dropLast_concat, Option.some_inj]
  by_cases empty : last = [""]
  · subst empty
    have pair : init ++ [[""]] = [[""], [""]] ↔ init = [[""]] := @List.append_left_inj _ init [[""]] [[""]]
    rw [tabular.gridOfChars_concat, if_pos rfl]
    exact ite_congr (propext pair.symm) (fun _ => rfl) fun _ => rfl
  · have other : init ++ [last] ≠ [[""], [""]] := by
      intro pair
      have final := congrArg List.getLast? pair
      rw [List.getLast?_concat] at final
      exact empty (Option.some.inj final)
    rw [tabular.gridOfChars_unended empty, if_neg other, if_neg empty]

/-- Rows of different lengths, with empty ones at both ends. -/
def ragged : List (List String) := [[""], ["a", "", "b c"], ["", ""], [""]]

theorem gridOfText_joinLines_ragged : Tabular ragged ∧ ragged ≠ [[""]] ∧
    gridOfText "\r\na\t\tb c\r\n\t\r\n\r\n" = ragged ∧ gridOfText "\na\t\tb c\n\t\n" = ragged.dropLast := by
  have tabular : Tabular ragged := by decide
  have several : ragged ≠ [[""]] := by decide
  exact ⟨tabular, several, (gridOfText_joinLines tabular several .returnFeed .returnFeed).1,
    (gridOfText_joinLines tabular several .feed .feed).2⟩

end Spreadsheet
