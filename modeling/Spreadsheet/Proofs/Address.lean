import Spreadsheet.Range
import Spreadsheet.Proofs.Column
import Spreadsheet.Proofs.Run
import Spreadsheet.Proofs.Sheet.Lines
import Spreadsheet.Proofs.Text.Blank

/-! Reading the names of cells and of ranges. Blanks at the ends and dollar signs do not count; what is left has to be the
letters of a column and the digits of a row and nothing else, and each of the three errors has its own texts. A range is
one cell, or two with a colon between them, and reading it gives the smallest range that holds both. -/
namespace Spreadsheet

open Text

namespace Position

/-- The letters of a column, in either case, and after them the digits of a number. -/
inductive Spells : List Char → Nat → Nat → Prop
  | intro {letters digits : List Char} {col number : Nat} (alpha : letters ≠ [] ∧ ∀ c ∈ letters, c.isAlpha = true)
    (names : letters.map Char.toUpper = Column.letters col) (near : col + 1 < indexLimit)
    (numeric : digits ≠ [] ∧ ∀ c ∈ digits, c.isDigit = true) (writes : Nat.ofDigitChars 10 digits 0 = number)
    (low : number < indexLimit) : Spells (letters ++ digits) col number

/-- The text without the blanks at its ends and without dollar signs. -/
def bare (cs : List Char) : List Char := (trimChars cs).filter (· ≠ '$')

/-- The text names the cell. -/
def Named (cs : List Char) (p : Position) : Prop := Spells (bare cs) p.col (p.row + 1)

/-- What reading a text comes to. -/
inductive Reads (s : String) : Except AddressError Position → Prop
  | cell {p : Position} (named : Named s.toList p) : Reads s (.ok p)
  | empty (blank : trim s = "") : Reads s (.error .empty)
  | zeroRow {col : Nat} (zero : Spells (bare s.toList) col 0) : Reads s (.error (.zeroRow (trim s)))
  | badCell (solid : trim s ≠ "") (unspelled : ∀ col number, ¬Spells (bare s.toList) col number) :
    Reads s (.error (.badCell (trim s)))

variable {cs : List Char} {s : String} {p : Position} {col number : Nat}

section Spelling

/-- Letters and digits part at the first digit. -/
theorem spells_iff : Spells cs col number ↔ Column.ofLetters? (cs.takeWhile fun c => !c.isDigit) = some col ∧
    readNumeral indexLimit (cs.dropWhile fun c => !c.isDigit) = some number := by
  rw [Column.ofLetters?_eq_some_iff_letters, readNumeral_eq_some_iff]
  constructor
  · rintro ⟨alpha, names, near, numeric, writes, low⟩
    rename_i letters digits
    have apart : ∀ c ∈ letters, (!c.isDigit) = true := by
      intro c inside
      cases digit : c.isDigit with
      | false => rfl
      | true =>
        have letter := alpha.2 c inside
        rw [isAlpha_of_isDigit digit] at letter
        cases letter
    have stops : Stops (fun c => !c.isDigit) digits := by
      intro c first
      simp [numeric.2 c (List.mem_of_mem_head? first)]
    rw [takeWhile_append apart stops, dropWhile_append apart stops]
    exact ⟨⟨alpha, names, near⟩, numeric, writes, low⟩
  · rintro ⟨⟨alpha, names, near⟩, numeric, writes, low⟩
    have spells := Spells.intro alpha names near numeric writes low
    rwa [List.takeWhile_append_dropWhile] at spells

theorem Spells.isAlphanum (spells : Spells cs col number) {c : Char} (inside : c ∈ cs) : c.isAlphanum = true := by
  obtain ⟨alpha, _, _, numeric, _, _⟩ := spells
  rcases List.mem_append.1 inside with letter | digit
  · simp [Char.isAlphanum, alpha.2 c letter]
  · simp [Char.isAlphanum, numeric.2 c digit]

theorem Spells.ne_nil (spells : Spells cs col number) : cs ≠ [] := by
  obtain ⟨alpha, _, _, _, _, _⟩ := spells
  exact List.append_ne_nil_of_left_ne_nil alpha.1 _

theorem trim_ne_empty (spells : Spells (bare s.toList) col number) : trim s ≠ "" := by
  intro blank
  refine spells.ne_nil ?_
  rw [bare, ← toList_trim, blank]
  rfl

end Spelling

section Reading

theorem isEmpty_trim (solid : trim s ≠ "") : (trim s).toList.isEmpty = false :=
  List.isEmpty_eq_false_iff.2 fun nil => solid (String.toList_eq_nil_iff.1 nil)

theorem parse_of_blank (blank : trim s = "") : parse s = .error .empty := by
  simp [parse, blank]

theorem parse_of_spells (spells : Spells (bare s.toList) col number) : parse s =
    if number = 0 then .error (.zeroRow (trim s)) else .ok ⟨number - 1, col⟩ := by
  have solid := trim_ne_empty spells
  obtain ⟨letters, digits⟩ := spells_iff.1 spells
  rw [bare, ← toList_trim] at letters digits
  simp only [parse, isEmpty_trim solid, letters, digits]
  cases number <;> rfl

theorem parse_of_unspelled (solid : trim s ≠ "") (unspelled : ∀ col number, ¬Spells (bare s.toList) col number) :
    parse s = .error (.badCell (trim s)) := by
  simp only [parse, isEmpty_trim solid, Bool.false_eq_true, if_false]
  split
  next col letters digits =>
    rw [toList_trim] at letters digits
    exact absurd (spells_iff.2 ⟨letters, digits⟩) (unspelled col 0)
  next col row letters digits =>
    rw [toList_trim] at letters digits
    exact absurd (spells_iff.2 ⟨letters, digits⟩) (unspelled col (row + 1))
  next => rfl

theorem reads_parse (s : String) : Reads s (parse s) := by
  by_cases blank : trim s = ""
  · rw [parse_of_blank blank]
    exact .empty blank
  by_cases spelled : ∃ col number, Spells (bare s.toList) col number
  · obtain ⟨col, number, spells⟩ := spelled
    rw [parse_of_spells spells]
    cases number with
    | zero => exact .zeroRow spells
    | succ row => exact .cell spells
  · simp only [not_exists] at spelled
    rw [parse_of_unspelled blank spelled]
    exact .badCell blank spelled

theorem parse_eq_iff {r : Except AddressError Position} : parse s = r ↔ Reads s r := by
  constructor
  · rintro rfl
    exact reads_parse s
  · intro reads
    cases reads with
    | cell named => exact parse_of_spells named
    | empty blank => exact parse_of_blank blank
    | zeroRow zero => exact parse_of_spells zero
    | badCell solid unspelled => exact parse_of_unspelled solid unspelled

theorem parse_eq_ok_iff : parse s = .ok p ↔ Named s.toList p := by
  rw [parse_eq_iff]
  exact ⟨fun | .cell named => named, .cell⟩

end Reading

section Naming

theorem bare_of_plain (plain : ∀ c ∈ cs, c.isAlphanum = true) : bare cs = cs := by
  rw [bare, trimChars_of_solid fun c inside => isBlank_of_isAlphanum (plain c inside), List.filter_eq_self]
  intro c inside
  rw [decide_eq_true_iff]
  rintro rfl
  cases plain _ inside

theorem spells_nameChars (fits : p.row + 1 < indexLimit) (near : p.col + 1 < indexLimit) :
    Spells p.nameChars p.col (p.row + 1) :=
  .intro ⟨Column.letters_ne_nil _, fun _ => Column.isAlpha_of_mem_letters⟩ (Column.map_toUpper_letters _) near
    ⟨numeral_ne_nil _, fun _ => isDigit_of_mem_numeral⟩ (ofDigitChars_numeral _) fits

theorem isAlphanum_of_mem_nameChars {c : Char} (inside : c ∈ p.nameChars) : c.isAlphanum = true := by
  rcases List.mem_append.1 inside with letter | digit
  · simp [Char.isAlphanum, Column.isAlpha_of_mem_letters letter]
  · simp [Char.isAlphanum, isDigit_of_mem_numeral digit]

theorem parse_name (fits : p.row + 1 < indexLimit) (near : p.col + 1 < indexLimit) : parse p.name = .ok p := by
  rw [parse_eq_ok_iff, name, String.toList_ofList, Named, bare_of_plain fun _ => isAlphanum_of_mem_nameChars]
  exact spells_nameChars fits near

theorem Named.whole (named : Named cs p) : ':' ∉ cs := by
  intro inside
  have left : ':' ∈ bare cs := List.mem_filter.2 ⟨mem_trimChars rfl inside, rfl⟩
  cases named.isAlphanum left

theorem named_dropWhile : Named (cs.dropWhile isBlank) p ↔ Named cs p := by
  rw [Named, bare, trimChars_dropWhile, ← bare, ← Named]

theorem named_rdropWhile : Named (cs.rdropWhile isBlank) p ↔ Named cs p := by
  rw [Named, bare, trimChars_rdropWhile, ← bare, ← Named]

end Naming

end Position

namespace Range

open Position

/-- The text names one cell, or two around its first colon. -/
inductive Joins : List Char → Position → Position → Prop
  | cell {cs : List Char} {p : Position} (whole : ':' ∉ cs) (named : Named cs p) : Joins cs p p
  | corners {a b : List Char} {p q : Position} (before : ':' ∉ a) (first : Named a p) (second : Named b q) :
    Joins (a ++ ':' :: b) p q

/-- The smallest range that holds two cells. -/
structure Spans (r : Range) (p q : Position) : Prop where
  rows : r.startRow ≤ r.endRow
  cols : r.startCol ≤ r.endCol
  hull : r.IsHull fun x => x = p ∨ x = q

variable {p q : Position} {a b cs : List Char} {s : String} {r : Range}

theorem spans_between (p q : Position) : (between p q).Spans p q := by
  refine ⟨Nat.le_trans (Nat.min_le_left _ _) (Nat.le_max_left _ _), Nat.le_trans (Nat.min_le_left _ _) (Nat.le_max_left _ _), ?_⟩
  intro r
  simp only [contains_iff .row, Covers, extent, Position.line, Axis.other, between, spanning, forall_eq_or_imp, forall_eq]
  constructor
  · intro holds
    have first := holds p (by omega)
    have second := holds q (by omega)
    omega
  · intro holds x inside
    omega

theorem between_comm (p q : Position) : between p q = between q p := by
  simp only [between, spanning, Nat.min_comm, Nat.max_comm]

section Joining

theorem ne_colon (whole : ':' ∉ cs) : ∀ c ∈ cs, (decide (c ≠ ':')) = true := by
  intro c inside
  rw [decide_eq_true_iff]
  rintro rfl
  exact whole inside

theorem takeWhile_colon (before : ':' ∉ a) (b : List Char) : (a ++ ':' :: b).takeWhile (· ≠ ':') = a :=
  takeWhile_append (ne_colon before) (stops_cons rfl)

theorem dropWhile_colon (before : ':' ∉ a) (b : List Char) : (a ++ ':' :: b).dropWhile (· ≠ ':') = ':' :: b :=
  dropWhile_append (ne_colon before) (stops_cons rfl)

theorem joins_whole_iff (whole : ':' ∉ cs) : Joins cs p q ↔ Named cs p ∧ p = q := by
  constructor
  · rintro (⟨_, named⟩ | _)
    · exact ⟨named, rfl⟩
    · simp at whole
  · rintro ⟨named, rfl⟩
    exact .cell whole named

theorem joins_append_iff (before : ':' ∉ a) : Joins (a ++ ':' :: b) p q ↔ Named a p ∧ Named b q := by
  constructor
  · generalize text : a ++ ':' :: b = cs
    rintro (⟨whole, _⟩ | ⟨before', first, second⟩)
    · subst text
      simp at whole
    · have front := congrArg (List.takeWhile (· ≠ ':')) text
      have back := congrArg (List.dropWhile (· ≠ ':')) text
      rw [takeWhile_colon before, takeWhile_colon before'] at front
      rw [dropWhile_colon before, dropWhile_colon before'] at back
      cases front
      cases back
      exact ⟨first, second⟩
  · exact fun ⟨first, second⟩ => .corners before first second

theorem Joins.count_le (joins : Joins cs p q) : cs.count ':' ≤ 1 := by
  cases joins with
  | cell whole => rw [List.count_eq_zero_of_not_mem whole]; exact Nat.zero_le 1
  | corners before first second =>
    rw [List.count_append, List.count_cons_self, List.count_eq_zero_of_not_mem before,
      List.count_eq_zero_of_not_mem second.whole]

/-- Around a colon the two parts are read apart from each other, blanks at their ends included. -/
theorem joins_trimmed_iff : Joins (trimChars (a ++ ':' :: b)) p q ↔ Named a p ∧ Named b q := by
  rw [trimChars_append_cons rfl]
  by_cases before : ':' ∈ a.dropWhile isBlank
  · have inside : ':' ∈ a := (List.dropWhile_sublist _).mem before
    refine iff_of_false (fun joins => ?_) fun named => named.1.whole inside
    have many := joins.count_le
    have one := List.count_pos_iff.2 before
    rw [List.count_append, List.count_cons_self] at many
    omega
  · rw [joins_append_iff before, named_dropWhile, named_rdropWhile]

end Joining

section Reading

theorem parse_of_whole (whole : ':' ∉ trimChars s.toList) : parse s = do
    let p ← Position.parse (trim s)
    return single p := by
  rw [parse, toList_trim, List.takeWhile_eq_self_iff.2 (ne_colon whole), List.dropWhile_eq_nil_iff.2 (ne_colon whole), trim]
  cases Position.parse (String.ofList (trimChars s.toList)) <;> rfl

theorem parse_of_colon (text : trimChars s.toList = a ++ ':' :: b) (before : ':' ∉ a) : parse s = do
    let p ← Position.parse (String.ofList a)
    let q ← Position.parse (String.ofList b)
    return between p q := by
  rw [parse, toList_trim, text, takeWhile_colon before, dropWhile_colon before]

theorem between_self (p : Position) : between p p = single p := by
  simp only [between, spanning, single, Nat.min_self, Nat.max_self]

theorem parse_eq_ok_iff : parse s = .ok r ↔ ∃ p q, Joins (trimChars s.toList) p q ∧ r = between p q := by
  by_cases colon : ':' ∈ trimChars s.toList
  · obtain ⟨a, b, text, before⟩ := List.eq_append_cons_of_mem colon
    simp only [parse_of_colon text before, Run.bind_eq_ok_iff, Position.parse_eq_ok_iff, String.toList_ofList, text,
      joins_append_iff before]
    constructor
    · rintro ⟨p, first, q, second, same⟩
      exact ⟨p, q, ⟨first, second⟩, (Except.ok.inj same).symm⟩
    · rintro ⟨p, q, ⟨first, second⟩, rfl⟩
      exact ⟨p, first, q, second, rfl⟩
  · simp only [parse_of_whole colon, Run.bind_eq_ok_iff, Position.parse_eq_ok_iff, toList_trim, joins_whole_iff colon]
    constructor
    · rintro ⟨p, named, same⟩
      exact ⟨p, p, ⟨named, rfl⟩, by rw [between_self, Except.ok.inj same]⟩
    · rintro ⟨p, _, ⟨named, rfl⟩, rfl⟩
      exact ⟨p, named, by rw [between_self]; rfl⟩

theorem parse_colon_comm (a b : String) : parse (a ++ ":" ++ b) = .ok r ↔ parse (b ++ ":" ++ a) = .ok r := by
  have apart (a b : String) : parse (a ++ ":" ++ b) = .ok r ↔
      ∃ p q, (Named a.toList p ∧ Named b.toList q) ∧ r = between p q := by
    have text : (a ++ ":" ++ b).toList = a.toList ++ ':' :: b.toList := by simp
    simp only [parse_eq_ok_iff, text, joins_trimmed_iff]
  rw [apart, apart, exists_comm]
  simp only [between_comm, and_comm]

end Reading

end Range

/-- Reading the name of a cell comes to the cell that it names, and without one to the error that its text calls for. A
range is read just if it names one cell or two, and it is the smallest one that holds them, in whatever order they are. -/
theorem addresses_read :
    (∀ (s : String) r, Position.parse s = r ↔ Position.Reads s r) ∧
    (∀ (s : String) r, Range.parse s = .ok r ↔ ∃ p q, Range.Joins (trimChars s.toList) p q ∧ r = Range.between p q) ∧
    (∀ p q, (Range.between p q).Spans p q ∧ Range.between p q = Range.between q p) ∧
    ∀ (a b : String) r, Range.parse (a ++ ":" ++ b) = .ok r ↔ Range.parse (b ++ ":" ++ a) = .ok r :=
  ⟨fun _ _ => Position.parse_eq_iff, fun _ _ => Range.parse_eq_ok_iff,
    fun p q => ⟨Range.spans_between p q, Range.between_comm p q⟩, fun a b _ => Range.parse_colon_comm a b⟩

example : Range.parse " $c$3: a01 " = .ok ⟨0, 0, 2, 2⟩ := by decide +kernel

end Spreadsheet
