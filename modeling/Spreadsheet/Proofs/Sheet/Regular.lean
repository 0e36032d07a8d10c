import Spreadsheet.Proofs.Sheet.Bounds
import Spreadsheet.Proofs.Table
import Spreadsheet.Workbook.Edit

/-! What every way of changing sheets and workbooks keeps: no blank cell is stored, and a sheet always has a row and
a column, a workbook a sheet. -/
namespace Spreadsheet

namespace Grid

/-- Does the grid hold no blank cell? -/
def NoBlank (g : Grid) : Prop := ∀ e ∈ g.cells.entries, e.2 ≠ Cell.blank

theorem noBlank_empty : NoBlank {} := by
  intro e inside
  cases inside

theorem noBlank_set {g : Grid} (visible : g.NoBlank) (p : Position) (c : Cell) : (g.set p c).NoBlank := by
  intro e inside
  rw [set] at inside
  split at inside
  next => exact visible e (Table.mem_of_mem_erase inside)
  next solid =>
    rcases Table.mem_insertIn inside with rfl | inside
    · intro blank
      exact solid (beq_iff_eq.2 blank)
    · exact visible e inside

theorem noBlank_update {g : Grid} (visible : g.NoBlank) (p : Position) (f : Cell → Cell) :
    (g.update p f).NoBlank :=
  noBlank_set visible p _

theorem noBlank_remap {g : Grid} (visible : g.NoBlank) (row col : Nat → Option Nat) :
    (g.remap row col).NoBlank := by
  intro e inside
  obtain ⟨p, old⟩ := Table.mem_rekey inside
  exact visible (p, e.2) old

end Grid

namespace Sheet

/-- No blank cell is stored, and neither rows nor columns run out. -/
structure Regular (s : Sheet) : Prop where
  visible : s.grid.NoBlank
  rows : 0 < s.rows.count
  cols : 0 < s.cols.count

variable {s : Sheet}

theorem regular_ofSize (name : String) (rows cols : Nat) : (ofSize name rows cols).Regular :=
  ⟨Grid.noBlank_empty, Nat.le_max_right _ _, Nat.le_max_right _ _⟩

theorem regular_iff : s.Regular ↔ s.grid.NoBlank ∧ s.Spacious :=
  ⟨fun regular => ⟨regular.visible, regular.rows, regular.cols⟩, fun both => ⟨both.1, both.2.1, both.2.2⟩⟩

theorem stable_visible : Stable (fun _ => True) fun s => s.grid.NoBlank where
  setCell visible p c := Grid.noBlank_set visible p c
  sort visible _ _ := Grid.noBlank_remap visible _ _
  mapLines visible axis _ _ := by cases axis <;> exact visible
  insertLine visible axis _ := by cases axis <;> exact Grid.noBlank_remap visible _ _
  deleteLine visible axis _ := by cases axis <;> exact Grid.noBlank_remap visible _ _
  merge {s} visible r _ := by
    rw [merge]
    split
    · exact visible
    · refine List.foldlRecOn (motive := fun s : Sheet => s.grid.NoBlank) (r.cells.filter (· ≠ r.origin)) _ visible ?_
      exact fun _ visible p _ => Grid.noBlank_update visible p _
  unmerge visible _ := visible
  filter visible _ _ := visible

theorem stable_regular : Stable (fun _ => True) Regular := by
  have same : Regular = fun s => s.grid.NoBlank ∧ s.Spacious := funext fun _ => propext regular_iff
  rw [same]
  exact stable_visible.and stable_spacious

theorem Regular.apply (regular : s.Regular) (e : Edit) : (e.apply s).Regular :=
  stable_regular.apply regular e fun _ _ => trivial

end Sheet

/-- At least one sheet, and all of one kind. -/
def Sheets (Q : Sheet → Prop) (sheets : List Sheet) : Prop := sheets ≠ [] ∧ ∀ s ∈ sheets, Q s

section

variable {Q : Sheet → Prop} {sheets : List Sheet}

theorem Sheets.singleton {s : Sheet} (kind : Q s) : Sheets Q [s] := by
  refine ⟨List.cons_ne_nil _ _, ?_⟩
  intro t inside
  rwa [List.mem_singleton.1 inside]

variable (kinds : Sheets Q sheets)
include kinds

theorem Sheets.modify {f : Sheet → Sheet} (keeps : ∀ s, Q s → Q (f s)) (i : Nat) : Sheets Q (sheets.modify i f) := by
  refine ⟨fun none => kinds.1 (List.modify_eq_nil_iff.1 none), ?_⟩
  intro s inside
  obtain ⟨j, found⟩ := List.mem_iff_getElem?.1 inside
  rw [List.getElem?_modify] at found
  obtain ⟨old, before, rfl⟩ := Option.map_eq_some_iff.1 found
  have kept : Q old := kinds.2 old (List.mem_of_getElem? before)
  split
  · exact keeps old kept
  · exact kept

theorem Sheets.concat {s : Sheet} (kind : Q s) : Sheets Q (sheets ++ [s]) := by
  refine ⟨List.append_ne_nil_of_right_ne_nil _ (List.cons_ne_nil _ _), ?_⟩
  intro t inside
  rcases List.mem_append.1 inside with old | added
  · exact kinds.2 t old
  · rwa [List.mem_singleton.1 added]

theorem Sheets.eraseIdx {i : Nat} (more : 1 < sheets.length) : Sheets Q (sheets.eraseIdx i) := by
  refine ⟨List.ne_nil_of_length_pos ?_, fun s inside => kinds.2 s (List.mem_of_mem_eraseIdx inside)⟩
  rw [List.length_eraseIdx]
  split <;> omega

end

namespace Workbook

/-- There is a sheet, and every sheet is regular. -/
structure Regular (w : Workbook) : Prop where
  inhabited : w.sheets ≠ []
  sheets : ∀ s ∈ w.sheets, s.Regular

theorem regular_iff {w : Workbook} : w.Regular ↔ Sheets Sheet.Regular w.sheets :=
  ⟨fun regular => ⟨regular.inhabited, regular.sheets⟩, fun kinds => ⟨kinds.1, kinds.2⟩⟩

theorem regular_default : Workbook.default.Regular := regular_iff.2 (.singleton (Sheet.regular_ofSize _ _ _))

theorem regular_ofSheets {sheets : List Sheet} (regular : ∀ s ∈ sheets, s.Regular) :
    (ofSheets sheets).Regular := by
  rw [ofSheets]
  split
  next => exact regular_default
  next inhabited => exact ⟨by simpa using inhabited, regular⟩

theorem Regular.modifySheet {w : Workbook} (regular : w.Regular) (i : Nat) {f : Sheet → Sheet}
    (keeps : ∀ s, s.Regular → (f s).Regular) : (w.modifySheet i f).Regular :=
  regular_iff.2 ((regular_iff.1 regular).modify keeps i)

theorem renameSheet_cases (i : Nat) (name : String) (w : Workbook) :
    w.renameSheet i name = (.rejected, w) ∨ ∃ outcome, outcome ≠ .rejected ∧
      w.renameSheet i name = (outcome, w.modifySheet i fun s => { s with name := Text.trim name }) := by
  rw [renameSheet]
  split
  · exact .inl rfl
  · refine .inr ⟨_, ?_, rfl⟩
    split <;> nofun

theorem deleteSheet_cases (i : Nat) (w : Workbook) :
    ((w.sheetCount ≤ 1 ∨ w.sheetCount ≤ i) ∧ w.deleteSheet i = (false, w)) ∨
      (1 < w.sheetCount ∧ i < w.sheetCount ∧ w.deleteSheet i = (true, ⟨w.sheets.eraseIdx i⟩)) := by
  rw [deleteSheet]
  split
  next kept => exact .inl ⟨by simpa using kept, rfl⟩
  next many =>
    obtain ⟨more, inside⟩ : 1 < w.sheetCount ∧ i < w.sheetCount := by simpa using many
    exact .inr ⟨more, inside, rfl⟩

/-- The sheets that an edit brings in from elsewhere. -/
def Edit.incoming : Edit → List Sheet
  | replaceSheets sheets => sheets
  | _ => []

theorem Regular.apply {w : Workbook} (regular : w.Regular) {e : Edit} (incoming : ∀ s ∈ e.incoming, s.Regular) :
    (e.apply w).Regular := by
  cases e with
  | addSheet rows cols => exact regular_iff.2 ((regular_iff.1 regular).concat (Sheet.regular_ofSize _ _ _))
  | renameSheet i name =>
    change (w.renameSheet i name).2.Regular
    rcases w.renameSheet_cases i name with same | ⟨_, _, renamed⟩
    · rw [same]
      exact regular
    · rw [renamed]
      exact regular.modifySheet i fun s regular => ⟨regular.visible, regular.rows, regular.cols⟩
  | deleteSheet i =>
    change (w.deleteSheet i).2.Regular
    rcases w.deleteSheet_cases i with ⟨_, same⟩ | ⟨more, _, deleted⟩
    · rw [same]
      exact regular
    · rw [deleted]
      exact regular_iff.2 ((regular_iff.1 regular).eraseIdx more)
  | replaceSheets sheets =>
    change (w.replaceSheets sheets).Regular
    rw [replaceSheets]
    split
    next => exact regular
    next inhabited => exact ⟨by simpa using inhabited, incoming⟩
  | editSheet i edit => exact regular.modifySheet i fun s regular => regular.apply edit

end Workbook

end Spreadsheet
