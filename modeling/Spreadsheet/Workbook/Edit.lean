import Spreadsheet.Sheet.Edit
import Spreadsheet.Workbook

/-! Every way of changing a workbook, as data. -/
namespace Spreadsheet.Workbook

inductive Edit
  | addSheet (rows cols : Nat)
  | renameSheet (i : Nat) (name : String)
  | deleteSheet (i : Nat)
  | replaceSheets (sheets : List Sheet)
  | editSheet (i : Nat) (edit : Sheet.Edit)

def Edit.apply (e : Edit) (w : Workbook) : Workbook :=
  match e with
  | addSheet rows cols => (w.addSheet rows cols).2
  | renameSheet i name => (w.renameSheet i name).2
  | deleteSheet i => (w.deleteSheet i).2
  | replaceSheets sheets => w.replaceSheets sheets
  | editSheet i edit => w.modifySheet i edit.apply

def applyAll (edits : List Edit) (w : Workbook) : Workbook := edits.foldl (fun w e => e.apply w) w

end Spreadsheet.Workbook
