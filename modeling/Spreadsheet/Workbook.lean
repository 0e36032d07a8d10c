import Spreadsheet.Sheet.Basic
import Spreadsheet.Text.Casing

/-! Workbooks: sheets in the order they are shown. Names are compared without regard to case and to blanks at
their ends, and need not differ. -/
namespace Spreadsheet

structure Workbook where
  sheets : List Sheet
  deriving DecidableEq

inductive RenameOutcome
  | renamed
  | duplicate
  | rejected
  deriving DecidableEq, Repr

namespace Workbook

def default : Workbook := ⟨[Sheet.default]⟩

instance : Inhabited Workbook := ⟨default⟩

/-- No sheets at all stand for the default workbook. -/
def ofSheets (sheets : List Sheet) : Workbook := if sheets.isEmpty then default else ⟨sheets⟩

def sheetCount (w : Workbook) : Nat := w.sheets.length

def sheet? (w : Workbook) (i : Nat) : Option Sheet := w.sheets[i]?

def modifySheet (i : Nat) (f : Sheet → Sheet) (w : Workbook) : Workbook := ⟨w.sheets.modify i f⟩

def replaceSheets (sheets : List Sheet) (w : Workbook) : Workbook := if sheets.isEmpty then w else ⟨sheets⟩

/-- Names with the same key count as the same name. -/
def nameKey (name : String) : String := Text.lower (Text.trim name)

def hasName (w : Workbook) (name : String) : Bool := w.sheets.any fun s => nameKey s.name = nameKey name

def numberedName (n : Nat) : String := "Sheet" ++ String.ofList (Text.numeral n)

/-- The first number from one above the count of sheets whose name is not in use. No name can block two of them,
so that one more candidate than there are sheets is enough. -/
def freshNumber (w : Workbook) : Nat :=
  let first := w.sheetCount + 1
  ((List.range' first (w.sheetCount + 1)).find? fun n => !w.hasName (numberedName n)).getD (first + w.sheetCount)

def addSheet (rows cols : Nat) (w : Workbook) : Nat × Workbook :=
  (w.sheetCount, ⟨w.sheets ++ [Sheet.ofSize (numberedName w.freshNumber) rows cols]⟩)

def isDuplicate (w : Workbook) (i : Nat) (name : String) : Bool :=
  w.sheets.zipIdx.any fun (s, j) => j ≠ i && nameKey s.name = nameKey name

def renameSheet (i : Nat) (name : String) (w : Workbook) : RenameOutcome × Workbook :=
  let trimmed := Text.trim name
  if trimmed = "" || w.sheetCount ≤ i then (.rejected, w)
  else (if w.isDuplicate i trimmed then .duplicate else .renamed, w.modifySheet i fun s => { s with name := trimmed })

/-- The last sheet cannot be deleted. The answer says whether a sheet was deleted. -/
def deleteSheet (i : Nat) (w : Workbook) : Bool × Workbook :=
  if w.sheetCount ≤ 1 || w.sheetCount ≤ i then (false, w) else (true, ⟨w.sheets.eraseIdx i⟩)

end Workbook

end Spreadsheet
