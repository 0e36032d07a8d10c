import Spreadsheet.Csv.Export
import Spreadsheet.Csv.Import
import Spreadsheet.Session.Pointer
import Spreadsheet.Sheet.Pasting
import Spreadsheet.Sheet.Sorting
import Spreadsheet.Sheet.Styling
import Spreadsheet.Text.Encoding

/-! Committed changes: commands that edit the active sheet under the selection, clipboard and text exchange, and
the management of sheets. Each first closes an open edit. -/
namespace Spreadsheet

inductive Command
  | clear
  | insertBefore (axis : Axis)
  | insertAfter (axis : Axis)
  | delete (axis : Axis)
  | hide (axis : Axis)
  | unhide (axis : Axis)
  | merge
  | unmerge
  | freeze (axis : Axis) (count : Nat)
  | freezeHere
  | toggleStyle (style : TextStyle)
  | setFormat (format : NumberFormat)
  | setAlignment (align : Alignment)
  | setBackground (color : Option String)
  | setTextColor (color : Option String)
  | setFontSize (size : Option Nat)
  | setBorders (borders : Borders)
  | clearFormatting
  | autofit (col : Nat)
  | sort (col : Nat) (direction : SortDirection)
  | setFilter (col : Nat) (allowed : Keys String)
  | clearFilter (col : Nat)
  | clearAllFilters
  | toggleFilter

namespace Command

/-- Widths in pixels that fit a column to its texts. -/
def charWidth : Nat := 8

def padding : Nat := 16

def minWidth : Nat := 40

def along (axis : Axis) (p : Position) : Nat :=
  match axis with
  | .row => p.row
  | .col => p.col

def edit (c : Command) (selection : Selection) (s : Sheet) : Sheet :=
  let range := selection.range
  match c with
  | clear => s.clearRange range
  | insertBefore axis => s.insertLine axis (range.extent axis).1
  | insertAfter axis => s.insertLine axis ((range.extent axis).2 + 1)
  | delete axis => s.deleteLine axis (along axis selection.active)
  | hide axis => s.hide axis (range.extent axis).1 (range.extent axis).2
  | unhide axis => s.unhide axis (range.extent axis).1 (range.extent axis).2
  | merge => (s.merge range).2
  | unmerge => (s.unmerge selection.active).2
  | freeze axis count => s.freeze axis count
  | freezeHere => (s.freeze .row selection.active.row).freeze .col selection.active.col
  | toggleStyle style => s.toggleStyle range style
  | setFormat format => s.setFormat range format
  | setAlignment align => s.setAlignment range align
  | setBackground color => s.setBackground range color
  | setTextColor color => s.setTextColor range color
  | setFontSize size => s.setFontSize range size
  | setBorders borders => s.setBorders range borders
  | clearFormatting => s.clearFormatting range
  | autofit col => s.setSize .col col (s.autofitWidth col charWidth padding minWidth)
  | sort col direction => s.sortByColumn col direction
  | setFilter col allowed => s.setFilter col allowed
  | clearFilter col => s.clearFilter col
  | clearAllFilters => s.clearAllFilters
  | toggleFilter => s.setFilterEnabled !s.filterEnabled

/-- The selection a command leaves, before it is kept inside the sheet: a delete collapses it. -/
def reselect (c : Command) (selection : Selection) : Selection :=
  match c with
  | delete _ => .single selection.active
  | _ => selection

end Command

namespace Session

variable {γ σ : Type}

def run (c : Command) (s : Session γ σ) : Session γ σ :=
  let s := s.finishEdit
  let edited := (s.modifySheet (c.edit s.selection)).clampSelection.commit
  clampSelection { edited with selection := c.reselect s.selection }

def copy [Clipboard γ] (s : Session γ σ) : Bool × Session γ σ :=
  let s := s.finishEdit
  let (answer, clipboard) := Clipboard.write (s.sheet.copyText s.selection.range) s.clipboard
  (answer.isOk, { s with clipboard })

/-- Nothing is cleared if copying failed. -/
def cut [Clipboard γ] (s : Session γ σ) : Session γ σ :=
  let (copied, s) := s.copy
  if copied then s.run .clear else s

/-- Pastes at the active cell and selects what was written. -/
def paste [Clipboard γ] (s : Session γ σ) : Session γ σ :=
  let s := s.finishEdit
  let (answer, clipboard) := Clipboard.read s.clipboard
  let s := { s with clipboard }
  match answer with
  | .error _ => s
  | .ok text =>
    match s.sheet.pasteText s.selection.active text s.settings.pastePolicy with
    | (some written, sheet) => ((s.modifySheet fun _ => sheet).selectRange written).commit
    | (none, _) => s

def addSheet (s : Session γ σ) : Nat × Session γ σ :=
  let s := s.finishEdit
  let (index, workbook) := s.workbook.addSheet s.settings.defaultRows s.settings.defaultCols
  (index, commit { s with workbook, activeSheet := index, selection := {} })

def renameSheet (index : Nat) (name : String) (s : Session γ σ) : RenameOutcome × Session γ σ :=
  let s := s.finishEdit
  match s.workbook.renameSheet index name with
  | (.rejected, _) => (.rejected, s)
  | (outcome, workbook) => (outcome, commit { s with workbook })

/-- The sheet that was active stays active, unless it is the one deleted. -/
def deleteSheet (index : Nat) (s : Session γ σ) : Bool × Session γ σ :=
  let s := s.finishEdit
  match s.workbook.deleteSheet index with
  | (false, _) => (false, s)
  | (true, workbook) =>
    let moved := index < s.activeSheet || workbook.sheetCount ≤ s.activeSheet
    (true, commit (clampSelection { s with workbook, activeSheet := if moved then s.activeSheet - 1 else s.activeSheet }))

def switchSheet (index : Nat) (s : Session γ σ) : Bool × Session γ σ :=
  if index < s.workbook.sheetCount then (true, { s.finishEdit with activeSheet := index, selection := {} }) else (false, s)

def exportCsv (s : Session γ σ) : String := s.sheet.toCsv

def csvFileName (s : Session γ σ) : String := Csv.fileName s.title

def importCsv (content : String) (s : Session γ σ) : Session γ σ :=
  let s := s.finishEdit
  match s.sheet.importCsv content with
  | (some covered, sheet) => ((s.modifySheet fun _ => sheet).selectRange covered).commit
  | (none, _) => s

def importCsvFile (content : List UInt8) (s : Session γ σ) : Session γ σ := s.importCsv (Text.Encoding.decode content)

end Session

end Spreadsheet
