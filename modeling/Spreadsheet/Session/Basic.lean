import Spreadsheet.Archive
import Spreadsheet.Clipboard
import Spreadsheet.Debounce
import Spreadsheet.History
import Spreadsheet.Payload.Workbook
import Spreadsheet.Selection
import Spreadsheet.Settings

/-! Sessions: a workbook being edited, with its selection, the open edit, the pointer gesture, the history of
snapshots and the pending save. Committed changes are recorded in the history; silent ones, such as typing and
resizing, change the sheet in place and go into the next snapshot. Both put the save off. -/
namespace Spreadsheet

/-- A cell being edited: the text typed so far is in the cell, and the text from before can be put back. -/
structure OpenEdit where
  sheet : Nat
  position : Position
  previous : String
  buffer : String
  deriving DecidableEq, Repr

inductive Gesture
  | idle
  | selecting
  | filling (origin target : Position)
  | resizing (axis : Axis) (index : Nat)
  deriving DecidableEq, Repr

def Gesture.isActive (g : Gesture) : Bool := g ≠ .idle

structure Session (γ σ : Type) where
  workbook : Workbook
  activeSheet : Nat := 0
  selection : Selection := {}
  edit : Option OpenEdit := none
  gesture : Gesture := .idle
  history : History (List Sheet)
  settings : Settings
  clipboard : γ
  archive : σ
  now : Nat := 0
  autosave : Debounce
  docId : String
  title : String := "Untitled"

namespace Session

variable {γ σ : Type}

def start (docId : String) (workbook : Workbook) (settings : Settings) (clipboard : γ) (archive : σ) : Session γ σ :=
  { workbook, settings, clipboard, archive, docId
    history := .start workbook.sheets settings.historyLimit
    autosave := { delay := settings.autosaveDelay } }

/-- The document of that name in the archive; one that is absent, or cannot be loaded, is one empty sheet of the
size in the settings. -/
def openDocument [Archive σ] (docId : String) (settings : Settings) (clipboard : γ) (archive : σ) : Session γ σ :=
  let (answer, archive) := Archive.load docId archive
  let workbook := match answer with
    | .ok (some payload) => Workbook.load (some payload)
    | _ => .ofSheets [Sheet.ofSize Sheet.defaultName settings.defaultRows settings.defaultCols]
  start docId workbook settings clipboard archive

def sheet (s : Session γ σ) : Sheet := (s.workbook.sheet? s.activeSheet).getD .default

def modifySheet (f : Sheet → Sheet) (s : Session γ σ) : Session γ σ :=
  { s with workbook := s.workbook.modifySheet s.activeSheet f }

/-- What the formula bar shows: the text being typed, or else the raw value of the active cell. -/
def formulaBar (s : Session γ σ) : String := s.edit.elim (s.sheet.raw s.selection.active) OpenEdit.buffer

def columnWidth (s : Session γ σ) (col : Nat) : Nat := (s.sheet.cols.sizes.get? col).getD s.settings.columnWidth

def rowHeight (s : Session γ σ) (row : Nat) : Nat := (s.sheet.rows.sizes.get? row).getD s.settings.rowHeight

def touch (s : Session γ σ) : Session γ σ := { s with autosave := s.autosave.schedule s.now }

/-- Records the sheets, unless they equal the current snapshot. -/
def commit (s : Session γ σ) : Session γ σ :=
  if s.history.current? = some s.workbook.sheets then s
  else touch { s with history := s.history.push s.workbook.sheets }

/-- Leaves an open edit, keeps the text typed, and records it. -/
def finishEdit (s : Session γ σ) : Session γ σ := if s.edit.isSome then commit { s with edit := none } else s

def clampSelection (s : Session γ σ) : Session γ σ :=
  { s with selection := s.selection.clampTo s.sheet.rows.count s.sheet.cols.count }

def restore (sheets : List Sheet) (s : Session γ σ) : Session γ σ :=
  let workbook := s.workbook.replaceSheets sheets
  touch (clampSelection
    { s with workbook, activeSheet := min s.activeSheet (workbook.sheetCount - 1), gesture := .idle })

/-- Moves through the history; silent changes that are pending become a snapshot of their own first. -/
def travel (step : History (List Sheet) → Option (List Sheet) × History (List Sheet)) (s : Session γ σ) :
    Bool × Session γ σ :=
  let s := s.finishEdit.commit
  match step s.history with
  | (some sheets, history) => (true, restore sheets { s with history })
  | (none, _) => (false, s)

def undo (s : Session γ σ) : Bool × Session γ σ := s.travel History.undo

def redo (s : Session γ σ) : Bool × Session γ σ := s.travel History.redo

/-- Saves the document as it is now; a failure is not reported. -/
def writeDocument [Archive σ] (s : Session γ σ) : Session γ σ :=
  { s with archive := (Archive.save s.docId s.workbook.toPayload s.archive).2 }

def maybeSave [Archive σ] (s : Session γ σ) : Bool × Session γ σ :=
  let (due, autosave) := s.autosave.poll s.now
  if due then (true, writeDocument { s with autosave }) else (false, { s with autosave })

def saveNow [Archive σ] (s : Session γ σ) : Session γ σ :=
  if s.autosave.isPending then writeDocument { s with autosave := s.autosave.cancel } else s

/-- Time passes. It is counted in the unit of the delay, whichever that is. -/
def advance (milliseconds : Nat) (s : Session γ σ) : Session γ σ := { s with now := s.now + milliseconds }

def setTitle (title : String) (s : Session γ σ) : Session γ σ := { s with title }

end Session

end Spreadsheet
