import Spreadsheet.Session.Basic
import Spreadsheet.Sheet.Structure

/-! Editing the active cell. Every change of the text is in the cell at once, without a snapshot; closing the
edit records it, and cancelling puts the text from before back. -/
namespace Spreadsheet.Session

variable {γ σ : Type}

/-- The cell that an edit of the active cell goes to: the first one of the merge that covers it. -/
def editTarget (s : Session γ σ) : Position :=
  (s.sheet.mergeAt s.selection.active).elim s.selection.active Range.origin

def writeBuffer (s : Session γ σ) : Session γ σ :=
  match s.edit with
  | none => s
  | some e => touch { s with workbook := s.workbook.modifySheet e.sheet (·.setValue e.position e.buffer) }

def setBuffer (f : String → String) (s : Session γ σ) : Session γ σ :=
  { s with edit := s.edit.map fun e => { e with buffer := f e.buffer } }

/-- Opens an edit, with the given text in place of the cell's. An edit that is open stays as it is. -/
def startEdit (seed : Option String) (s : Session γ σ) : Session γ σ :=
  if s.edit.isSome then s
  else
    let position := s.editTarget
    let previous := s.sheet.raw position
    let buffer := seed.getD previous
    let opened := { s with edit := some ⟨s.activeSheet, position, previous, buffer⟩ }
    if buffer = previous then opened else opened.writeBuffer

def setEditText (text : String) (s : Session γ σ) : Session γ σ := ((s.startEdit none).setBuffer fun _ => text).writeBuffer

def typeChar (c : Char) (s : Session γ σ) : Session γ σ := ((s.startEdit (some "")).setBuffer (·.push c)).writeBuffer

def dropLastChar (text : String) : String := String.ofList text.toList.dropLast

def backspace (s : Session γ σ) : Session γ σ := (s.setBuffer dropLastChar).writeBuffer

def cancelEdit (s : Session γ σ) : Session γ σ :=
  match s.edit with
  | none => s
  | some e =>
    touch { s with edit := none, workbook := s.workbook.modifySheet e.sheet (·.setValue e.position e.previous) }

end Spreadsheet.Session
