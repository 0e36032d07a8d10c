import Spreadsheet.Session.Editing
import Spreadsheet.Sheet.Filling
import Spreadsheet.Sheet.Filtering

/-! Moving the selection by keys, and pointer gestures: pressing arms a gesture, moving follows it, releasing
ends it, and only filling does its work on release. -/
namespace Spreadsheet

namespace Sheet

/-- An index as signed coordinates hold it: those of sixty-four bits. -/
def signed (n : Nat) : Int := (n : Int).bmod Text.indexLimit

def isSkipped (s : Sheet) (dr dc : Int) (p : Position) : Bool :=
  (dr ≠ 0 && s.isRowHidden p.row) || (dc ≠ 0 && s.isColHidden p.col)

/-- The first cell that is shown on the way, none if the way leaves the sheet before. -/
def walk (s : Sheet) (dr dc : Int) : Nat → Int → Int → Option Position
  | 0, _, _ => none
  | fuel + 1, row, col =>
    let p : Position := ⟨(row + dr).toNat, (col + dc).toNat⟩
    if row + dr < 0 || col + dc < 0 || !s.inBounds p then none
    else if s.isSkipped dr dc p then s.walk dr dc fuel (row + dr) (col + dc)
    else some p

/-- One step over rows and columns that are not shown; at the edge it stays. A way inside the bounds is never
longer than both of them together. -/
def stepVisible (s : Sheet) (start : Position) (dr dc : Int) : Position :=
  (s.walk dr dc (s.rows.count + s.cols.count + 1) (signed start.row) (signed start.col)).getD start

def clampPosition (s : Sheet) (p : Position) : Position := Selection.clamp s.rows.count s.cols.count p

end Sheet

namespace Session

variable {γ σ : Type}

def select (p : Position) (s : Session γ σ) : Session γ σ := { s with selection := .single p }

def extendTo (p : Position) (s : Session γ σ) : Session γ σ := { s with selection := s.selection.extendTo p }

def selectRange (r : Range) (s : Session γ σ) : Session γ σ :=
  { s with selection := ⟨⟨r.startRow, r.startCol⟩, ⟨r.endRow, r.endCol⟩⟩ }

def moveSelection (dr dc : Int) (s : Session γ σ) : Session γ σ := s.select (s.sheet.stepVisible s.selection.active dr dc)

def extendSelection (dr dc : Int) (s : Session γ σ) : Session γ σ := s.extendTo (s.sheet.stepVisible s.selection.cursor dr dc)

def confirmAndMove (dr dc : Int) (s : Session γ σ) : Session γ σ := s.finishEdit.moveSelection dr dc

def selectCell (p : Position) (s : Session γ σ) : Session γ σ :=
  let s := s.finishEdit
  s.select (s.sheet.clampPosition p)

def selectAll (s : Session γ σ) : Session γ σ := { s with selection := .all s.sheet.rows.count s.sheet.cols.count }

def mouseDown (p : Position) (shift : Bool) (s : Session γ σ) : Session γ σ :=
  let s := s.finishEdit
  let p := s.sheet.clampPosition p
  { (if shift then s.extendTo p else s.select p) with gesture := .selecting }

def fillHandleDown (s : Session γ σ) : Session γ σ :=
  let s := s.finishEdit
  { s.select s.selection.active with gesture := .filling s.selection.active s.selection.active }

def resizeHandleDown (axis : Axis) (index : Nat) (s : Session γ σ) : Session γ σ :=
  { s.finishEdit with gesture := .resizing axis index }

def mouseEnter (p : Position) (s : Session γ σ) : Session γ σ :=
  let p := s.sheet.clampPosition p
  match s.gesture with
  | .filling origin _ => { s with gesture := .filling origin p }
  | .selecting => s.extendTo p
  | _ => s

def resizeDrag (size : Nat) (s : Session γ σ) : Session γ σ :=
  match s.gesture with
  | .resizing axis index => touch (s.modifySheet (·.setSize axis index size))
  | _ => s

def mouseUp (s : Session γ σ) : Session γ σ :=
  let released := { s with gesture := .idle }
  match s.gesture with
  | .filling origin target =>
    let (filled, sheet) := s.sheet.autofill origin target
    if filled then commit { released.modifySheet fun _ => sheet with selection := ⟨origin, target⟩ } else released
  | _ => released

end Session

end Spreadsheet
