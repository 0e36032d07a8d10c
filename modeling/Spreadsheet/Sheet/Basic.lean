import Spreadsheet.Format
import Spreadsheet.Formula.Evaluation
import Spreadsheet.Grid
import Spreadsheet.Sheet.Lines

/-! Sheets: a grid of cells, its rows and columns, the merged ranges and the filters. The bounds say what is
shown and walked through; the grid may hold cells outside them. -/
namespace Spreadsheet

structure Sheet where
  name : String
  grid : Grid := {}
  rows : Lines
  cols : Lines
  merges : List Range := []
  filterEnabled : Bool := false
  /-- The raw values that each filtered column lets through. -/
  filters : Table Nat (Keys String) := ∅
  deriving DecidableEq

namespace Sheet

def defaultName : String := "Sheet1"

def defaultRows : Nat := 50

def defaultCols : Nat := 26

def ofSize (name : String) (rows cols : Nat) : Sheet := { name, rows := .ofCount rows, cols := .ofCount cols }

def default : Sheet := ofSize defaultName defaultRows defaultCols

instance : Inhabited Sheet := ⟨default⟩

def lines (s : Sheet) : Axis → Lines
  | .row => s.rows
  | .col => s.cols

def mapLines (axis : Axis) (f : Lines → Lines) (s : Sheet) : Sheet :=
  match axis with
  | .row => { s with rows := f s.rows }
  | .col => { s with cols := f s.cols }

def mapGrid (f : Grid → Grid) (s : Sheet) : Sheet := { s with grid := f s.grid }

def bounds (s : Sheet) : Range := ⟨0, 0, s.rows.last, s.cols.last⟩

def inBounds (s : Sheet) (p : Position) : Bool := p.row < s.rows.count && p.col < s.cols.count

def raw (s : Sheet) (p : Position) : String := s.grid.raw p

def cell (s : Sheet) (p : Position) : Cell := s.grid.get p

def setValue (p : Position) (value : String) (s : Sheet) : Sheet := s.mapGrid (·.setValue p value)

def setCell (p : Position) (c : Cell) (s : Sheet) : Sheet := s.mapGrid (·.set p c)

def updateCell (p : Position) (f : Cell → Cell) (s : Sheet) : Sheet := s.mapGrid (·.update p f)

def evaluate (s : Sheet) (p : Position) : Formula.Value := Formula.evaluateCell s.raw p

def display (s : Sheet) (p : Position) : String :=
  match s.grid.get? p with
  | none => ""
  | some c => if c.isFormula then c.format.showValue (s.evaluate p) else c.format.showLiteral c.value

def ensureSize (rows cols : Nat) (s : Sheet) : Sheet := (s.mapLines .row (·.grow rows)).mapLines .col (·.grow cols)

/-- Empties the values of a range; formatting stays. -/
def clearRange (r : Range) (s : Sheet) : Sheet := r.cells.foldl (fun s p => s.setValue p "") s

end Sheet

end Spreadsheet
