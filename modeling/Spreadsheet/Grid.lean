import Spreadsheet.Cell
import Spreadsheet.Position
import Spreadsheet.Table

/-! The cells of a sheet, sparse: what is not stored is the blank cell. Writing a blank cell removes what
was stored, so grids reached by writing hold no blank cell and are equal when they read the same. -/
namespace Spreadsheet

structure Grid where
  cells : Table Position Cell := ∅
  deriving DecidableEq, Inhabited

namespace Grid

def size (g : Grid) : Nat := g.cells.size

def isEmpty (g : Grid) : Bool := g.cells.isEmpty

def get? (g : Grid) (p : Position) : Option Cell := g.cells.get? p

def get (g : Grid) (p : Position) : Cell := (g.get? p).getD .blank

def raw (g : Grid) (p : Position) : String := ((g.get? p).map Cell.value).getD ""

def set (g : Grid) (p : Position) (c : Cell) : Grid := if c.isBlank then ⟨g.cells.erase p⟩ else ⟨g.cells.insert p c⟩

def update (g : Grid) (p : Position) (f : Cell → Cell) : Grid := g.set p (f (g.get p))

def setValue (g : Grid) (p : Position) (value : String) : Grid := g.update p fun c => c.withValue value

def delete (g : Grid) (p : Position) : Grid := ⟨g.cells.erase p⟩

/-- Moves every cell to the row and column that the two maps give; a cell without a place is dropped. -/
def remap (g : Grid) (row col : Nat → Option Nat) : Grid :=
  ⟨g.cells.rekey fun p => do return ⟨← row p.row, ← col p.col⟩⟩

def extent (g : Grid) : Option Position :=
  g.cells.keys.foldl (fun acc p => some (acc.elim p fun e => ⟨max e.row p.row, max e.col p.col⟩)) none

end Grid

end Spreadsheet
