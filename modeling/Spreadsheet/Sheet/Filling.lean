import Spreadsheet.Formula.Shift
import Spreadsheet.Sheet.Basic

/-! Filling from one cell by dragging. Along a row or column, numbers count on by one, the references of
formulas move, and other texts are repeated; any other drag copies the whole cell over the rectangle. -/
namespace Spreadsheet

inductive FillKind
  | vertical
  | horizontal
  | diagonal
  deriving DecidableEq, Repr

namespace FillKind

def classify (origin target : Position) : Option FillKind :=
  if origin = target then none
  else if origin.col = target.col then some vertical
  else if origin.row = target.row then some horizontal
  else some diagonal

def seriesValue (kind : FillKind) (source : String) (offset : Int) : String :=
  if isFormula source then
    match kind with
    | vertical => Formula.shift offset 0 source
    | horizontal => Formula.shift 0 offset source
    | diagonal => source
  else match Number.parse source with
    | some x => Number.general (x + Float.ofInt offset)
    | none => source

end FillKind

namespace Sheet

def fillSteps (start target : Nat) : List (Int × Nat) :=
  if start ≤ target then (List.range' 1 (target - start)).map fun (k : Nat) => ((k : Int), start + k)
  else (List.range' 1 (start - target)).map fun (k : Nat) => (-(k : Int), start - k)

def fillAlong (origin : Position) (kind : FillKind) (steps : List (Int × Nat)) (place : Nat → Position) (s : Sheet) : Sheet :=
  steps.foldl (fun t (offset, i) => t.setValue (place i) (kind.seriesValue (s.raw origin) offset)) s

/-- The answer says whether anything was filled. -/
def autofill (origin target : Position) (s : Sheet) : Bool × Sheet :=
  match FillKind.classify origin target with
  | none => (false, s)
  | some .vertical => (true, s.fillAlong origin .vertical (fillSteps origin.row target.row) fun row => ⟨row, origin.col⟩)
  | some .horizontal => (true, s.fillAlong origin .horizontal (fillSteps origin.col target.col) fun col => ⟨origin.row, col⟩)
  | some .diagonal =>
    (true, ((Range.between origin target).cells.filter (· ≠ origin)).foldl (fun t p => t.setCell p (s.cell origin)) s)

end Sheet

end Spreadsheet
