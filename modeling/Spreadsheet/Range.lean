import Spreadsheet.Position

/-! Rectangles of cells, both corners included, and their names. Stored ranges are kept as they were
written; `spanning` puts the smaller coordinates first. -/
namespace Spreadsheet

open Text

structure Range where
  startRow : Nat
  startCol : Nat
  endRow : Nat
  endCol : Nat
  deriving DecidableEq, Repr, Inhabited

namespace Range

def spanning (r₁ c₁ r₂ c₂ : Nat) : Range := ⟨min r₁ r₂, min c₁ c₂, max r₁ r₂, max c₁ c₂⟩

def between (a b : Position) : Range := spanning a.row a.col b.row b.col

def single (p : Position) : Range := ⟨p.row, p.col, p.row, p.col⟩

def contains (r : Range) (p : Position) : Bool :=
  r.startRow ≤ p.row && p.row ≤ r.endRow && r.startCol ≤ p.col && p.col ≤ r.endCol

def intersects (r s : Range) : Bool :=
  r.startRow ≤ s.endRow && s.startRow ≤ r.endRow && r.startCol ≤ s.endCol && s.startCol ≤ r.endCol

def rows (r : Range) : Nat := r.endRow - r.startRow + 1

def cols (r : Range) : Nat := r.endCol - r.startCol + 1

/-- How many cells there are; a word has to be able to count them. -/
def cellCount (r : Range) : Nat := r.rows * r.cols

def isSingle (r : Range) : Bool := r.startRow == r.endRow && r.startCol == r.endCol

def origin (r : Range) : Position := ⟨r.startRow, r.startCol⟩

/-- The indices from the first to the last, both included. -/
def span (first last : Nat) : List Nat := List.range' first (last + 1 - first)

def cells (r : Range) : List Position :=
  (span r.startRow r.endRow).flatMap fun row => (span r.startCol r.endCol).map fun col => ⟨row, col⟩

/-- Reads `A1` or `A1:C3`, the corners in any order. -/
def parse (s : String) : Except AddressError Range :=
  let text := (trim s).toList
  let first := String.ofList (text.takeWhile (· ≠ ':'))
  match text.dropWhile (· ≠ ':') with
  | [] => (Position.parse first).map single
  | _ :: second => do
    let a ← Position.parse first
    let b ← Position.parse (String.ofList second)
    return between a b

end Range

end Spreadsheet
