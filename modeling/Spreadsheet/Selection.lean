import Spreadsheet.Range

/-! A selection is an anchor, where editing happens, and a cursor, the end that moves; it covers the
rectangle between them. -/
namespace Spreadsheet

structure Selection where
  anchor : Position := ⟨0, 0⟩
  cursor : Position := ⟨0, 0⟩
  deriving DecidableEq, Repr, Inhabited

namespace Selection

def single (p : Position) : Selection := ⟨p, p⟩

def active (s : Selection) : Position := s.anchor

def range (s : Selection) : Range := Range.between s.anchor s.cursor

def contains (s : Selection) (p : Position) : Bool := s.range.contains p

def isSingleCell (s : Selection) : Bool := s.anchor == s.cursor

def extendTo (s : Selection) (p : Position) : Selection := { s with cursor := p }

def all (rows cols : Nat) : Selection := ⟨⟨0, 0⟩, ⟨rows - 1, cols - 1⟩⟩

def clamp (rows cols : Nat) (p : Position) : Position := ⟨min p.row (rows - 1), min p.col (cols - 1)⟩

def clampTo (s : Selection) (rows cols : Nat) : Selection := ⟨clamp rows cols s.anchor, clamp rows cols s.cursor⟩

end Selection

end Spreadsheet
