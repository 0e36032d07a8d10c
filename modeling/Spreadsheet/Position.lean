import Spreadsheet.Text.Blank
import Spreadsheet.Text.Numeral

/-! Cell positions and their names. Rows and columns count from zero; a name is the column in letters, counted
in base twenty-six without a zero, followed by the row number counted from one, so `B7` is row 6, column 1. -/
namespace Spreadsheet

open Text

structure Position where
  row : Nat
  col : Nat
  deriving DecidableEq, Repr, Inhabited

namespace Position

/-- Positions are ordered by row, and in a row by column. -/
instance : Ord Position := ⟨fun p q => (compare p.row q.row).then (compare p.col q.col)⟩

instance : Std.TransOrd Position := inferInstanceAs (Std.TransCmp (compareLex (compareOn row) (compareOn col)))

theorem compare_eq (p q : Position) : compare p q = (compare p.row q.row).then (compare p.col q.col) := rfl

instance : Std.LawfulEqOrd Position where
  compare_self {p} := by simp
  eq_of_compare {p q} equal := by
    rw [compare_eq, Ordering.then_eq_eq, Nat.compare_eq_eq, Nat.compare_eq_eq] at equal
    cases p; cases q; simp_all

end Position

inductive AddressError
  | empty
  | badCell (text : String)
  | zeroRow (text : String)
  deriving DecidableEq, Repr

def AddressError.message : AddressError → String
  | empty => "empty range"
  | badCell text => "invalid cell reference '" ++ text ++ "'"
  | zeroRow text => "row 0 is not valid in '" ++ text ++ "'"

namespace Column

def letter (digit : Nat) : Char := Char.ofNat (65 + digit)

def letters (col : Nat) : List Char :=
  if col < 26 then [letter col] else letters (col / 26 - 1) ++ [letter (col % 26)]
termination_by col

/-- The place of a letter in the alphabet, from one, either case. -/
def letterValue (c : Char) : Nat := c.toUpper.toNat - 64

/-- One more letter of a column number counted from one; none once the number leaves the index range. -/
def step (acc : Option Nat) (c : Char) : Option Nat :=
  acc.bind fun n => if c.isAlpha && n * 26 + letterValue c < indexLimit then some (n * 26 + letterValue c) else none

def ofLetters? (cs : List Char) : Option Nat :=
  if cs.isEmpty then none else (cs.foldl step (some 0)).map (· - 1)

def name (col : Nat) : String := String.ofList (letters col)

def ofName? (s : String) : Option Nat := ofLetters? s.toList

end Column

namespace Position

def nameChars (p : Position) : List Char := Column.letters p.col ++ numeral (p.row + 1)

def name (p : Position) : String := String.ofList p.nameChars

/-- Reads a name; dollar signs are dropped and blanks at the ends do not count. -/
def parse (s : String) : Except AddressError Position :=
  let text := trim s
  if text.toList.isEmpty then .error .empty
  else
    let cleaned := text.toList.filter (· ≠ '$')
    let letters := cleaned.takeWhile fun c => !c.isDigit
    let digits := cleaned.dropWhile fun c => !c.isDigit
    match Column.ofLetters? letters, readNumeral indexLimit digits with
    | some _, some 0 => .error (.zeroRow text)
    | some col, some (row + 1) => .ok ⟨row, col⟩
    | _, _ => .error (.badCell text)

end Position

end Spreadsheet
