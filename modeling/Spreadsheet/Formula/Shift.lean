import Spreadsheet.Cell
import Spreadsheet.Formula.Token

/-! Moving the references of a formula by rows and columns, as filling does. Quoted text is left alone, and so
is a reference that is part of a longer word, that is followed by an opening parenthesis, or that would leave
the grid. -/
namespace Spreadsheet.Formula

open Text

namespace Shift

/-- Is the character on this side of a reference part of the same word? -/
def joins (side : Option Char) : Bool := side.any Token.isWordChar

/-- The text with its references moved; `before` is the character in front of it, none at the start and after
quoted text. -/
def chars (dr dc : Int) (before : Option Char) (cs : List Char) : List Char :=
  match cs with
  | [] => []
  | c :: rest =>
    if c = '"' then
      match _h : Quoted.read rest with
      | some (body, after) => Quoted.write body ++ chars dr dc none after
      | none => c :: rest
    else match _h : Reference.scan (c :: rest) with
      | some (r, after) =>
        let kept := joins before || joins after.head? || after.head? == some '('
        let moved := if kept then r else (r.shifted? dr dc).getD r
        moved.chars ++ chars dr dc r.chars.getLast? after
      | none => c :: chars dr dc (some c) rest
termination_by cs.length
decreasing_by
  · exact Nat.lt_succ_of_lt (Quoted.length_of_read _h)
  · exact Reference.length_of_scan _h
  · simp

end Shift

/-- The formula with its references moved; other texts are not changed. -/
def shift (dr dc : Int) (formula : String) : String :=
  if isFormula formula && (dr ≠ 0 || dc ≠ 0) then String.ofList (Shift.chars dr dc none formula.toList) else formula

end Spreadsheet.Formula
