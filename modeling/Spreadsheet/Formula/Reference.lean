import Spreadsheet.Position

/-! Cell references as they are written in formulas: one to three column letters and a row number, either
part anchored by a dollar sign in front. -/
namespace Spreadsheet.Formula

open Text

structure Reference where
  colAnchored : Bool
  letters : List Char
  rowAnchored : Bool
  digits : List Char
  deriving DecidableEq, Repr

namespace Reference

def anchor (anchored : Bool) : List Char := if anchored then ['$'] else []

def chars (r : Reference) : List Char := anchor r.colAnchored ++ r.letters ++ anchor r.rowAnchored ++ r.digits

def scanAnchor : List Char → Bool × List Char
  | '$' :: cs => (true, cs)
  | cs => (false, cs)

/-- Reads a reference from the front of a text. A run of more than three letters is none. -/
def scan (cs : List Char) : Option (Reference × List Char) :=
  let (colAnchored, afterCol) := scanAnchor cs
  let letters := afterCol.takeWhile Char.isAlpha
  let (rowAnchored, afterRow) := scanAnchor (afterCol.dropWhile Char.isAlpha)
  let digits := afterRow.takeWhile Char.isDigit
  if letters.isEmpty || 3 < letters.length || digits.isEmpty then none
  else some (⟨colAnchored, letters, rowAnchored, digits⟩, afterRow.dropWhile Char.isDigit)

def row? (r : Reference) : Option Nat := (readNumeral indexLimit r.digits).filter (0 < ·)

def col? (r : Reference) : Option Nat := Column.ofLetters? r.letters

def position? (r : Reference) : Option Position := do return ⟨(← r.row?) - 1, ← r.col?⟩

/-- Moves an index by an offset; none if it would leave the index range. -/
def shiftIndex (anchored : Bool) (offset : Int) (index : Nat) : Option Nat :=
  if anchored then some index
  else
    let moved := (index : Int) + offset
    if 0 ≤ moved && moved < indexLimit then some moved.toNat else none

/-- The reference moved by rows and columns, anchored parts kept; none where there is no such cell. -/
def shifted? (dr dc : Int) (r : Reference) : Option Reference := do
  let col ← shiftIndex r.colAnchored dc (← r.col?)
  let row ← shiftIndex r.rowAnchored dr (← r.row?)
  if row = 0 then none else some ⟨r.colAnchored, Column.letters col, r.rowAnchored, numeral row⟩

theorem scanAnchor_chars (cs : List Char) : cs = anchor (scanAnchor cs).1 ++ (scanAnchor cs).2 := by
  unfold scanAnchor; split <;> simp [anchor]

theorem eq_chars_of_scan {cs rest : List Char} {r : Reference} (h : scan cs = some (r, rest)) : cs = r.chars ++ rest := by
  simp only [scan] at h
  split at h
  · cases h
  · cases h
    simp only [chars, List.append_assoc]
    rw [List.takeWhile_append_dropWhile, ← scanAnchor_chars, List.takeWhile_append_dropWhile, ← scanAnchor_chars]

theorem length_of_scan {cs rest : List Char} {r : Reference} (h : scan cs = some (r, rest)) : rest.length < cs.length := by
  have split := congrArg List.length (eq_chars_of_scan h)
  have some_letter : r.letters ≠ [] := by
    simp only [scan] at h
    split at h
    · cases h
    · cases h; simp_all
  have := List.length_pos_iff.2 some_letter
  simp only [chars, List.length_append] at split
  omega

end Reference

end Spreadsheet.Formula
