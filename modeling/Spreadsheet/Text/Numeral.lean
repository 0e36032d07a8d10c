/-! Decimal numerals of natural numbers: the reader takes a run of ASCII digits, leading zeros allowed, and
refuses values that do not fit in the given limit; the writer gives the shortest numeral. -/
namespace Spreadsheet.Text

/-- Indices and counts are words of sixty-four bits. They are below this limit wherever they are read from text. -/
def indexLimit : Nat := 0x10000000000000000

/-- Widths, heights and font sizes are below this limit wherever they are read from text. -/
def sizeLimit : Nat := 0x100000000

def isDigits (cs : List Char) : Bool := !cs.isEmpty && cs.all Char.isDigit

def readNumeral (limit : Nat) (cs : List Char) : Option Nat :=
  if isDigits cs then
    let n := Nat.ofDigitChars 10 cs 0
    if n < limit then some n else none
  else none

def numeral (n : Nat) : List Char := Nat.toDigits 10 n

/-- A numeral that may carry one leading plus sign. -/
def readSignedNumeral (limit : Nat) : List Char → Option Nat
  | '+' :: cs => readNumeral limit cs
  | cs => readNumeral limit cs

theorem isDigits_numeral (n : Nat) : isDigits (numeral n) = true := by
  simp only [isDigits, numeral, Bool.and_eq_true, Bool.not_eq_true', List.isEmpty_eq_false_iff, List.all_eq_true]
  exact ⟨Nat.toDigits_ne_nil, fun _ member => Nat.isDigit_of_mem_toDigits (by decide) (by decide) member⟩

@[simp] theorem ofDigitChars_numeral (n : Nat) : Nat.ofDigitChars 10 (numeral n) 0 = n :=
  Nat.ofDigitChars_ten_toDigits

theorem readNumeral_numeral {limit n : Nat} (fits : n < limit) : readNumeral limit (numeral n) = some n := by
  simp [readNumeral, isDigits_numeral, fits]

end Spreadsheet.Text
