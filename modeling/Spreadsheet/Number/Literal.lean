import Spreadsheet.Text.Blank

/-! Decimal literals: a sign, digits with at most one point, and an exponent. A literal stands for the
nearest binary number, a half going to the even neighbour. -/
namespace Spreadsheet.Number

/-- The decimal number `±digits * 10 ^ exponent`. -/
structure Literal where
  negative : Bool
  digits : Nat
  exponent : Int
  deriving DecidableEq, Repr

namespace Literal

def readSign : List Char → Bool × List Char
  | '-' :: cs => (true, cs)
  | '+' :: cs => (false, cs)
  | cs => (false, cs)

def readExponent : List Char → Option Int
  | [] => some 0
  | e :: cs =>
    let (negative, digits) := readSign cs
    if (e == 'e' || e == 'E') && !digits.isEmpty && digits.all Char.isDigit then
      let n := (Nat.ofDigitChars 10 digits 0 : Int)
      some (if negative then -n else n)
    else none

def readFraction : List Char → List Char × List Char
  | '.' :: cs => (cs.takeWhile Char.isDigit, cs.dropWhile Char.isDigit)
  | cs => ([], cs)

def read (cs : List Char) : Option Literal := do
  let (negative, unsigned) := readSign cs
  let whole := unsigned.takeWhile Char.isDigit
  let (fraction, afterFraction) := readFraction (unsigned.dropWhile Char.isDigit)
  if whole.isEmpty && fraction.isEmpty then none
  let exponent ← readExponent afterFraction
  return ⟨negative, Nat.ofDigitChars 10 (whole ++ fraction) 0, exponent - fraction.length⟩

/-- A bound on the decimal digits of a positive number. -/
def digitBound (n : Nat) : Nat := n.log2 / 3 + 1

/-- Literals far outside the range of binary numbers are settled before any power of ten is computed. -/
def magnitude (l : Literal) : Float :=
  if l.digits = 0 || l.exponent + digitBound l.digits < -400 then 0
  else if 400 < l.exponent then 1 / 0
  else Float.ofScientific l.digits (l.exponent < 0) l.exponent.natAbs

def toFloat (l : Literal) : Float := if l.negative then -l.magnitude else l.magnitude

end Literal

/-- Reads a finite number; blanks at the ends do not count. -/
def parse (s : String) : Option Float :=
  ((Literal.read (Text.trimChars s.toList)).map Literal.toFloat).filter Float.isFinite

end Spreadsheet.Number
