/-! What a binary floating-point number is exactly: a sign and a natural number times a power of two.
Rounding to decimal places and ordering are computed on that, never on the machine's own decimal text. -/
namespace Spreadsheet.Number

/-- The finite number `±mantissa * 2 ^ exponent`. -/
structure Binary where
  negative : Bool
  mantissa : Nat
  exponent : Int
  deriving DecidableEq, Repr

/-- The leading bit of a significand, which the bits of most numbers leave out. -/
def hiddenBit : Nat := 0x10000000000000

def signBit : Nat := 0x8000000000000000

/-- Reads the fields of the sixty-four bits: one of sign, eleven of exponent and the fraction. -/
def Binary.ofFloat (x : Float) : Binary :=
  let bits := x.toBits.toNat
  let field := bits / hiddenBit % 2048
  let fraction := bits % hiddenBit
  ⟨signBit ≤ bits, if field = 0 then fraction else fraction + hiddenBit, (max field 1 : Nat) - 1075⟩

namespace Binary

def ratio (b : Binary) : Nat × Nat :=
  if 0 ≤ b.exponent then (b.mantissa * Nat.pow 2 b.exponent.toNat, 1) else (b.mantissa, Nat.pow 2 (-b.exponent).toNat)

def isIntegral (b : Binary) : Bool := b.ratio.1 % b.ratio.2 == 0

def whole (b : Binary) : Nat := b.ratio.1 / b.ratio.2

def floor (b : Binary) : Int :=
  let (top, bottom) := b.ratio
  (if b.negative then -(top : Int) else top).fdiv bottom

end Binary

/-- The integer nearest to a quotient; a half goes to the even neighbour. -/
def roundRatio (top bottom : Nat) : Nat :=
  let quotient := top / bottom
  let twice := top % bottom * 2
  if twice < bottom || (twice == bottom && quotient % 2 == 0) then quotient else quotient + 1

/-- The magnitude in units of the last of the given decimal places. -/
def Binary.scaled (places : Nat) (b : Binary) : Nat := roundRatio (b.ratio.1 * Nat.pow 10 places) b.ratio.2

/-- Places numbers in order: the two zeros are equal, and what is not a number comes last, equal to itself. -/
def rank (x : Float) : Int :=
  let bits := x.toBits.toNat
  let magnitude := bits % signBit
  if 0x7FF0000000000000 < magnitude then (signBit : Int) else if signBit ≤ bits then -(magnitude : Int) else magnitude

end Spreadsheet.Number
