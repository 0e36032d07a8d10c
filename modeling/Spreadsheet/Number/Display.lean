import Spreadsheet.Number.Binary
import Spreadsheet.Text.Numeral

/-! Decimal texts of numbers. The general text shows integers without a point and rounds anything else to
ten places, trailing zeros cut; the fixed text has a set number of places and groups thousands by commas. -/
namespace Spreadsheet.Number

open Text

/-- Groups of three digits, counted from the right and parted by commas. -/
def groupThousands : List Char → List Char
  | [] => []
  | c :: cs => if cs.length % 3 == 0 && !cs.isEmpty then c :: ',' :: groupThousands cs else c :: groupThousands cs

def padded (width n : Nat) : List Char := (numeral n).leftpad width '0'

/-- The whole part and the digits after the point of a number counted in units of the last place. -/
def placesOf (places units : Nat) : List Char × List Char :=
  let unit := Nat.pow 10 places
  (numeral (units / unit), padded places (units % unit))

def trimZeros (cs : List Char) : List Char := (cs.reverse.dropWhile (· == '0')).reverse

def generalPlaces : Nat := 10

/-- Integers from this magnitude on are written like other numbers, digit by digit. -/
def generalLimit : Nat := 1000000000000000

def generalUnsigned (b : Binary) : List Char :=
  if b.isIntegral && b.whole < generalLimit then numeral b.whole
  else
    let (whole, fraction) := placesOf generalPlaces (b.scaled generalPlaces)
    let kept := trimZeros fraction
    if kept.isEmpty then whole else whole ++ '.' :: kept

/-- A number that rounds to zero has no sign. -/
def generalText (b : Binary) : List Char :=
  let unsigned := generalUnsigned b
  if b.negative && unsigned ≠ ['0'] then '-' :: unsigned else unsigned

/-- What is not a number and what is infinite have texts of their own. -/
def general (x : Float) : String :=
  if x.isNaN then "#NUM!" else if x.isInf then "#DIV/0!" else String.ofList (generalText (.ofFloat x))

def fixedPlaces : Nat := 2

def fixedGrouped (b : Binary) : List Char :=
  let (whole, fraction) := placesOf fixedPlaces (b.scaled fixedPlaces)
  groupThousands whole ++ '.' :: fraction

end Spreadsheet.Number
