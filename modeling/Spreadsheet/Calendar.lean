import Spreadsheet.Text.Numeral

/-! Days of the Gregorian calendar, extended in both directions. Day zero of the serial count is
30 December 1899. -/
namespace Spreadsheet

open Text

structure Date where
  year : Int
  month : Nat
  day : Nat
  deriving DecidableEq, Repr

namespace Date

/-- Days from 1 March of year zero to 30 December 1899. -/
def epoch : Int := 693899

/-- Years are counted from March here, so that a leap day ends its year. -/
def ofSerial (serial : Int) : Date :=
  let days := serial + epoch
  let era := days.fdiv 146097
  let dayOfEra := (days.fmod 146097).toNat
  let yearOfEra := (dayOfEra - dayOfEra / 1460 + dayOfEra / 36524 - dayOfEra / 146096) / 365
  let dayOfYear := dayOfEra - (365 * yearOfEra + yearOfEra / 4 - yearOfEra / 100)
  let shifted := (5 * dayOfYear + 2) / 153
  let month := if shifted < 10 then shifted + 3 else shifted - 9
  ⟨yearOfEra + era * 400 + (if month ≤ 2 then 1 else 0), month, dayOfYear - (153 * shifted + 2) / 5 + 1⟩

def pad (width n : Nat) : List Char := (numeral n).leftpad width '0'

/-- Years outside 0 to 9999 carry a sign. -/
def yearText (year : Int) : List Char :=
  if year < 0 then '-' :: pad 4 year.natAbs
  else if 9999 < year then '+' :: pad 4 year.natAbs
  else pad 4 year.natAbs

def text (d : Date) : List Char := yearText d.year ++ '-' :: pad 2 d.month ++ '-' :: pad 2 d.day

end Date

end Spreadsheet
