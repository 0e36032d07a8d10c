import Spreadsheet.Csv.Records
import Spreadsheet.Sheet.Basic
import Spreadsheet.Text.Quoted
import Spreadsheet.Text.Split

/-! Writing a sheet as comma-separated text: what every cell in bounds shows, quoted where a separator, a quote
or a line break asks for it. -/
namespace Spreadsheet

open Text

namespace Csv

def needsQuotes (field : List Char) : Bool := field.any fun c => c = '"' || endsField c

def writeField (field : List Char) : List Char := if needsQuotes field then Quoted.write field else field

/-- A record of one empty field is an empty line. -/
def writeRecord (record : List (List Char)) : List Char := join ',' (record.map writeField)

def reservedInNames : List Char := ['/', '\\', ':', '*', '?', '"', '<', '>', '|']

def fileName (title : String) : String :=
  let stem := (trimChars title.toList).map fun c => if c ∈ reservedInNames then '_' else c
  if stem.isEmpty then "sheet.csv" else String.ofList stem ++ ".csv"

end Csv

namespace Sheet

def displayedRow (s : Sheet) (row : Nat) : List (List Char) :=
  (List.range s.cols.count).map fun col => (s.display ⟨row, col⟩).toList

def toCsv (s : Sheet) : String :=
  String.ofList (join '\n' ((List.range s.rows.count).map fun row => Csv.writeRecord (s.displayedRow row)))

end Sheet

end Spreadsheet
