import Spreadsheet.Csv.Records
import Spreadsheet.Sheet.Basic

/-! Entering comma-separated text into a sheet from its first cell on. Every record goes to the row of the line
it starts on, so empty lines between records become empty rows; bounds grow to fit. -/
namespace Spreadsheet

open Text

namespace Csv

/-- The line breaks outside quotes in a text; every quote opens or closes. -/
def unquotedBreaks (quoted : Bool) : List Char → Nat
  | [] => 0
  | c :: cs =>
    if c = '"' then unquotedBreaks (!quoted) cs
    else if c = '\n' && !quoted then unquotedBreaks quoted cs + 1
    else unquotedBreaks quoted cs

/-- Records with their rows. A record is never placed above the one before it, nor on its row. -/
def place (content : List Char) (next : Nat) : List Record → List (Nat × List String)
  | [] => []
  | r :: rs =>
    let row := max (unquotedBreaks false (content.take r.offset)) next
    (row, r.fields.map fun f => String.ofList (trimChars f)) :: place content (row + 1) rs

def placedRecords (content : List Char) : List (Nat × List String) := place content 0 (records content)

def height (rows : List (Nat × List String)) : Nat := (rows.getLast?.map fun (row, _) => row + 1).getD 0

def width (rows : List (Nat × List String)) : Nat := (rows.map fun (_, fields) => fields.length).foldl max 0

/-- Everything that is entered: the fields of each record, and an empty first cell in each row passed over. -/
def entries (next : Nat) : List (Nat × List String) → List (Position × String)
  | [] => []
  | (row, fields) :: rows =>
    (List.range' next (row - next)).map (fun blank => (⟨blank, 0⟩, "")) ++
      fields.zipIdx.map (fun (field, col) => (⟨row, col⟩, field)) ++ entries (row + 1) rows

end Csv

namespace Sheet

/-- Gives the range that was covered, none if there is no record. -/
def importCsv (content : String) (s : Sheet) : Option Range × Sheet :=
  let rows := Csv.placedRecords content.toList
  if rows.isEmpty then (none, s)
  else
    let height := Csv.height rows
    let width := Csv.width rows
    (some ⟨0, 0, height - 1, width - 1⟩,
      (Csv.entries 0 rows).foldl (fun t (p, field) => t.setValue p field) (s.ensureSize height width))

end Sheet

end Spreadsheet
