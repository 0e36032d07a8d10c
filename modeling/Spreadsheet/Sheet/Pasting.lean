import Spreadsheet.Sheet.Basic
import Spreadsheet.Text.Split

/-! Grids as plain text: tabs between fields, line breaks between rows. Copying gives what is shown; pasting
enters the fields as raw values from an anchor on. -/
namespace Spreadsheet

open Text

/-- What happens to fields beyond the bounds of a sheet: the sheet grows, or they are dropped. -/
inductive GrowPolicy
  | grow
  | clamp
  deriving DecidableEq, Repr, Inhabited

/-- The rows of a text. A line break at the end starts no row, and breaks may be preceded by a return. -/
def gridOfChars (cs : List Char) : List (List String) :=
  let text := dropLast '\r' (dropLast '\n' cs)
  if text.isEmpty then []
  else (splitOn '\n' text).map fun line => (splitOn '\t' (dropLast '\r' line)).map String.ofList

def gridOfText (text : String) : List (List String) := gridOfChars text.toList

namespace Sheet

def copyChars (s : Sheet) (r : Range) : List Char :=
  join '\n' ((Range.span r.startRow r.endRow).map fun row =>
    join '\t' ((Range.span r.startCol r.endCol).map fun col => (s.display ⟨row, col⟩).toList))

def copyText (s : Sheet) (r : Range) : String := String.ofList (s.copyChars r)

def placed (anchor : Position) (rows : List (List String)) : List (Position × String) :=
  rows.zipIdx.flatMap fun (fields, i) => fields.zipIdx.map fun (field, j) => (⟨anchor.row + i, anchor.col + j⟩, field)

def width (rows : List (List String)) : Nat := (rows.map List.length).foldl max 0

/-- Enters rows of fields from the anchor on and gives the rectangle written, none if there is none. A sheet that grows
must be able to count its lines up to the last field. -/
def pasteRows (anchor : Position) (rows : List (List String)) (policy : GrowPolicy) (s : Sheet) : Option Range × Sheet :=
  let sized := match policy with
    | .grow => s.ensureSize (anchor.row + rows.length) (anchor.col + width rows)
    | .clamp => s
  if rows.isEmpty || !sized.inBounds anchor then (none, s)
  else
    let written := (placed anchor rows).filter fun (p, _) => sized.inBounds p
    let corner := written.foldl (fun last (p, _) => (⟨max last.row p.row, max last.col p.col⟩ : Position)) anchor
    (some (Range.between anchor corner), written.foldl (fun t (p, field) => t.setValue p field) sized)

def pasteText (anchor : Position) (text : String) (policy : GrowPolicy) (s : Sheet) : Option Range × Sheet :=
  s.pasteRows anchor (gridOfText text) policy

end Sheet

end Spreadsheet
