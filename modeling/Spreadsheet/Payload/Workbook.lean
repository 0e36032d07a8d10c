import Spreadsheet.Json.Reading
import Spreadsheet.Payload.Cell
import Spreadsheet.Text.Blank
import Spreadsheet.Text.Utf8
import Spreadsheet.Workbook

/-! The text of a document: its sheets in order, as one compact JSON record. Reading is strict; loading takes
the default workbook in place of a text that cannot be read. -/
namespace Spreadsheet

open Json Text

def indexedToJson {α : Type} (toJson : α → Json) (t : Table Nat α) : Json :=
  .object (t.entries.map fun (i, v) => (numeral i, toJson v))

def indicesToJson (s : Keys Nat) : Json := .array (s.toList.map ofNat)

def textsToJson (s : Keys String) : Json := .array (s.toList.map ofString)

def asIndices (j : Json) : Option (Keys Nat) := do
  let items ← j.asList
  return Keys.ofList (← items.mapM (asNat indexLimit))

def asTexts (j : Json) : Option (Keys String) := do
  let items ← j.asList
  return Keys.ofList (← items.mapM asString)

namespace Sheet

def toJson (s : Sheet) : Json :=
  .object (member "name" true (ofString s.name) ++
    member "cells" true s.grid.toJson ++
    member "numRows" true (ofNat s.rows.count) ++
    member "numCols" true (ofNat s.cols.count) ++
    member "colWidths" (!s.cols.sizes.isEmpty) (indexedToJson ofNat s.cols.sizes) ++
    member "rowHeights" (!s.rows.sizes.isEmpty) (indexedToJson ofNat s.rows.sizes) ++
    member "hiddenRows" (!s.rows.hidden.isEmpty) (indicesToJson s.rows.hidden) ++
    member "hiddenCols" (!s.cols.hidden.isEmpty) (indicesToJson s.cols.hidden) ++
    member "freezeRow" (s.rows.frozen ≠ 0) (ofNat s.rows.frozen) ++
    member "freezeCol" (s.cols.frozen ≠ 0) (ofNat s.cols.frozen) ++
    member "mergedCells" (!s.merges.isEmpty) (.array (s.merges.map Range.toJson)) ++
    member "filterEnabled" s.filterEnabled (.bool true) ++
    member "filterValues" (!s.filters.isEmpty) (indexedToJson textsToJson s.filters))

def fieldNames : List String :=
  ["name", "cells", "numRows", "numCols", "colWidths", "rowHeights", "hiddenRows", "hiddenCols", "freezeRow", "freezeCol",
    "mergedCells", "filterEnabled", "filterValues"]

/-- Bounds of zero are read as one. -/
def asBound (j : Json) : Option Nat := (j.asNat indexLimit).map (max · 1)

def asRanges (j : Json) : Option (List Range) := do (← j.asList).mapM Range.ofJson?

def ofJson? (j : Json) : Option Sheet := do
  let r ← j.asRecord fieldNames
  return {
    name := ← field r "name" defaultName asString
    grid := ← field r "cells" {} Grid.ofJson?
    rows := {
      count := ← field r "numRows" defaultRows asBound
      sizes := ← field r "rowHeights" ∅ (asIndexed (asNat sizeLimit))
      hidden := ← field r "hiddenRows" ∅ asIndices
      frozen := ← field r "freezeRow" 0 (asNat indexLimit) }
    cols := {
      count := ← field r "numCols" defaultCols asBound
      sizes := ← field r "colWidths" ∅ (asIndexed (asNat sizeLimit))
      hidden := ← field r "hiddenCols" ∅ asIndices
      frozen := ← field r "freezeCol" 0 (asNat indexLimit) }
    merges := ← field r "mergedCells" [] asRanges
    filterEnabled := ← field r "filterEnabled" false asBool
    filters := ← field r "filterValues" ∅ (asIndexed asTexts) }

end Sheet

namespace Workbook

def toJson (w : Workbook) : Json := .object (member "sheets" true (.array (w.sheets.map Sheet.toJson)))

def toPayload (w : Workbook) : String := String.ofList w.toJson.write

def asSheets (j : Json) : Option (List Sheet) := do (← j.asList).mapM Sheet.ofJson?

/-- Reads a document; one without sheets is the default workbook. -/
def parse (payload : String) : Option Workbook := do
  let r ← (← Json.read payload.toList).asRecord ["sheets"]
  return ofSheets (← required r "sheets" asSheets)

/-- Loads a document. A text that is absent, blank or malformed gives the default workbook. -/
def load (payload : Option String) : Workbook := (payload.bind parse).getD default

/-- Loads the content of a file, none if it cannot be read. -/
def loadFile (content : Option (List UInt8)) : Workbook := load ((content.bind Utf8.decode?).map String.ofList)

end Workbook

end Spreadsheet
