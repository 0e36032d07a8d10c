import Spreadsheet.Csv.Import
import Spreadsheet.Sheet.Filling
import Spreadsheet.Sheet.Filtering
import Spreadsheet.Sheet.Pasting
import Spreadsheet.Sheet.Sorting
import Spreadsheet.Sheet.Styling

/-! Every way of changing a sheet, as data. The sheets that can come up are those reached by lists of edits. -/
namespace Spreadsheet.Sheet

inductive Edit
  | setValue (p : Position) (value : String)
  | setCell (p : Position) (cell : Cell)
  | updateCell (p : Position) (change : Cell → Cell)
  | ensureSize (rows cols : Nat)
  | clearRange (r : Range)
  | setSize (axis : Axis) (i size : Nat)
  | toggleStyle (r : Range) (style : TextStyle)
  | setFormat (r : Range) (format : NumberFormat)
  | setAlignment (r : Range) (align : Alignment)
  | setBackground (r : Range) (color : Option String)
  | setTextColor (r : Range) (color : Option String)
  | setFontSize (r : Range) (size : Option Nat)
  | setBorders (r : Range) (borders : Borders)
  | clearFormatting (r : Range)
  | insertLine (axis : Axis) (place : Nat)
  | deleteLine (axis : Axis) (pivot : Nat)
  | hide (axis : Axis) (first final : Nat)
  | unhide (axis : Axis) (first final : Nat)
  | freeze (axis : Axis) (n : Nat)
  | merge (r : Range)
  | unmerge (p : Position)
  | setFilter (col : Nat) (allowed : Keys String)
  | clearFilter (col : Nat)
  | clearAllFilters
  | setFilterEnabled (enabled : Bool)
  | sort (col : Nat) (direction : SortDirection)
  | autofill (origin target : Position)
  | pasteText (anchor : Position) (text : String) (policy : GrowPolicy)
  | importCsv (content : String)

def Edit.apply (e : Edit) (s : Sheet) : Sheet :=
  match e with
  | setValue p value => s.setValue p value
  | setCell p cell => s.setCell p cell
  | updateCell p change => s.updateCell p change
  | ensureSize rows cols => s.ensureSize rows cols
  | clearRange r => s.clearRange r
  | setSize axis i size => s.setSize axis i size
  | toggleStyle r style => s.toggleStyle r style
  | setFormat r format => s.setFormat r format
  | setAlignment r align => s.setAlignment r align
  | setBackground r color => s.setBackground r color
  | setTextColor r color => s.setTextColor r color
  | setFontSize r size => s.setFontSize r size
  | setBorders r borders => s.setBorders r borders
  | clearFormatting r => s.clearFormatting r
  | insertLine axis place => s.insertLine axis place
  | deleteLine axis pivot => s.deleteLine axis pivot
  | hide axis first final => s.hide axis first final
  | unhide axis first final => s.unhide axis first final
  | freeze axis n => s.freeze axis n
  | merge r => (s.merge r).2
  | unmerge p => (s.unmerge p).2
  | setFilter col allowed => s.setFilter col allowed
  | clearFilter col => s.clearFilter col
  | clearAllFilters => s.clearAllFilters
  | setFilterEnabled enabled => s.setFilterEnabled enabled
  | sort col direction => s.sortByColumn col direction
  | autofill origin target => (s.autofill origin target).2
  | pasteText anchor text policy => (s.pasteText anchor text policy).2
  | importCsv content => (s.importCsv content).2

def applyAll (edits : List Edit) (s : Sheet) : Sheet := edits.foldl (fun s e => e.apply s) s

end Spreadsheet.Sheet
