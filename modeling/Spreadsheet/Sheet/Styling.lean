import Spreadsheet.Sheet.Basic

/-! Formatting all cells of a range. Values are never touched. -/
namespace Spreadsheet.Sheet

def formatRange (r : Range) (f : Cell → Cell) (s : Sheet) : Sheet := r.cells.foldl (fun s p => s.updateCell p f) s

def allStyled (s : Sheet) (r : Range) (style : TextStyle) : Bool := r.cells.all fun p => (s.grid.get? p).any style.get

/-- Turns a style off where the whole range has it, and on otherwise. -/
def toggleStyle (r : Range) (style : TextStyle) (s : Sheet) : Sheet := s.formatRange r (style.set (!s.allStyled r style))

def setFormat (r : Range) (format : NumberFormat) : Sheet → Sheet := formatRange r fun c => { c with format }

def setAlignment (r : Range) (align : Alignment) : Sheet → Sheet := formatRange r fun c => { c with align }

def setBackground (r : Range) (background : Option String) : Sheet → Sheet := formatRange r fun c => { c with background }

def setTextColor (r : Range) (textColor : Option String) : Sheet → Sheet := formatRange r fun c => { c with textColor }

def setFontSize (r : Range) (fontSize : Option Nat) : Sheet → Sheet := formatRange r fun c => { c with fontSize }

def setBorders (r : Range) (borders : Borders) : Sheet → Sheet := formatRange r fun c => { c with borders }

def clearFormatting (r : Range) : Sheet → Sheet := formatRange r Cell.unformatted

end Spreadsheet.Sheet
