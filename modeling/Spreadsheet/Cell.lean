/-! Cells: the raw text that was entered and the formatting it is shown with. A text that starts with an
equals sign is a formula. The empty cell without formatting is the default, and a grid never stores it. -/
namespace Spreadsheet

inductive NumberFormat
  | plain
  | number
  | currency
  | percent
  | date
  deriving DecidableEq, Repr, Inhabited

inductive Alignment
  | left
  | center
  | right
  deriving DecidableEq, Repr, Inhabited

structure Borders where
  top : Bool := false
  bottom : Bool := false
  left : Bool := false
  right : Bool := false
  deriving DecidableEq, Repr, Inhabited

structure Cell where
  value : String := ""
  format : NumberFormat := .plain
  bold : Bool := false
  italic : Bool := false
  underline : Bool := false
  strikethrough : Bool := false
  background : Option String := none
  textColor : Option String := none
  align : Alignment := .left
  fontSize : Option Nat := none
  borders : Borders := {}
  deriving DecidableEq, Repr

def isFormula (raw : String) : Bool := raw.toList.head? == some '='

namespace Cell

def blank : Cell := {}

instance : Inhabited Cell := ⟨blank⟩

def isFormula (c : Cell) : Bool := Spreadsheet.isFormula c.value

def isBlank (c : Cell) : Bool := c == blank

def withValue (c : Cell) (value : String) : Cell := { c with value }

def styleOnly (c : Cell) : Cell := c.withValue ""

def unformatted (c : Cell) : Cell := { value := c.value }

end Cell

inductive TextStyle
  | bold
  | italic
  | underline
  | strikethrough
  deriving DecidableEq, Repr

namespace TextStyle

def get : TextStyle → Cell → Bool
  | bold, c => c.bold
  | italic, c => c.italic
  | underline, c => c.underline
  | strikethrough, c => c.strikethrough

def set (on : Bool) : TextStyle → Cell → Cell
  | bold, c => { c with bold := on }
  | italic, c => { c with italic := on }
  | underline, c => { c with underline := on }
  | strikethrough, c => { c with strikethrough := on }

end TextStyle

end Spreadsheet
