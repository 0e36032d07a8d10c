import Spreadsheet.Calendar
import Spreadsheet.Cell
import Spreadsheet.Formula.Value

/-! What a cell shows: numbers in the cell's format, other values as they are. Plain literals are shown as
they were entered. -/
namespace Spreadsheet

open Number

/-- Serial days further from day zero than this are no dates. -/
def Date.maxSerial : Float := 2958465

/-- The date of a serial day; parts of a day do not count. -/
def Date.serialText (serial : Float) : Option String :=
  if serial.isFinite && serial.abs ≤ Date.maxSerial then
    some (String.ofList (Date.ofSerial (Binary.ofFloat serial).floor).text)
  else none

namespace NumberFormat

def render (format : NumberFormat) (x : Float) : String :=
  if x.isFinite then
    let magnitude := String.ofList (fixedGrouped (.ofFloat x))
    match format with
    | plain => general x
    | number => if x < 0 then "-" ++ magnitude else magnitude
    | currency => if x < 0 then "-$" ++ magnitude else "$" ++ magnitude
    | percent => general ((x * 100 * 1e10).round / 1e10) ++ "%"
    | date => (Date.serialText x).getD (general x)
  else general x

def showLiteral (format : NumberFormat) (raw : String) : String :=
  if format = plain then raw
  else match Number.parse raw with
    | some x => format.render x
    | none => raw

def showValue (format : NumberFormat) : Formula.Value → String
  | .empty => ""
  | .number x => format.render x
  | .text s => s
  | .fault f => f.text

end NumberFormat

end Spreadsheet
