import Spreadsheet.Number.Display
import Spreadsheet.Number.Literal

/-! The values of cells: nothing, a number, a text, or a fault, which is shown in place of a value. -/
namespace Spreadsheet.Formula

inductive Fault
  | parse
  | divZero
  | circular
  | ref
  | value
  | name
  | num
  deriving DecidableEq, Repr

def Fault.text : Fault → String
  | parse => "#ERR"
  | divZero => "#DIV/0!"
  | circular => "#CIRC"
  | ref => "#REF!"
  | value => "#VALUE!"
  | name => "#NAME?"
  | num => "#NUM!"

inductive Value
  | empty
  | number (x : Float)
  | text (s : String)
  | fault (f : Fault)
  deriving Inhabited

namespace Value

def ofLiteral (raw : String) : Value :=
  if raw = "" then empty
  else match Number.parse raw with
    | some x => number x
    | none => text raw

def isFault : Value → Bool
  | fault _ => true
  | _ => false

def isNumber : Value → Bool
  | number _ => true
  | _ => false

/-- Nothing counts as zero, and a text counts if it reads as a number. -/
def toNumber : Value → Except Fault Float
  | empty => .ok 0
  | number x => .ok x
  | text s => match Number.parse s with
    | some x => .ok x
    | none => .error .value
  | fault f => .error f

def toText : Value → Except Fault String
  | empty => .ok ""
  | number x => .ok (Number.general x)
  | text s => .ok s
  | fault f => .error f

def ofNumber : Except Fault Float → Value
  | .ok x => number x
  | .error f => fault f

/-- A number that is not finite is a fault. -/
def finish : Value → Value
  | number x => if x.isFinite then number x else fault .num
  | v => v

end Value

end Spreadsheet.Formula
