import Spreadsheet.Range

/-! Formula expressions: numbers, texts, references, ranges, calls, negation and six binary operators. -/
namespace Spreadsheet.Formula

inductive Op
  | add
  | sub
  | mul
  | div
  | pow
  | concat
  deriving DecidableEq, Repr

/-- Operators with a greater number bind their operands less tightly. -/
def Op.looseness : Op → Nat
  | pow => 1
  | mul => 2
  | div => 2
  | add => 3
  | sub => 3
  | concat => 4

inductive Expr
  | number (x : Float)
  | text (s : String)
  | ref (p : Position)
  | range (r : Range)
  | call (name : String) (args : List Expr)
  | neg (e : Expr)
  | binary (op : Op) (left right : Expr)
  deriving Inhabited

inductive FormulaError
  | missingEquals
  | empty
  | unexpectedCharacter (c : Char)
  | unterminatedString
  | invalidReference (word : String)
  | invalidNumber (text : String)
  | unexpectedToken (position : Nat)
  | unexpectedEnd
  | unknownName (name : String)
  | unclosedParenthesis
  | missingParenthesis
  | unclosedCall
  | missingCallParenthesis
  deriving DecidableEq, Repr

namespace FormulaError

def reason : FormulaError → String
  | missingEquals => "formula must start with ="
  | empty => "empty formula"
  | unexpectedCharacter c => "unexpected character: " ++ String.singleton c
  | unterminatedString => "unterminated string"
  | invalidReference word => "invalid reference: " ++ word
  | invalidNumber text => "invalid number: " ++ text
  | unexpectedToken position => "unexpected token at position " ++ String.ofList (Text.numeral position)
  | unexpectedEnd => "unexpected end of expression"
  | unknownName name => "unknown identifier: " ++ name
  | unclosedParenthesis => "expected closing parenthesis"
  | missingParenthesis => "missing closing parenthesis"
  | unclosedCall => "expected comma or closing parenthesis"
  | missingCallParenthesis => "missing closing parenthesis in function call"

def message (e : FormulaError) : String := "formula error: " ++ e.reason

end FormulaError

end Spreadsheet.Formula
