import Spreadsheet.Json.Escape

/-! JSON trees as they are written: numbers and strings keep their text, so that a reader which skips a value
need not understand it. A tree has one compact text. -/
namespace Spreadsheet

inductive Json
  | null
  | bool (b : Bool)
  | number (text : List Char)
  | string (body : List Char)
  | array (items : List Json)
  | object (members : List (List Char × Json))
  deriving Inhabited

namespace Json

def quote (body : List Char) : List Char := '"' :: (body ++ ['"'])

def writeBool (b : Bool) : List Char := if b then ['t', 'r', 'u', 'e'] else ['f', 'a', 'l', 's', 'e']

mutual

def write : Json → List Char
  | null => ['n', 'u', 'l', 'l']
  | bool b => writeBool b
  | number text => text
  | string body => quote body
  | array [] => ['[', ']']
  | array (v :: vs) => '[' :: (write v ++ writeItems vs)
  | object [] => ['\x7b', '\x7d']
  | object ((k, v) :: ms) => '\x7b' :: (quote k ++ ':' :: (write v ++ writeMembers ms))

def writeItems : List Json → List Char
  | [] => [']']
  | v :: vs => ',' :: (write v ++ writeItems vs)

def writeMembers : List (List Char × Json) → List Char
  | [] => ['\x7d']
  | (k, v) :: ms => ',' :: (quote k ++ ':' :: (write v ++ writeMembers ms))

end

def ofNat (n : Nat) : Json := number (Text.numeral n)

def ofString (s : String) : Json := string (escape s.toList)

end Json

end Spreadsheet
