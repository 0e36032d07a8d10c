import Spreadsheet.Json.Tree

/-! Reading JSON trees. One value is read, blanks around it allowed and nothing else; every text that breaks
the grammar is refused. -/
namespace Spreadsheet.Json

def isSpace (c : Char) : Bool := c = ' ' || c = '\n' || c = '\r' || c = '\t'

def skip (cs : List Char) : List Char := cs.dropWhile isSpace

def digits (cs : List Char) : List Char × List Char := (cs.takeWhile Char.isDigit, cs.dropWhile Char.isDigit)

/-- The whole part of a number: a zero, or digits that start with another one. -/
def readWhole : List Char → Option (List Char × List Char)
  | '0' :: cs => if cs.head?.any Char.isDigit then none else some (['0'], cs)
  | cs => let (found, rest) := digits cs; if found.isEmpty then none else some (found, rest)

def readFraction : List Char → Option (List Char × List Char)
  | '.' :: cs => let (found, rest) := digits cs; if found.isEmpty then none else some ('.' :: found, rest)
  | cs => some ([], cs)

def readSign : List Char → List Char × List Char
  | '+' :: cs => (['+'], cs)
  | '-' :: cs => (['-'], cs)
  | cs => ([], cs)

def readExponent : List Char → Option (List Char × List Char)
  | [] => some ([], [])
  | e :: cs =>
    if e = 'e' || e = 'E' then
      let (sign, unsigned) := readSign cs
      let (found, rest) := digits unsigned
      if found.isEmpty then none else some (e :: sign ++ found, rest)
    else some ([], e :: cs)

def readMinus : List Char → List Char × List Char
  | '-' :: cs => (['-'], cs)
  | cs => ([], cs)

def readNumber (cs : List Char) : Option (Json × List Char) := do
  let (minus, unsigned) := readMinus cs
  let (whole, afterWhole) ← readWhole unsigned
  let (fraction, afterFraction) ← readFraction afterWhole
  let (exponent, rest) ← readExponent afterFraction
  return (number (minus ++ whole ++ fraction ++ exponent), rest)

def readKey (cs : List Char) : Option (List Char × List Char) :=
  match skip cs with
  | '"' :: cs => do
    let (body, rest) ← scanBody cs
    match skip rest with
    | ':' :: rest => return (body, rest)
    | _ => none
  | _ => none

mutual

def readValue : Nat → List Char → Option (Json × List Char)
  | 0, _ => none
  | fuel + 1, cs => match skip cs with
    | 'n' :: 'u' :: 'l' :: 'l' :: rest => some (null, rest)
    | 't' :: 'r' :: 'u' :: 'e' :: rest => some (bool true, rest)
    | 'f' :: 'a' :: 'l' :: 's' :: 'e' :: rest => some (bool false, rest)
    | '"' :: cs => (scanBody cs).map fun r => (string r.1, r.2)
    | '[' :: cs => match skip cs with
      | ']' :: rest => some (array [], rest)
      | cs => (readItems fuel cs).map fun r => (array r.1, r.2)
    | '\x7b' :: cs => match skip cs with
      | '\x7d' :: rest => some (object [], rest)
      | cs => (readMembers fuel cs).map fun r => (object r.1, r.2)
    | cs => readNumber cs

def readItems : Nat → List Char → Option (List Json × List Char)
  | 0, _ => none
  | fuel + 1, cs => do
    let (v, rest) ← readValue fuel cs
    match skip rest with
    | ']' :: rest => return ([v], rest)
    | ',' :: rest => (readItems fuel rest).map fun r => (v :: r.1, r.2)
    | _ => none

def readMembers : Nat → List Char → Option (List (List Char × Json) × List Char)
  | 0, _ => none
  | fuel + 1, cs => do
    let (k, afterKey) ← readKey cs
    let (v, rest) ← readValue fuel afterKey
    match skip rest with
    | '\x7d' :: rest => return ([(k, v)], rest)
    | ',' :: rest => (readMembers fuel rest).map fun r => ((k, v) :: r.1, r.2)
    | _ => none

end

/-- Reads a whole text. A value is never nested deeper, nor longer, than its text. -/
def read (cs : List Char) : Option Json :=
  match readValue (2 * cs.length + 2) cs with
  | some (v, rest) => if (skip rest).isEmpty then some v else none
  | none => none

end Spreadsheet.Json
