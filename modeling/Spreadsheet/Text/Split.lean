/-! Cutting texts at every occurrence of a character, and joining them again. -/
namespace Spreadsheet.Text

/-- The parts between the separators; there is always one more part than separators. -/
def splitOn (separator : Char) : List Char → List (List Char)
  | [] => [[]]
  | c :: cs =>
    if c = separator then [] :: splitOn separator cs
    else match splitOn separator cs with
      | [] => [[c]]
      | part :: parts => (c :: part) :: parts

def join (separator : Char) : List (List Char) → List Char
  | [] => []
  | [part] => part
  | part :: parts => part ++ separator :: join separator parts

def dropLast (c : Char) (cs : List Char) : List Char := if cs.getLast? = some c then cs.dropLast else cs

def endLines : List (List Char) → List (List Char)
  | [] => []
  | [last] => if last.isEmpty then [] else [last]
  | line :: rest => dropLast '\r' line :: endLines rest

/-- The lines of a text: a line ends with a line feed, alone or after a return, and needs no end if it is the last. -/
def lines (cs : List Char) : List (List Char) := endLines (splitOn '\n' cs)

end Spreadsheet.Text
