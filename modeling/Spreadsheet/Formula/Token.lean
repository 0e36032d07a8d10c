import Spreadsheet.Formula.Expr
import Spreadsheet.Formula.Reference
import Spreadsheet.Number.Literal
import Spreadsheet.Text.Quoted

/-! The tokens of a formula. Words are references or names, names in upper case; a number takes every digit
and point that follows, and an exponent if digits follow its letter. -/
namespace Spreadsheet.Formula

open Text

inductive Token
  | number (x : Float)
  | text (s : String)
  | ref (p : Position)
  | name (s : String)
  | op (o : Op)
  | openParen
  | closeParen
  | colon
  | comma
  deriving Inhabited

namespace Token

def symbol? : Char → Option Token
  | '+' => some (.op .add)
  | '-' => some (.op .sub)
  | '*' => some (.op .mul)
  | '/' => some (.op .div)
  | '^' => some (.op .pow)
  | '&' => some (.op .concat)
  | '(' => some .openParen
  | ')' => some .closeParen
  | ':' => some .colon
  | ',' => some .comma
  | _ => none

def isWordStart (c : Char) : Bool := c.isAlpha || c == '$'

def isWordChar (c : Char) : Bool := c.isAlphanum || c == '$' || c == '_' || c == '.'

def isNumberChar (c : Char) : Bool := c.isDigit || c == '.'

def ofWord (word : List Char) : Except FormulaError Token :=
  match Reference.scan word with
  | some (r, []) => match r.position? with
    | some p => .ok (.ref p)
    | none => ofName word
  | _ => ofName word
where ofName (word : List Char) : Except FormulaError Token :=
  if '$' ∈ word then .error (.invalidReference (String.ofList word))
  else .ok (.name (String.ofList (word.map Char.toUpper)))

def takeSign : List Char → List Char × List Char
  | '+' :: cs => (['+'], cs)
  | '-' :: cs => (['-'], cs)
  | cs => ([], cs)

/-- An exponent with its letter in lower case; without digits there is none. -/
def takeExponent : List Char → List Char × List Char
  | [] => ([], [])
  | e :: cs =>
    let (sign, unsigned) := takeSign cs
    let digits := unsigned.takeWhile Char.isDigit
    if (e == 'e' || e == 'E') && !digits.isEmpty then ('e' :: sign ++ digits, unsigned.dropWhile Char.isDigit)
    else ([], e :: cs)

def ofNumber (text : List Char) : Except FormulaError Token :=
  match Number.Literal.read text with
  | some l => .ok (.number l.toFloat)
  | none => .error (.invalidNumber (String.ofList text))

theorem length_takeSign (cs : List Char) : (takeSign cs).2.length ≤ cs.length := by
  unfold takeSign; split <;> simp

theorem length_takeExponent (cs : List Char) : (takeExponent cs).2.length ≤ cs.length := by
  cases cs with
  | nil => simp [takeExponent]
  | cons e cs =>
    simp only [takeExponent]
    split
    · exact Nat.le_succ_of_le (Nat.le_trans (List.dropWhile_sublist _).length_le (length_takeSign cs))
    · exact Nat.le_refl _

/-- The tokens of a text, blanks and tabs between them skipped. -/
def scan (cs : List Char) : Except FormulaError (List Token) :=
  match cs with
  | [] => .ok []
  | c :: cs =>
    if c = ' ' ∨ c = '\t' then scan cs
    else if let some t := symbol? c then do return t :: (← scan cs)
    else if c = '"' then
      match _h : Quoted.read cs with
      | none => .error .unterminatedString
      | some (body, rest) => do return .text (String.ofList body) :: (← scan rest)
    else if isWordStart c then do
      let t ← ofWord (c :: cs.takeWhile isWordChar)
      return t :: (← scan (cs.dropWhile isWordChar))
    else if isNumberChar c then do
      let t ← ofNumber (c :: cs.takeWhile isNumberChar ++ (takeExponent (cs.dropWhile isNumberChar)).1)
      return t :: (← scan (takeExponent (cs.dropWhile isNumberChar)).2)
    else .error (.unexpectedCharacter c)
termination_by cs.length
decreasing_by
  · simp
  · simp
  · exact Nat.lt_succ_of_lt (Quoted.length_of_read _h)
  · exact Nat.lt_succ_of_le (List.dropWhile_sublist _).length_le
  · exact Nat.lt_succ_of_le (Nat.le_trans (length_takeExponent _) (List.dropWhile_sublist _).length_le)

end Token

end Spreadsheet.Formula
