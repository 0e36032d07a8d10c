import Spreadsheet.Text.Numeral

/-! The bodies of JSON strings, without their quotes. Writing escapes quotes, backslashes and characters below
the space; reading undoes every escape of the format and refuses halves of surrogate pairs that stand alone. -/
namespace Spreadsheet.Json

def hexDigit (n : Nat) : Char := if n < 10 then Char.ofNat (48 + n) else Char.ofNat (87 + n)

def hexValue? (c : Char) : Option Nat :=
  if c.isDigit then some (c.toNat - 48)
  else if 'a' ≤ c ∧ c ≤ 'f' then some (c.toNat - 87)
  else if 'A' ≤ c ∧ c ≤ 'F' then some (c.toNat - 55)
  else none

def unit? (a b c d : Char) : Option Nat := do
  return (((← hexValue? a) * 16 + (← hexValue? b)) * 16 + (← hexValue? c)) * 16 + (← hexValue? d)

def escaped? : Char → Option Char
  | '"' => some '"'
  | '\\' => some '\\'
  | '/' => some '/'
  | 'b' => some '\x08'
  | 'f' => some '\x0c'
  | 'n' => some '\n'
  | 'r' => some '\r'
  | 't' => some '\t'
  | _ => none

def escapeChar (c : Char) : List Char :=
  if c = '"' then ['\\', '"']
  else if c = '\\' then ['\\', '\\']
  else if c = '\x08' then ['\\', 'b']
  else if c = '\x0c' then ['\\', 'f']
  else if c = '\n' then ['\\', 'n']
  else if c = '\r' then ['\\', 'r']
  else if c = '\t' then ['\\', 't']
  else if c.toNat < 0x20 then ['\\', 'u', '0', '0', hexDigit (c.toNat / 16), hexDigit (c.toNat % 16)]
  else [c]

def escape (cs : List Char) : List Char := cs.flatMap escapeChar

def isLeading (unit : Nat) : Bool := 0xD800 ≤ unit && unit < 0xDC00

def isTrailing (unit : Nat) : Bool := 0xDC00 ≤ unit && unit < 0xE000

def unescape : List Char → Option (List Char)
  | [] => some []
  | '\\' :: 'u' :: a :: b :: c :: d :: cs => do
    let first ← unit? a b c d
    if isLeading first then
      match cs with
      | '\\' :: 'u' :: e :: f :: g :: h :: cs =>
        let second ← unit? e f g h
        if isTrailing second then
          return Char.ofNat (0x10000 + (first - 0xD800) * 0x400 + (second - 0xDC00)) :: (← unescape cs)
        else none
      | _ => none
    else if isTrailing first then none
    else return Char.ofNat first :: (← unescape cs)
  | '\\' :: e :: cs => do return (← escaped? e) :: (← unescape cs)
  | ['\\'] => none
  | c :: cs => do return c :: (← unescape cs)

/-- Takes a body up to its closing quote, each escape well formed but not yet undone. -/
def scanBody : List Char → Option (List Char × List Char)
  | [] => none
  | '"' :: cs => some ([], cs)
  | '\\' :: 'u' :: a :: b :: c :: d :: cs =>
    if (unit? a b c d).isSome then (scanBody cs).map fun r => ('\\' :: 'u' :: a :: b :: c :: d :: r.1, r.2) else none
  | '\\' :: e :: cs => if (escaped? e).isSome then (scanBody cs).map fun r => ('\\' :: e :: r.1, r.2) else none
  | c :: cs => if c.toNat < 0x20 || c = '\\' then none else (scanBody cs).map fun r => (c :: r.1, r.2)

end Spreadsheet.Json
