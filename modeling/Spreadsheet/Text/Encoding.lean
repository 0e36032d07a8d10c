import Spreadsheet.Text.Utf8

/-! Texts from bytes of unknown encoding: UTF-8 where the bytes are well formed, otherwise what a byte order
mark says, otherwise Windows-1252. A byte order mark at the start is not part of the text. -/
namespace Spreadsheet.Text.Encoding

/-- The characters of Windows-1252 from 0x80 to 0x9F. -/
def windowsBlock : List Nat :=
  [0x20AC, 0x81, 0x201A, 0x192, 0x201E, 0x2026, 0x2020, 0x2021, 0x2C6, 0x2030, 0x160, 0x2039, 0x152, 0x8D, 0x17D, 0x8F,
   0x90, 0x2018, 0x2019, 0x201C, 0x201D, 0x2022, 0x2013, 0x2014, 0x2DC, 0x2122, 0x161, 0x203A, 0x153, 0x9D, 0x17E, 0x178]

def windowsChar (b : UInt8) : Char :=
  let n := b.toNat
  Char.ofNat (if 0x80 ≤ n ∧ n ≤ 0x9F then windowsBlock.getD (n - 0x80) n else n)

/-- Units of sixteen bits; the last one is none where a byte is left over. -/
def units (littleEndian : Bool) : List UInt8 → List (Option Nat)
  | a :: b :: bs => some (if littleEndian then a.toNat + 256 * b.toNat else 256 * a.toNat + b.toNat) :: units littleEndian bs
  | [_] => [none]
  | [] => []

/-- Characters from units; what stands alone, or is cut off at the end, becomes one replacement character. -/
def ofUnits : List (Option Nat) → List Char
  | [] => []
  | none :: us => '\ufffd' :: ofUnits us
  | some u :: us =>
    if 0xD800 ≤ u ∧ u < 0xDC00 then
      match us with
      | [none] => ['\ufffd']
      | some v :: vs =>
        if 0xDC00 ≤ v ∧ v < 0xE000 then Char.ofNat (0x10000 + (u - 0xD800) * 0x400 + (v - 0xDC00)) :: ofUnits vs
        else '\ufffd' :: ofUnits (some v :: vs)
      | us => '\ufffd' :: ofUnits us
    else (if 0xDC00 ≤ u ∧ u < 0xE000 then '\ufffd' else Char.ofNat u) :: ofUnits us

def dropMark : List Char → List Char
  | '\ufeff' :: cs => cs
  | cs => cs

def decodeMarked : List UInt8 → List Char
  | 0xEF :: 0xBB :: 0xBF :: bs => Utf8.decode bs
  | 0xFF :: 0xFE :: bs => ofUnits (units true bs)
  | 0xFE :: 0xFF :: bs => ofUnits (units false bs)
  | bs => bs.map windowsChar

def decode (bs : List UInt8) : String :=
  match Utf8.decode? bs with
  | some cs => String.ofList (dropMark cs)
  | none => String.ofList (decodeMarked bs)

end Spreadsheet.Text.Encoding
