/-! Characters from bytes in UTF-8. Reading one character consumes either its bytes or, where the bytes are ill
formed, the longest part that could have started a character. -/
namespace Spreadsheet.Text.Utf8

/-- How many bytes follow a first byte, the bounds of the first of them, and the bits that the first byte gives. -/
def lead? (b : Nat) : Option (Nat × Nat × Nat × Nat) :=
  if b < 0x80 then some (0, 0x80, 0xBF, b)
  else if 0xC2 ≤ b ∧ b ≤ 0xDF then some (1, 0x80, 0xBF, b - 0xC0)
  else if b = 0xE0 then some (2, 0xA0, 0xBF, 0)
  else if b = 0xED then some (2, 0x80, 0x9F, 0xD)
  else if 0xE1 ≤ b ∧ b ≤ 0xEF then some (2, 0x80, 0xBF, b - 0xE0)
  else if b = 0xF0 then some (3, 0x90, 0xBF, 0)
  else if 0xF1 ≤ b ∧ b ≤ 0xF3 then some (3, 0x80, 0xBF, b - 0xF0)
  else if b = 0xF4 then some (3, 0x80, 0x8F, 4)
  else none

def tail : Nat → Nat → Nat → Nat → List UInt8 → Option Char × List UInt8
  | 0, _, _, code, bs => (some (Char.ofNat code), bs)
  | _ + 1, _, _, _, [] => (none, [])
  | n + 1, low, high, code, b :: bs =>
    if low ≤ b.toNat ∧ b.toNat ≤ high then tail n 0x80 0xBF (code * 64 + b.toNat % 64) bs else (none, b :: bs)

theorem length_tail (n low high code : Nat) (bs : List UInt8) : (tail n low high code bs).2.length ≤ bs.length := by
  fun_induction tail n low high code bs with
  | case3 n low high code b bs inside ih => exact Nat.le_succ_of_le ih
  | _ => simp

/-- The first character, none if the bytes are ill formed, and the bytes after it. -/
def next (b : UInt8) (bs : List UInt8) : Option Char × List UInt8 :=
  match lead? b.toNat with
  | some (n, low, high, code) => tail n low high code bs
  | none => (none, bs)

theorem length_next (b : UInt8) (bs : List UInt8) : (next b bs).2.length ≤ bs.length := by
  unfold next; split
  · exact length_tail ..
  · exact Nat.le_refl _

/-- All characters, none in place of each ill-formed part. -/
def characters (bs : List UInt8) : List (Option Char) :=
  match bs with
  | [] => []
  | b :: bs => (next b bs).1 :: characters (next b bs).2
termination_by bs.length
decreasing_by exact Nat.lt_succ_of_le (length_next b bs)

def decode? (bs : List UInt8) : Option (List Char) := (characters bs).mapM id

/-- Puts a replacement character in place of each ill-formed part. -/
def decode (bs : List UInt8) : List Char := (characters bs).map (·.getD '\ufffd')

end Spreadsheet.Text.Utf8
