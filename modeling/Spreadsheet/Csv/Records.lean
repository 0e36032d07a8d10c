import Spreadsheet.Text.Blank

/-! Reading comma-separated records. A quote opens a quoted field only as its first character; there a quote is
written twice, and text after the closing quote still belongs to the field. A return or a line feed ends a
record, and empty lines hold none. -/
namespace Spreadsheet.Csv

def isBreak (c : Char) : Bool := c = '\n' || c = '\r'

def endsField (c : Char) : Bool := c = ',' || isBreak c

abbrev Field := List Char × List Char

def plainField (cs : List Char) : Field := (cs.takeWhile fun c => !endsField c, cs.dropWhile fun c => !endsField c)

/-- A field after its opening quote; one that is never closed takes the rest of the text. -/
def quotedField : List Char → Field
  | [] => ([], [])
  | '"' :: '"' :: cs => let (field, rest) := quotedField cs; ('"' :: field, rest)
  | c :: cs => if c = '"' then plainField cs else let (field, rest) := quotedField cs; (c :: field, rest)

def field : List Char → Field
  | '"' :: cs => quotedField cs
  | cs => plainField cs

theorem length_plainField (cs : List Char) : (plainField cs).2.length ≤ cs.length := (List.dropWhile_sublist _).length_le

theorem length_quotedField (cs : List Char) : (quotedField cs).2.length ≤ cs.length := by
  fun_induction quotedField cs with
  | case1 => simp
  | case2 cs field rest eq ih => simp_all; omega
  | case3 cs => exact Nat.le_succ_of_le (length_plainField cs)
  | case4 c cs _ other field rest eq ih => simp_all; omega

theorem length_field (cs : List Char) : (field cs).2.length ≤ cs.length := by
  unfold field; split
  · exact Nat.le_succ_of_le (length_quotedField _)
  · exact length_plainField _

def fields (cs : List Char) : List (List Char) × List Char :=
  match _h : (field cs).2 with
  | ',' :: rest => let (more, after) := fields rest; ((field cs).1 :: more, after)
  | _ :: rest => ([(field cs).1], rest)
  | [] => ([(field cs).1], [])
termination_by cs.length
decreasing_by have := length_field cs; rw [_h] at this; exact this

theorem length_fields (cs : List Char) : (fields cs).2.length ≤ cs.length := by
  fun_induction fields cs with
  | case1 cs rest eq more after found ih => have := length_field cs; simp_all; omega
  | case2 cs c rest eq => have := length_field cs; simp_all; omega
  | case3 cs eq => simp

theorem length_fields_lt (c : Char) (cs : List Char) : (fields (c :: cs)).2.length < (c :: cs).length := by
  unfold fields
  have := length_field (c :: cs)
  split
  next rest eq =>
    have shorter := length_fields rest
    rw [eq] at this
    simp only [List.length_cons] at this ⊢
    omega
  next eq => rw [eq] at this; simp only [List.length_cons] at this ⊢; omega
  next eq => simp

/-- A record and the number of characters before it. -/
structure Record where
  offset : Nat
  fields : List (List Char)
  deriving DecidableEq, Repr

def recordsFrom (offset : Nat) (cs : List Char) : List Record :=
  match _h : cs.dropWhile isBreak with
  | [] => []
  | c :: rest =>
    let start := offset + (cs.length - (c :: rest).length)
    let found := fields (c :: rest)
    ⟨start, found.1⟩ :: recordsFrom (start + ((c :: rest).length - found.2.length)) found.2
termination_by cs.length
decreasing_by
  have whole := (List.dropWhile_sublist (l := cs) isBreak).length_le
  have part := length_fields_lt c rest
  rw [_h] at whole
  omega

/-- The records of a text. A byte order mark in front is skipped, and the record after it counts as the start. -/
def records : List Char → List Record
  | '\ufeff' :: cs => match recordsFrom 1 cs with
    | [] => []
    | r :: rs => { r with offset := 0 } :: rs
  | cs => recordsFrom 0 cs

end Spreadsheet.Csv
