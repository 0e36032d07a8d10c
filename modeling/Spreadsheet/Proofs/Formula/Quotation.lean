import Spreadsheet.Proofs.Formula.Translation
import Spreadsheet.Proofs.Sheet.Values
import Spreadsheet.Proofs.Text.Quoted

/-! Texts quoted in formulas. Reading a quoted text and passing over it end at the same closing quote, so a formula that
quotes a text has that text as its value, whatever quotes and names of cells are in it, and moves unchanged. -/
namespace Spreadsheet

open Text

namespace Text.Quoted

/-- All characters as they are, but every quote twice. -/
def doubled (cs : List Char) : List Char := cs.flatMap fun c => if c = '"' then ['"', '"'] else [c]

theorem body_eq_doubled (cs : List Char) : body cs = doubled cs := by
  induction cs with
  | nil => rfl
  | cons c cs ih =>
    rw [body, doubled, List.flatMap_cons, ← doubled, ih]
    split <;> rfl

theorem write_append (cs rest : List Char) : write cs ++ rest = '"' :: (body cs ++ '"' :: rest) := by
  simp [write]

end Text.Quoted

namespace Formula

variable {rest : List Char} (stops : Stops (· == '"') rest)
include stops

/-- A quoted text is one token, up to a quote that no other one follows. -/
theorem Token.scan_write (cs : List Char) :
    Token.scan (Quoted.write cs ++ rest) = do return .text (String.ofList cs) :: (← Token.scan rest) := by
  rw [Quoted.write_append, Token.scan_quoted (Quoted.read_body cs stops)]

theorem Shift.text_write (dr dc : Int) (joined : Bool) (cs : List Char) :
    Shift.text dr dc joined (Quoted.write cs ++ rest) = Quoted.write cs ++ Shift.text dr dc false rest := by
  rw [Quoted.write_append, Shift.text_quoted (Quoted.read_body cs stops)]

omit stops

/-- The formula that quotes a text. -/
def quotation (s : String) : String := String.ofList ('=' :: '"' :: (Quoted.doubled s.toList ++ ['"']))

theorem toList_quotation (s : String) : (quotation s).toList = '=' :: Quoted.write s.toList := by
  rw [quotation, String.toList_ofList, Quoted.write, Quoted.body_eq_doubled]

theorem isFormula_quotation (s : String) : isFormula (quotation s) = true := by
  rw [isFormula, toList_quotation]
  rfl

theorem parse_quotation (s : String) : Expr.parse (quotation s) = .ok (.text s) := by
  have trimmed : (Quoted.write s.toList).rdropWhile isBlank = Quoted.write s.toList :=
    rdropWhile_append_cons (p := isBlank) rfl ('"' :: Quoted.body s.toList) []
  have stops : Stops (· == '"') [] := nofun
  have scanned := Token.scan_write stops s.toList
  rw [List.append_nil, String.ofList_toList] at scanned
  rw [parse_eq, ofFormula_eq (toList_quotation s), trimmed, scanned, Token.scan]
  rfl

theorem rawValue_quotation (values : Position → Value) (s : String) : rawValue values (quotation s) = .text s := by
  rw [rawValue_formula values (isFormula_quotation s) (parse_quotation s)]
  rfl

theorem shift_quotation (dr dc : Int) (s : String) : shift dr dc (quotation s) = quotation s := by
  by_cases still : dr = 0 ∧ dc = 0
  · obtain ⟨rfl, rfl⟩ := still
    exact shift_zero _
  · have stops : Stops (· == '"') [] := nofun
    have moved := Shift.text_write stops dr dc false s.toList
    rw [List.append_nil, Shift.text_nil, List.append_nil] at moved
    rw [← String.toList_inj, toList_shift (toList_quotation s) still, moved, toList_quotation]

/-- Whatever a text is, the formula that quotes it reads as that text, has it as its value, by itself and in a cell, and is
the same wherever it is moved. -/
theorem quotation_stands_for_text (s : String) :
    Expr.parse (quotation s) = .ok (.text s) ∧ (∀ lookup, evaluate lookup (quotation s) = .text s) ∧
      (∀ (sheet : Sheet) p, (sheet.setValue p (quotation s)).evaluate p = .text s) ∧
      ∀ dr dc, shift dr dc (quotation s) = quotation s := by
  refine ⟨parse_quotation s, fun lookup => ?_, fun sheet p => ?_, fun dr dc => shift_quotation dr dc s⟩
  · have given := (Pass.yielding_gives []).evalRaw (Pass.gives_cellValue lookup (maxDepth + 1) []) (quotation s)
    rw [rawValue_quotation] at given
    exact congrArg Prod.fst given
  · have entered : (sheet.setValue p (quotation s)).raw p = quotation s := by
      rw [Sheet.raw_setValue, if_pos rfl]
    rw [Sheet.evaluate, evaluateCell_eq, valueUnder, if_neg List.not_mem_nil, if_neg (by decide), entered, rawValue_quotation]

end Formula

end Spreadsheet
