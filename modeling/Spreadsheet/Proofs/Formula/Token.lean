import Spreadsheet.Formula.Token
import Spreadsheet.Proofs.Formula.Reference

/-! Scanning, one token at a time: what kind of character comes first decides which token is cut off and where scanning
goes on. -/
namespace Spreadsheet.Formula.Token

open Text

theorem ne_quote_of_isWordChar {c : Char} (word : isWordChar c = true) : c ≠ '"' := by
  intro same
  subst same
  cases word

theorem isWordChar_of_isWordStart {c : Char} (start : isWordStart c = true) : isWordChar c = true := by
  simp only [isWordStart, Bool.or_eq_true] at start
  rcases start with alpha | sign
  · simp [isWordChar, Char.isAlphanum, alpha]
  · simp [isWordChar, sign]

theorem isWordChar_of_isNumberChar {c : Char} (number : isNumberChar c = true) : isWordChar c = true := by
  simp only [isNumberChar, Bool.or_eq_true] at number
  rcases number with digit | point
  · simp [isWordChar, Char.isAlphanum, digit]
  · simp [isWordChar, point]

theorem isWordChar_of_isDigit {c : Char} (digit : c.isDigit = true) : isWordChar c = true := by
  simp [isWordChar, Char.isAlphanum, digit]

theorem isWordStart_of_isDigit {c : Char} (digit : c.isDigit = true) : isWordStart c = false := by
  have letter := isAlpha_of_isDigit digit
  have sign : c ≠ '$' := by
    intro same
    subst same
    cases digit
  simp [isWordStart, letter, sign]

theorem ne_quote_of_isDigit {c : Char} (digit : c.isDigit = true) : c ≠ '"' :=
  ne_quote_of_isWordChar (isWordChar_of_isDigit digit)

theorem takeExponent_none {e : Char} {cs : List Char}
    (absent : (e == 'e' || e == 'E') = false ∨ (takeSign cs).2.takeWhile Char.isDigit = []) :
    takeExponent (e :: cs) = ([], e :: cs) := by
  simp only [takeExponent]
  rcases absent with other | empty
  · simp [other]
  · simp [empty]

theorem takeExponent_some {e : Char} {cs : List Char} (letter : (e == 'e' || e == 'E') = true)
    (some_digit : (takeSign cs).2.takeWhile Char.isDigit ≠ []) :
    takeExponent (e :: cs) = ('e' :: (takeSign cs).1 ++ (takeSign cs).2.takeWhile Char.isDigit,
      (takeSign cs).2.dropWhile Char.isDigit) := by
  simp [takeExponent, letter, some_digit]

theorem number_of_ofNumber {text : List Char} {t : Token} (read : ofNumber text = .ok t) : ∃ x, t = .number x := by
  unfold ofNumber at read
  split at read
  next l _ =>
    cases read
    exact ⟨l.toFloat, rfl⟩
  next => cases read

section Scan

variable {c : Char} {cs : List Char}

theorem scan_blank (blank : c = ' ' ∨ c = '\t') (cs : List Char) : scan (c :: cs) = scan cs := by
  rw [scan, if_pos blank]

theorem plain_of_symbol {t : Token} (symbol : symbol? c = some t) :
    (∀ p, t ≠ .ref p) ∧ c ≠ '"' ∧ isWordStart c = false ∧ isWordChar c = false := by
  unfold symbol? at symbol
  split at symbol
  all_goals first
    | cases symbol; exact ⟨fun _ => Token.noConfusion, by decide⟩
    | cases symbol

theorem scan_symbol {t : Token} (symbol : symbol? c = some t) (cs : List Char) :
    scan (c :: cs) = do return t :: (← scan cs) := by
  have solid : ¬ (c = ' ' ∨ c = '\t') := by
    rintro (rfl | rfl) <;> cases symbol
  rw [scan, if_neg solid]
  simp only [symbol]

theorem scan_quoted {body rest : List Char} (read : Quoted.read cs = some (body, rest)) :
    scan ('"' :: cs) = do return .text (String.ofList body) :: (← scan rest) := by
  have other : symbol? '"' = none := rfl
  rw [scan, if_neg (by decide)]
  simp only [other, if_true]
  split
  next none => simp [read] at none
  next body' rest' same =>
    rw [read] at same
    cases same
    rfl

theorem scan_unclosed (open_ : Quoted.read cs = none) : scan ('"' :: cs) = .error .unterminatedString := by
  have other : symbol? '"' = none := rfl
  rw [scan, if_neg (by decide)]
  simp only [other, if_true]
  split
  next => rfl
  next body rest same => simp [open_] at same

/-- Characters that are no blanks, no symbols and no quotes. -/
structure Solid (c : Char) : Prop where
  blank : ¬ (c = ' ' ∨ c = '\t')
  symbol : symbol? c = none
  quote : c ≠ '"'

theorem solid_of_isWordChar (word : isWordChar c = true) : Solid c := by
  refine ⟨?_, ?_, ?_⟩
  · rintro (rfl | rfl) <;> cases word
  · unfold symbol?
    split <;> first | rfl | cases word
  · intro same
    subst same
    cases word

theorem scan_word (start : isWordStart c = true) (cs : List Char) :
    scan (c :: cs) = do
      let t ← ofWord (c :: cs.takeWhile isWordChar)
      return t :: (← scan (cs.dropWhile isWordChar)) := by
  have solid := solid_of_isWordChar (isWordChar_of_isWordStart start)
  rw [scan, if_neg solid.blank]
  simp [solid.symbol, solid.quote, start]

theorem scan_number (start : isWordStart c = false) (number : isNumberChar c = true) (cs : List Char) :
    scan (c :: cs) = do
      let t ← ofNumber (c :: cs.takeWhile isNumberChar ++ (takeExponent (cs.dropWhile isNumberChar)).1)
      return t :: (← scan (takeExponent (cs.dropWhile isNumberChar)).2) := by
  have solid := solid_of_isWordChar (isWordChar_of_isNumberChar number)
  rw [scan, if_neg solid.blank]
  simp [solid.symbol, solid.quote, start, number]

theorem scan_other (solid : Solid c) (start : isWordStart c = false) (number : isNumberChar c = false)
    (cs : List Char) :
    scan (c :: cs) = .error (.unexpectedCharacter c) := by
  rw [scan, if_neg solid.blank]
  simp [solid.symbol, solid.quote, start, number]

end Scan

end Spreadsheet.Formula.Token
