import Spreadsheet.Json.Escape

/-! Escaping and undoing it. The escaped form of a text is a body that scanning takes whole up to the closing quote,
and undoing its escapes gives the text back. -/
namespace Spreadsheet.Json

theorem hexUnit_low (n : Nat) (low : n < 0x20) : unit? '0' '0' (hexDigit (n / 16)) (hexDigit (n % 16)) =
  some n := by
  have all : ∀ n < 0x20, unit? '0' '0' (hexDigit (n / 16)) (hexDigit (n % 16)) = some n := by decide
  exact all n low

theorem escapeChar_cases (c : Char) :
    (escapeChar c = [c] ∧ c ≠ '"' ∧ c ≠ '\\' ∧ 0x20 ≤ c.toNat) ∨
      (∃ e, escapeChar c = ['\\', e] ∧ e ≠ 'u' ∧ escaped? e = some c) ∨
      (∃ a b, escapeChar c = ['\\', 'u', '0', '0', a, b] ∧ unit? '0' '0' a b = some c.toNat ∧ c.toNat < 0x20) := by
  by_cases special : c = '"' ∨ c = '\\' ∨ c = '\x08' ∨ c = '\x0c' ∨ c = '\n' ∨ c = '\r' ∨ c = '\t'
  · right; left
    rcases special with rfl | rfl | rfl | rfl | rfl | rfl | rfl
    · exact ⟨'"', rfl, by decide, rfl⟩
    · exact ⟨'\\', rfl, by decide, rfl⟩
    · exact ⟨'b', rfl, by decide, rfl⟩
    · exact ⟨'f', rfl, by decide, rfl⟩
    · exact ⟨'n', rfl, by decide, rfl⟩
    · exact ⟨'r', rfl, by decide, rfl⟩
    · exact ⟨'t', rfl, by decide, rfl⟩
  · simp only [not_or] at special
    obtain ⟨quote, slash, back, feed, line, ret, tab⟩ := special
    by_cases low : c.toNat < 0x20
    · right; right
      refine ⟨_, _, ?_, hexUnit_low c.toNat low, low⟩
      simp only [escapeChar, quote, slash, back, feed, line, ret, tab, low, if_true, if_false]
    · left
      refine ⟨?_, quote, slash, by omega⟩
      simp only [escapeChar, quote, slash, back, feed, line, ret, tab, low, if_false]

theorem unescape_letter {e c : Char} (letter : e ≠ 'u') (known : escaped? e = some c) (cs : List Char) :
    unescape ('\\' :: e :: cs) = (unescape cs).map (c :: ·) := by
  rw [unescape.eq_def]
  split
  next eq => cases eq
  next eq =>
    cases eq
    exact absurd rfl letter
  next eq =>
    cases eq
    rw [known]
    cases unescape cs <;> rfl
  next eq => cases eq
  next outside _ eq =>
    cases eq
    exact absurd rfl (outside e cs rfl)

theorem unescape_unit {a b : Char} {n : Nat} (known : unit? '0' '0' a b = some n) (low : n < 0x20)
    (cs : List Char) :
    unescape ('\\' :: 'u' :: '0' :: '0' :: a :: b :: cs) = (unescape cs).map (Char.ofNat n :: ·) := by
  have notLeading : isLeading n = false := by simp [isLeading]; omega
  have notTrailing : isTrailing n = false := by simp [isTrailing]; omega
  rw [unescape.eq_def]
  simp only [known, notLeading, notTrailing, Option.bind_eq_bind, Option.bind_some, Bool.false_eq_true, if_false]
  cases unescape cs <;> rfl

theorem unescape_plain {c : Char} (plain : c ≠ '\\') (cs : List Char) :
    unescape (c :: cs) = (unescape cs).map (c :: ·) := by
  rw [unescape.eq_def]
  split
  next eq => cases eq
  next eq =>
    cases eq
    exact absurd rfl plain
  next eq =>
    cases eq
    exact absurd rfl plain
  next eq =>
    cases eq
    exact absurd rfl plain
  next eq =>
    cases eq
    cases unescape cs <;> rfl

theorem unescape_escapeChar (c : Char) (cs : List Char) :
    unescape (escapeChar c ++ cs) = (unescape cs).map (c :: ·) := by
  rcases escapeChar_cases c with ⟨same, _, plain, _⟩ | ⟨e, same, letter, known⟩ | ⟨a, b, same, known, low⟩
  · rw [same]
    exact unescape_plain plain cs
  · rw [same]
    exact unescape_letter letter known cs
  · rw [same]
    have undone := unescape_unit known low cs
    rwa [Char.ofNat_toNat] at undone

@[simp] theorem unescape_escape (cs : List Char) : unescape (escape cs) = some cs := by
  induction cs with
  | nil => rfl
  | cons c cs ih =>
    have split : escape (c :: cs) = escapeChar c ++ escape cs := rfl
    rw [split, unescape_escapeChar, ih]
    rfl

theorem scanBody_plain {c : Char} (quote : c ≠ '"') (plain : c ≠ '\\') (printable : 0x20 ≤ c.toNat) (cs : List Char) :
    scanBody (c :: cs) = (scanBody cs).map fun r => (c :: r.1, r.2) := by
  have shown : ¬ (decide (c.toNat < 0x20) || decide (c = '\\')) = true := by simp [plain, Nat.not_lt.2 printable]
  rw [scanBody.eq_def]
  split
  next eq => cases eq
  next eq =>
    cases eq
    exact absurd rfl quote
  next eq =>
    cases eq
    exact absurd rfl plain
  next eq =>
    cases eq
    exact absurd rfl plain
  next eq =>
    cases eq
    exact if_neg shown

theorem scanBody_letter {e c : Char} (letter : e ≠ 'u') (known : escaped? e = some c) (cs : List Char) :
    scanBody ('\\' :: e :: cs) = (scanBody cs).map fun r => ('\\' :: e :: r.1, r.2) := by
  rw [scanBody.eq_def]
  split
  next eq => cases eq
  next eq => cases eq
  next eq =>
    cases eq
    exact absurd rfl letter
  next eq =>
    cases eq
    rw [known]
    rfl
  next outside eq =>
    cases eq
    exact absurd rfl (outside e cs rfl)

theorem scanBody_unit {a b : Char} {n : Nat} (known : unit? '0' '0' a b = some n) (cs : List Char) :
    scanBody ('\\' :: 'u' :: '0' :: '0' :: a :: b :: cs) =
      (scanBody cs).map fun r => ('\\' :: 'u' :: '0' :: '0' :: a :: b :: r.1, r.2) := by
  rw [scanBody.eq_def]
  simp only [known]
  rfl

theorem scanBody_escapeChar (c : Char) (cs : List Char) :
    scanBody (escapeChar c ++ cs) = (scanBody cs).map fun r => (escapeChar c ++ r.1, r.2) := by
  rcases escapeChar_cases c with ⟨same, quote, plain, printable⟩ | ⟨e, same, letter, known⟩ | ⟨a, b, same, known, low⟩
  · rw [same]
    exact scanBody_plain quote plain printable cs
  · rw [same]
    exact scanBody_letter letter known cs
  · rw [same]
    exact scanBody_unit known cs

theorem scanBody_escape (cs rest : List Char) : scanBody (escape cs ++ '"' :: rest) = some (escape cs, rest) := by
  induction cs with
  | nil => rfl
  | cons c cs ih =>
    have split : escape (c :: cs) = escapeChar c ++ escape cs := rfl
    rw [split, List.append_assoc, scanBody_escapeChar, ih]
    rfl

theorem escapeChar_of_plain {c : Char} (quote : c ≠ '"') (slash : c ≠ '\\') (printable : 0x20 ≤ c.toNat) :
    escapeChar c = [c] := by
  have shown (d : Char) (low : d.toNat < 0x20) : c ≠ d := by
    intro same
    subst same
    omega
  simp only [escapeChar, quote, slash, shown '\x08' (by decide), shown '\x0c' (by decide), shown '\n' (by decide),
    shown '\r' (by decide), shown '\t' (by decide), Nat.not_lt.mpr printable, if_false]

theorem plain_of_isDigit {c : Char} (digit : c.isDigit = true) : c ≠ '"' ∧ c ≠ '\\' ∧ 0x20 ≤ c.toNat := by
  refine ⟨?_, ?_, ?_⟩
  · intro same
    subst same
    cases digit
  · intro same
    subst same
    cases digit
  · have low : '0'.toNat ≤ c.toNat := (Char.isDigit_iff_toNat.1 digit).1
    exact Nat.le_trans (by decide) low

theorem escape_of_plain {cs : List Char} (plain : ∀ c ∈ cs, c ≠ '"' ∧ c ≠ '\\' ∧ 0x20 ≤ c.toNat) :
    escape cs = cs := by
  induction cs with
  | nil => rfl
  | cons c cs ih =>
    obtain ⟨quote, slash, printable⟩ := plain c (by simp)
    have split : escape (c :: cs) = escapeChar c ++ escape cs := rfl
    rw [split, escapeChar_of_plain quote slash printable, ih fun d member => plain d (by simp [member])]
    rfl

end Spreadsheet.Json
