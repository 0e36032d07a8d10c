import Spreadsheet.Proofs.Json.Reading
import Spreadsheet.Proofs.Text.Blank

/-! The tokens at the front of a text: numbers are made of characters of numbers, and the bodies of strings of characters that
can be printed. Neither has a blank at its front, or a line feed anywhere. -/
namespace Spreadsheet.Json

/-- Can the character stand in a string, by itself or in an escape? -/
def isPrintable (c : Char) : Bool := 0x20 ≤ c.toNat

section Token

variable {cs tok body rest : List Char} {v : Json}

theorem digits_append (cs : List Char) : (digits cs).1 ++ (digits cs).2 = cs := List.takeWhile_append_dropWhile

theorem isNumeric_of_mem_digits {c : Char} (inside : c ∈ (digits cs).1) : isNumeric c = true := by
  have digit : c.isDigit = true := List.all_eq_true.1 List.all_takeWhile c inside
  simp [isNumeric, digit]

/-- The token is at the front, and made of characters of numbers. -/
structure Numeric (cs tok rest : List Char) : Prop where
  split : cs = tok ++ rest
  numeric : ∀ c ∈ tok, isNumeric c = true

theorem numeric_readMinus (cs : List Char) : Numeric cs (readMinus cs).1 (readMinus cs).2 := by
  unfold readMinus
  split
  · exact ⟨rfl, List.forall_mem_singleton.2 rfl⟩
  · exact ⟨rfl, nofun⟩

theorem numeric_readWhole (read : readWhole cs = some (tok, rest)) : Numeric cs tok rest ∧ tok ≠ [] := by
  unfold readWhole at read
  split at read
  · split at read
    · cases read
    · cases read
      exact ⟨⟨rfl, List.forall_mem_singleton.2 rfl⟩, nofun⟩
  · simp only [Option.ite_none_left_eq_some] at read
    obtain ⟨found, same⟩ := read
    cases same
    exact ⟨⟨(digits_append _).symm, fun c => isNumeric_of_mem_digits⟩, by simpa using found⟩

theorem numeric_readFraction (read : readFraction cs = some (tok, rest)) : Numeric cs tok rest := by
  unfold readFraction at read
  split at read
  · simp only [Option.ite_none_left_eq_some] at read
    obtain ⟨_, same⟩ := read
    cases same
    refine ⟨by simp [digits_append], ?_⟩
    intro c inside
    rcases List.mem_cons.1 inside with rfl | inside
    · rfl
    · exact isNumeric_of_mem_digits inside
  · cases read
    exact ⟨rfl, nofun⟩

theorem numeric_readSign (cs : List Char) : Numeric cs (readSign cs).1 (readSign cs).2 := by
  unfold readSign
  split
  · exact ⟨rfl, List.forall_mem_singleton.2 rfl⟩
  · exact ⟨rfl, List.forall_mem_singleton.2 rfl⟩
  · exact ⟨rfl, nofun⟩

theorem numeric_readExponent (read : readExponent cs = some (tok, rest)) : Numeric cs tok rest := by
  unfold readExponent at read
  split at read
  · cases read
    exact ⟨rfl, nofun⟩
  next e cs =>
    split at read
    next exponent =>
      dsimp only at read
      simp only [Option.ite_none_left_eq_some] at read
      obtain ⟨_, same⟩ := read
      cases same
      have sign := numeric_readSign cs
      refine ⟨?_, ?_⟩
      · simp only [List.cons_append, List.append_assoc, digits_append, ← sign.split]
      · intro c inside
        rcases List.mem_append.1 inside with front | inside
        · rcases List.mem_cons.1 front with rfl | inside
          · rcases (by simpa using exponent) with rfl | rfl <;> rfl
          · exact sign.numeric c inside
        · exact isNumeric_of_mem_digits inside
    next =>
      cases read
      exact ⟨rfl, nofun⟩

theorem Numeric.append {tok' rest' : List Char} (first : Numeric cs tok rest) (second : Numeric rest tok' rest') :
    Numeric cs (tok ++ tok') rest' := by
  refine ⟨by rw [first.split, second.split, List.append_assoc], ?_⟩
  intro c inside
  exact (List.mem_append.1 inside).elim (first.numeric c) (second.numeric c)

/-- What makes up a number. -/
theorem readNumber_eq_some_iff : readNumber cs = some (v, rest) ↔ ∃ whole afterWhole fraction afterFraction exponent,
    readWhole (readMinus cs).2 = some (whole, afterWhole) ∧ readFraction afterWhole = some (fraction, afterFraction) ∧
      readExponent afterFraction = some (exponent, rest) ∧
      v = .number ((readMinus cs).1 ++ whole ++ fraction ++ exponent) := by
  simp only [readNumber, Option.bind_eq_bind, Option.bind_eq_some_iff, Prod.exists, Option.pure_def, Option.some.injEq,
    Prod.mk.injEq]
  constructor
  · rintro ⟨whole, afterWhole, one, fraction, afterFraction, two, exponent, _, three, rfl, rfl⟩
    exact ⟨whole, afterWhole, fraction, afterFraction, exponent, one, two, three, rfl⟩
  · rintro ⟨whole, afterWhole, fraction, afterFraction, exponent, one, two, three, rfl⟩
    exact ⟨whole, afterWhole, one, fraction, afterFraction, two, exponent, rest, three, rfl, rfl⟩

theorem numeric_readNumber (read : readNumber cs = some (v, rest)) : ∃ tok, Numeric cs tok rest ∧ tok ≠ [] := by
  obtain ⟨whole, afterWhole, fraction, afterFraction, exponent, one, two, three, _⟩ := readNumber_eq_some_iff.1 read
  have ⟨first, filled⟩ := numeric_readWhole one
  have all := (numeric_readMinus cs).append (first.append ((numeric_readFraction two).append (numeric_readExponent three)))
  exact ⟨_, all, by simp [filled]⟩

theorem solid_of_isNumeric {c : Char} (numeric : isNumeric c = true) : Text.isBlank c = false ∧ c ≠ '/' ∧ '\n' ≠ c := by
  simp only [isNumeric, Bool.or_eq_true, decide_eq_true_eq, List.mem_cons, List.not_mem_nil, or_false] at numeric
  rcases numeric with digit | rfl | rfl | rfl | rfl | rfl
  · refine ⟨?_, ?_, ?_⟩
    · exact Text.isBlank_of_isAlphanum (by simp [Char.isAlphanum, digit])
    · rintro rfl
      cases digit
    · rintro rfl
      cases digit
  all_goals decide

theorem isPrintable_of_hexValue? {c : Char} (hex : (hexValue? c).isSome = true) : isPrintable c = true := by
  unfold hexValue? at hex
  split at hex
  next digit => exact decide_eq_true (plain_of_isDigit digit).2.2
  next =>
    split at hex
    next low => exact decide_eq_true (Nat.le_trans (by decide) (show 'a'.toNat ≤ c.toNat from low.1))
    next =>
      split at hex
      next high => exact decide_eq_true (Nat.le_trans (by decide) (show 'A'.toNat ≤ c.toNat from high.1))
      next => cases hex

theorem isPrintable_of_unit? {a b c d : Char} (known : (unit? a b c d).isSome = true) :
    ∀ x ∈ [a, b, c, d], isPrintable x = true := by
  obtain ⟨n, same⟩ := Option.isSome_iff_exists.1 known
  simp only [unit?, Option.bind_eq_bind, Option.bind_eq_some_iff] at same
  obtain ⟨_, a_, _, b_, _, c_, _, d_, _⟩ := same
  simp [isPrintable_of_hexValue?, a_, b_, c_, d_]

theorem isPrintable_of_escaped? {e : Char} (known : (escaped? e).isSome = true) : isPrintable e = true := by
  unfold escaped? at known
  split at known
  all_goals first | rfl | cases known

theorem scanBody_escapedLetter {e : Char} (known : (escaped? e).isSome = true) (cs : List Char) :
    scanBody ('\\' :: e :: cs) = (scanBody cs).map fun r => ('\\' :: e :: r.1, r.2) := by
  obtain ⟨c, same⟩ := Option.isSome_iff_exists.1 known
  refine scanBody_letter ?_ same cs
  rintro rfl
  cases same

theorem scanBody_escapedUnit {a b c d : Char} (known : (unit? a b c d).isSome = true) (cs : List Char) :
    scanBody ('\\' :: 'u' :: a :: b :: c :: d :: cs) =
      (scanBody cs).map fun r => ('\\' :: 'u' :: a :: b :: c :: d :: r.1, r.2) := by
  rw [scanBody.eq_def]
  simp only [known, if_true]

/-- The body is at the front, up to a quote; its characters can be printed, and whatever follows the quote, it is the body. -/
structure Bodily (cs body rest : List Char) : Prop where
  split : cs = body ++ '"' :: rest
  printable : ∀ c ∈ body, isPrintable c = true
  scan : ∀ other, scanBody (body ++ '"' :: other) = some (body, other)

/-- Characters that scanning takes one after another stand in front of the body. -/
theorem bodily_append (front : List Char) {more : List Char}
    (ih : ∀ {body rest}, scanBody more = some (body, rest) → Bodily more body rest)
    (printable : ∀ c ∈ front, isPrintable c = true)
    (scans : ∀ more, scanBody (front ++ more) = (scanBody more).map fun r => (front ++ r.1, r.2))
    (scanned : (scanBody more).map (fun r => (front ++ r.1, r.2)) = some (body, rest)) : Bodily (front ++ more) body rest := by
  obtain ⟨⟨later, _⟩, found, same⟩ := Option.map_eq_some_iff.1 scanned
  cases same
  have bodily := ih found
  refine ⟨?_, ?_, ?_⟩
  · rw [bodily.split, List.append_assoc]
  · intro c inside
    exact (List.mem_append.1 inside).elim (printable c) (bodily.printable c)
  · intro other
    rw [List.append_assoc, scans, bodily.scan]
    rfl

theorem bodily_scanBody (scanned : scanBody cs = some (body, rest)) : Bodily cs body rest := by
  fun_induction scanBody cs generalizing body rest with
  | case1 => cases scanned
  | case2 =>
    cases scanned
    exact ⟨rfl, nofun, fun _ => rfl⟩
  | case3 a b c d cs known ih =>
    refine bodily_append ['\\', 'u', a, b, c, d] ih ?_ (scanBody_escapedUnit known) scanned
    have units := isPrintable_of_unit? known
    simp only [List.forall_mem_cons] at units ⊢
    exact ⟨rfl, rfl, units⟩
  | case4 => cases scanned
  | case5 e cs _ known ih =>
    refine bodily_append ['\\', e] ih ?_ (scanBody_escapedLetter known) scanned
    simp only [List.forall_mem_cons]
    exact ⟨rfl, isPrintable_of_escaped? known, nofun⟩
  | case6 => cases scanned
  | case7 => cases scanned
  | case8 c cs quote _ _ plain ih =>
    simp only [Bool.or_eq_true, decide_eq_true_eq, not_or, Nat.not_lt] at plain
    refine bodily_append [c] ih ?_ (scanBody_plain quote plain.2 plain.1) scanned
    exact List.forall_mem_singleton.2 (decide_eq_true plain.1)

/-- What makes up a key: a string and the colon after it. -/
theorem readKey_eq_some_iff : readKey cs = some (body, rest) ↔ ∃ inner after,
    skip cs = '"' :: inner ∧ scanBody inner = some (body, after) ∧ skip after = ':' :: rest := by
  constructor
  · intro key
    unfold readKey at key
    split at key
    next inner front =>
      obtain ⟨⟨_, after⟩, scanned, key⟩ := Option.bind_eq_some_iff.1 key
      dsimp only at key
      split at key
      next colon =>
        cases key
        exact ⟨inner, after, front, scanned, colon⟩
      next => cases key
    next => cases key
  · rintro ⟨inner, after, front, scanned, colon⟩
    simp only [readKey, front, scanned, colon, Option.bind_eq_bind, Option.bind_some, Option.pure_def]

end Token

end Spreadsheet.Json
