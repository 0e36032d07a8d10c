import Spreadsheet.Formula.Shift
import Spreadsheet.Proofs.Formula.Token

/-! Moving references, seen token by token. Where a word goes on in front, moving copies character after character; a
word that starts a token is copied too, unless it is a reference that stands alone, and numbers with their exponents
are always copied. -/
namespace Spreadsheet.Formula

open Text

namespace Shift

/-- The moved text. All that matters about what stands in front is whether it is part of a word. -/
def text (dr dc : Int) (joined : Bool) (cs : List Char) : List Char :=
  chars dr dc (if joined then some 'A' else none) cs

variable {dr dc : Int} {joined : Bool}

theorem joins_ite (joined : Bool) : joins (if joined then some 'A' else none) = joined := by
  cases joined <;> rfl

theorem chars_eq_text (before : Option Char) (cs : List Char) :
    chars dr dc before cs = text dr dc (joins before) cs := by
  rw [text, chars.eq_def, chars.eq_def dr dc (if joins before then some 'A' else none)]
  simp only [joins_ite]

@[simp] theorem text_nil : text dr dc joined [] = [] := by
  rw [text, chars]

theorem text_quoted {rest body after : List Char} (read : Quoted.read rest = some (body, after)) :
    text dr dc joined ('"' :: rest) = Quoted.write body ++ text dr dc false after := by
  rw [text, chars, if_pos rfl]
  split
  next body' after' same =>
    rw [read] at same
    cases same
    rw [chars_eq_text]
    rfl
  next none => simp [read] at none

theorem text_unclosed {rest : List Char} (open_ : Quoted.read rest = none) :
    text dr dc joined ('"' :: rest) = '"' :: rest := by
  rw [text, chars, if_pos rfl]
  split
  next read => simp [open_] at read
  next => rfl

theorem text_other {c : Char} {rest : List Char} (plain : c ≠ '"') (none : Reference.scan (c :: rest) = none) :
    text dr dc joined (c :: rest) = c :: text dr dc (Token.isWordChar c) rest := by
  rw [text, chars, if_neg plain]
  split
  next read => simp [none] at read
  next =>
    rw [chars_eq_text]
    rfl

theorem joins_getLast? {cs after : List Char} {r : Reference} (read : Reference.scan cs = some (r, after)) :
    joins r.chars.getLast? = true := by
  have sound := (Reference.scan_sound read).1
  rw [List.getLast?_eq_some_getLast sound.chars_ne_nil]
  exact sound.isWordChar (List.getLast_mem sound.chars_ne_nil)

theorem text_reference {c : Char} {rest after : List Char} {r : Reference} (plain : c ≠ '"')
    (read : Reference.scan (c :: rest) = some (r, after)) :
    text dr dc joined (c :: rest) =
      (if joined || joins after.head? || after.head? == some '(' then r else (r.shifted? dr dc).getD r).chars ++
        text dr dc true after := by
  rw [text, chars, if_neg plain]
  split
  next r' after' same =>
    rw [read] at same
    cases same
    rw [chars_eq_text, joins_ite, joins_getLast? read]
  next none => simp [read] at none

theorem sound_moved (dr dc : Int) {r : Reference} (sound : r.Sound) (kept : Bool) :
    (if kept then r else (r.shifted? dr dc).getD r).Sound := by
  cases kept with
  | true => exact sound
  | false =>
    cases moved : r.shifted? dr dc with
    | none => simpa [moved] using sound
    | some r' => simpa [moved] using Reference.sound_shifted moved

theorem text_sound (dr dc : Int) (joined : Bool) {c : Char} {rest after : List Char} {r : Reference} (plain : c ≠ '"')
    (read : Reference.scan (c :: rest) = some (r, after)) :
    ∃ r' : Reference, r'.Sound ∧ text dr dc joined (c :: rest) = r'.chars ++ text dr dc true after :=
  ⟨_, sound_moved dr dc (Reference.scan_sound read).1 _, text_reference plain read⟩

/-- What moving does from the front: quoted text is skipped, references are cut off, other characters are passed. -/
theorem text_induction {motive : Bool → List Char → Prop} (nil : ∀ joined, motive joined [])
    (unclosed : ∀ joined rest, Quoted.read rest = none → motive joined ('"' :: rest))
    (quoted : ∀ joined rest body after, Quoted.read rest = some (body, after) → motive false after →
      motive joined ('"' :: rest))
    (reference : ∀ joined c rest r after, c ≠ '"' → Reference.scan (c :: rest) = some (r, after) → motive true after →
      motive joined (c :: rest))
    (other : ∀ joined c rest, c ≠ '"' → Reference.scan (c :: rest) = none → motive (Token.isWordChar c) rest →
      motive joined (c :: rest))
    (joined : Bool) (cs : List Char) : motive joined cs := by
  induction size : cs.length using Nat.strongRecOn generalizing cs joined with
  | ind n ih =>
    subst size
    cases cs with
    | nil => exact nil joined
    | cons c rest =>
      by_cases quote : c = '"'
      · subst quote
        cases read : Quoted.read rest with
        | none => exact unclosed joined rest read
        | some found =>
          have shorter : found.2.length < rest.length := Quoted.length_of_read read
          exact quoted joined rest found.1 found.2 read (ih _ (Nat.lt_succ_of_lt shorter) false _ rfl)
      · cases read : Reference.scan (c :: rest) with
        | none => exact other joined c rest quote read (ih _ (Nat.lt_succ_self _) _ rest rfl)
        | some found =>
          have shorter : found.2.length < (c :: rest).length := Reference.length_of_scan read
          exact reference joined c rest found.1 found.2 quote read (ih _ shorter true _ rfl)

theorem head_chars {c : Char} {cs after : List Char} {r : Reference}
    (read : Reference.scan (c :: cs) = some (r, after)) :
    ∃ run, r.chars = c :: run := by
  have whole := Reference.eq_chars_of_scan read
  obtain ⟨d, run, eq⟩ := List.exists_cons_of_ne_nil (Reference.scan_sound read).1.chars_ne_nil
  rw [eq, List.cons_append] at whole
  obtain ⟨rfl, _⟩ := List.cons.inj whole
  exact ⟨run, eq⟩

theorem text_word {c : Char} (word : Token.isWordChar c = true) (cs : List Char) :
    text dr dc true (c :: cs) = c :: text dr dc true cs := by
  induction size : cs.length using Nat.strongRecOn generalizing c cs with
  | ind n ih =>
    cases read : Reference.scan (c :: cs) with
    | none => rw [text_other (Token.ne_quote_of_isWordChar word) read, word]
    | some found =>
      obtain ⟨r, after⟩ := found
      -- the characters of the reference are copied one by one by induction
      have copied (run : List Char) (all : ∀ d ∈ run, Token.isWordChar d = true) (short : (run ++ after).length ≤ cs.length) :
          text dr dc true (run ++ after) = run ++ text dr dc true after := by
        induction run with
        | nil => rfl
        | cons d run inner =>
          simp only [List.cons_append, List.length_cons] at short
          rw [List.cons_append, ih _ (by omega) (all d List.mem_cons_self) _ rfl,
            inner (fun e inside => all e (List.mem_cons_of_mem _ inside)) (by omega)]
          rfl
      obtain ⟨run, eq⟩ := head_chars read
      have tail : cs = run ++ after := by
        have whole := Reference.eq_chars_of_scan read
        rw [eq, List.cons_append] at whole
        exact (List.cons.inj whole).2
      have all : ∀ e ∈ run, Token.isWordChar e = true := by
        intro e inside
        exact (Reference.scan_sound read).1.isWordChar (by simp [eq, inside])
      rw [text_reference (Token.ne_quote_of_isWordChar word) read, Bool.true_or, Bool.true_or, if_pos rfl, eq,
        tail, copied run all (Nat.le_of_eq (by rw [tail]))]
      rfl

theorem text_plain {c : Char} (plain : c ≠ '"') (start : Token.isWordStart c = false) (cs : List Char) :
    text dr dc joined (c :: cs) = c :: text dr dc (Token.isWordChar c) cs := by
  simp only [Token.isWordStart, Bool.or_eq_false_iff, beq_eq_false_iff_ne] at start
  exact text_other plain (Reference.scan_cons_none start.1 start.2 cs)

theorem text_cons {c : Char} (cs : List Char) (kept : joined = true ∨ Token.isWordStart c = false) :
    ∃ rest, text dr dc joined (c :: cs) = c :: rest := by
  cases start : Token.isWordStart c with
  | true =>
    obtain rfl : joined = true := kept.resolve_right (by simp [start])
    exact ⟨_, text_word (Token.isWordChar_of_isWordStart start) cs⟩
  | false =>
    by_cases quote : c = '"'
    · subst quote
      cases read : Quoted.read cs with
      | none => exact ⟨_, text_unclosed read⟩
      | some found => exact ⟨_, text_quoted read⟩
    · exact ⟨_, text_plain quote start cs⟩

theorem takeWhile_text {p : Char → Bool} (inside : ∀ c, p c = true → Token.isWordChar c = true) (cs : List Char) :
    (text dr dc true cs).takeWhile p = cs.takeWhile p := by
  induction cs with
  | nil => simp
  | cons c cs ih =>
    cases run : p c with
    | true => rw [text_word (inside c run), List.takeWhile_cons_of_pos run, List.takeWhile_cons_of_pos run, ih]
    | false =>
      obtain ⟨rest, eq⟩ : ∃ rest, text dr dc true (c :: cs) = c :: rest := text_cons cs (.inl rfl)
      rw [eq, List.takeWhile_cons_of_neg (by simp [run]), List.takeWhile_cons_of_neg (by simp [run])]

theorem dropWhile_text {p : Char → Bool} (inside : ∀ c, p c = true → Token.isWordChar c = true) (cs : List Char) :
    (text dr dc true cs).dropWhile p = text dr dc true (cs.dropWhile p) := by
  induction cs with
  | nil => simp
  | cons c cs ih =>
    cases run : p c with
    | true => rw [text_word (inside c run), List.dropWhile_cons_of_pos run, List.dropWhile_cons_of_pos run, ih]
    | false =>
      obtain ⟨rest, eq⟩ : ∃ rest, text dr dc true (c :: cs) = c :: rest := text_cons cs (.inl rfl)
      rw [List.dropWhile_cons_of_neg (by simp [run]), eq, List.dropWhile_cons_of_neg (by simp [run])]

theorem stops_text {p : Char → Bool} (reject : ∀ c, Token.isWordStart c = true → p c = false) {cs : List Char}
    (stops : Stops p cs) : Stops p (text dr dc joined cs) := by
  induction joined, cs using text_induction with
  | nil => simpa using stops
  | unclosed joined rest read =>
    rw [text_unclosed read]
    exact stops
  | quoted joined rest body after read =>
    have first : p '"' = false := stops '"' rfl
    rw [text_quoted read]
    exact stops_cons first
  | reference joined c rest r after quote read =>
    obtain ⟨r', sound, eq⟩ := text_sound dr dc joined quote read
    obtain ⟨d, run, chars, start⟩ := sound.head
    rw [eq, chars]
    exact stops_cons (reject _ start)
  | other joined c rest quote read =>
    have first : p c = false := stops c rfl
    rw [text_other quote read]
    exact stops_cons first

theorem isDigit_of_isWordStart (c : Char) (start : Token.isWordStart c = true) : c.isDigit = false := by
  cases digit : c.isDigit with
  | false => rfl
  | true => simp [Token.isWordStart_of_isDigit digit] at start

theorem takeWhile_isDigit_text (cs : List Char) : (text dr dc joined cs).takeWhile Char.isDigit =
  cs.takeWhile Char.isDigit := by
  cases cs with
  | nil => simp
  | cons c cs =>
    cases digit : c.isDigit with
    | true =>
      rw [text_plain (Token.ne_quote_of_isDigit digit) (Token.isWordStart_of_isDigit digit),
        Token.isWordChar_of_isDigit digit,
        List.takeWhile_cons_of_pos digit, List.takeWhile_cons_of_pos digit, takeWhile_text fun _ => Token.isWordChar_of_isDigit]
    | false =>
      have stops : Stops Char.isDigit (c :: cs) := stops_cons digit
      rw [takeWhile_of_stops stops, takeWhile_of_stops (stops_text isDigit_of_isWordStart stops)]

theorem dropWhile_isDigit_text {cs : List Char} (some_digit : cs.takeWhile Char.isDigit ≠ []) :
    (text dr dc joined cs).dropWhile Char.isDigit = text dr dc true (cs.dropWhile Char.isDigit) := by
  cases cs with
  | nil => exact absurd rfl some_digit
  | cons c cs =>
    cases digit : c.isDigit with
    | true =>
      rw [text_plain (Token.ne_quote_of_isDigit digit) (Token.isWordStart_of_isDigit digit),
        Token.isWordChar_of_isDigit digit,
        List.dropWhile_cons_of_pos digit, List.dropWhile_cons_of_pos digit, dropWhile_text fun _ => Token.isWordChar_of_isDigit]
    | false => exact absurd (List.takeWhile_cons_of_neg (by simp [digit])) some_digit

theorem takeSign_text (dr dc : Int) (cs : List Char) :
    ∃ joined, Token.takeSign (text dr dc true cs) =
      ((Token.takeSign cs).1, text dr dc joined (Token.takeSign cs).2) := by
  cases cs with
  | nil => exact ⟨true, by simp [Token.takeSign]⟩
  | cons c cs =>
    by_cases plus : c = '+'
    · subst plus
      exact ⟨false, by rw [text_plain (by decide) (by decide)]; rfl⟩
    · by_cases minus : c = '-'
      · subst minus
        exact ⟨false, by rw [text_plain (by decide) (by decide)]; rfl⟩
      · have unsigned (rest : List Char) : Token.takeSign (c :: rest) = ([], c :: rest) := by
          unfold Token.takeSign
          split <;> simp_all
        obtain ⟨rest, eq⟩ : ∃ rest, text dr dc true (c :: cs) = c :: rest := text_cons cs (.inl rfl)
        exact ⟨true, by rw [unsigned cs, eq, unsigned rest, ← eq]⟩

theorem takeExponent_text (cs : List Char) :
    Token.takeExponent (text dr dc true cs) =
      ((Token.takeExponent cs).1, text dr dc true (Token.takeExponent cs).2) := by
  cases cs with
  | nil => simp [Token.takeExponent]
  | cons e cs =>
    cases letter : (e == 'e' || e == 'E') with
    | false =>
      obtain ⟨rest, eq⟩ : ∃ rest, text dr dc true (e :: cs) = e :: rest := text_cons cs (.inl rfl)
      rw [eq, Token.takeExponent_none (.inl letter), Token.takeExponent_none (.inl letter), eq]
    | true =>
      have word : Token.isWordChar e = true := by
        simp only [Bool.or_eq_true, beq_iff_eq] at letter
        rcases letter with rfl | rfl <;> decide
      obtain ⟨joined, sign⟩ := takeSign_text dr dc cs
      have same : (Token.takeSign (text dr dc true cs)).2.takeWhile Char.isDigit =
        (Token.takeSign cs).2.takeWhile Char.isDigit := by
        rw [sign, takeWhile_isDigit_text]
      by_cases empty : (Token.takeSign cs).2.takeWhile Char.isDigit = []
      · rw [Token.takeExponent_none (.inr empty), text_word word,
          Token.takeExponent_none (.inr (same.trans empty))]
      · rw [Token.takeExponent_some letter empty, text_word word,
          Token.takeExponent_some letter (by rwa [same]), same, sign]
        dsimp only
        rw [dropWhile_isDigit_text empty]

end Shift

end Spreadsheet.Formula
