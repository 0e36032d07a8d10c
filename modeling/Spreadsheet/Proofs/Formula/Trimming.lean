import Spreadsheet.Proofs.Formula.Moved
import Spreadsheet.Proofs.Text.Blank

/-! Blanks at the end of a formula. Moving copies them and leaves none behind where there was none, so that it does not
matter whether a text is trimmed before or after its references are moved. -/
namespace Spreadsheet.Formula

open Text

theorem Token.isWordChar_of_isBlank {b : Char} (blank : isBlank b = true) : Token.isWordChar b = false := by
  have sign : b ≠ '$' ∧ b ≠ '_' ∧ b ≠ '.' := by
    refine ⟨?_, ?_, ?_⟩
    all_goals
      intro same
      subst same
      cases blank
  have letter : b.isAlphanum = false := by
    rw [← Bool.not_eq_true]
    intro plain
    rw [isBlank_of_isAlphanum plain] at blank
    cases blank
  simp [isWordChar, letter, sign]

theorem Token.ne_quote_of_isBlank {b : Char} (blank : isBlank b = true) : b ≠ '"' := by
  intro same
  subst same
  cases blank

theorem Token.isWordStart_of_isBlank {b : Char} (blank : isBlank b = true) : isWordStart b = false := by
  cases start : isWordStart b with
  | false => rfl
  | true =>
    have word := isWordChar_of_isWordStart start
    rw [isWordChar_of_isBlank blank] at word
    cases word

section Concat

variable {b : Char} (blank : isBlank b = true)
include blank

theorem stops_blank : Stops Token.isWordChar [b] :=
  stops_cons (Token.isWordChar_of_isBlank blank)

theorem unquoted_blank : '"' ∉ [b] := by
  rw [List.mem_singleton]
  exact (Token.ne_quote_of_isBlank blank).symm

theorem stops_quote_blank : Stops (· == '"') [b] :=
  stops_cons (beq_eq_false_iff_ne.2 (Token.ne_quote_of_isBlank blank))

theorem Shift.text_concat {dr dc : Int} (joined : Bool) (cs : List Char) :
    Shift.text dr dc joined (cs ++ [b]) = Shift.text dr dc joined cs ++ [b] := by
  induction joined, cs using text_induction with
  | nil joined =>
    rw [List.nil_append, text_plain (Token.ne_quote_of_isBlank blank) (Token.isWordStart_of_isBlank blank), text_nil,
      text_nil]
    rfl
  | unclosed joined rest read =>
    rw [List.cons_append, text_unclosed read, text_unclosed (Quoted.read_append_none read (unquoted_blank blank))]
    rfl
  | quoted joined rest body after read ih =>
    rw [List.cons_append, text_quoted read, text_quoted (Quoted.read_append read (stops_quote_blank blank)), ih,
      List.append_assoc]
  | reference joined c rest r after quote read ih =>
    have same := Reference.scan_append (c :: rest) (stops_blank blank)
    have apart : b ≠ '(' := by
      intro paren
      subst paren
      cases blank
    have sides : joins (after ++ [b]).head? = joins after.head? ∧
        ((after ++ [b]).head? == some '(') = (after.head? == some '(') := by
      cases after with
      | nil => exact ⟨Token.isWordChar_of_isBlank blank, by simpa using apart⟩
      | cons d after => exact ⟨rfl, rfl⟩
    rw [read, List.cons_append] at same
    rw [List.cons_append, text_reference quote read, text_reference quote same, sides.1, sides.2, ih, List.append_assoc]
  | other joined c rest quote read ih =>
    have same := Reference.scan_append (c :: rest) (stops_blank blank)
    rw [read, List.cons_append] at same
    rw [List.cons_append, text_other quote read, text_other quote same, ih]
    rfl

theorem Undollared.of_concat {cs : List Char} (undollared : Undollared (cs ++ [b])) : Undollared cs := by
  induction size : cs.length using Nat.strongRecOn generalizing cs with
  | ind n ih =>
    subst size
    cases cs with
    | nil => simp [Undollared, outsideQuotes]
    | cons c cs =>
      by_cases quote : c = '"'
      · subst quote
        cases read : Quoted.read cs with
        | none => exact Undollared.unclosed read
        | some found =>
          obtain ⟨body, after⟩ := found
          have rest := ih _ (Nat.lt_succ_of_lt (Quoted.length_of_read read))
            ((Undollared.quoted_iff (Quoted.read_append read (stops_quote_blank blank))).1 undollared) rfl
          exact (Undollared.quoted_iff read).2 rest
      · obtain ⟨other, rest⟩ := (Undollared.cons_iff quote).1 undollared
        exact (Undollared.cons_iff quote).2 ⟨other, ih _ (Nat.lt_succ_self _) rest rfl⟩

end Concat

/-- No blank stands at the end. -/
def Trimmed (cs : List Char) : Prop := ∀ c ∈ cs.getLast?, isBlank c = false

theorem trimmed_append {front rest : List Char} (some_char : rest ≠ []) :
    Trimmed (front ++ rest) ↔ Trimmed rest := by
  rw [Trimmed, Trimmed, List.getLast?_append, List.getLast?_eq_some_getLast some_char, Option.some_or]

theorem trimmed_of_isWordChar {cs : List Char} (word : ∀ c ∈ cs, Token.isWordChar c = true) : Trimmed cs := by
  intro c last
  cases blank : isBlank c with
  | false => rfl
  | true =>
    have part := word c (List.mem_of_getLast? last)
    rw [Token.isWordChar_of_isBlank blank] at part
    cases part

namespace Shift

variable {dr dc : Int}

theorem text_ne_nil (joined : Bool) {cs : List Char} (some_char : cs ≠ []) : text dr dc joined cs ≠ [] := by
  induction joined, cs using text_induction with
  | nil => exact absurd rfl some_char
  | unclosed joined rest read => simp [text_unclosed read]
  | quoted joined rest body after read => simp [text_quoted read, Quoted.write]
  | reference joined c rest r after quote read =>
    obtain ⟨r', sound, eq⟩ := text_sound dr dc joined quote read
    rw [eq]
    exact List.append_ne_nil_of_left_ne_nil sound.chars_ne_nil _
  | other joined c rest quote read => simp [text_other quote read]

theorem trimmed_front {front front' rest : List Char} {joined : Bool} (trimmed : Trimmed (front ++ rest))
    (ends : Trimmed front → Trimmed front') (next : Trimmed rest → Trimmed (text dr dc joined rest)) :
    Trimmed (front' ++ text dr dc joined rest) := by
  by_cases empty : rest = []
  · subst empty
    rw [List.append_nil] at trimmed
    rw [text_nil, List.append_nil]
    exact ends trimmed
  · rw [trimmed_append empty] at trimmed
    rw [trimmed_append (text_ne_nil joined empty)]
    exact next trimmed

theorem trimmed_text (joined : Bool) {cs : List Char} (trimmed : Trimmed cs) : Trimmed (text dr dc joined cs) := by
  induction joined, cs using text_induction with
  | nil => rwa [text_nil]
  | unclosed joined rest read => rwa [text_unclosed read]
  | quoted joined rest body after read ih =>
    have whole : '"' :: rest = Quoted.write body ++ after := by simp [Quoted.eq_body_of_read read, Quoted.write]
    rw [whole] at trimmed
    rw [text_quoted read]
    exact trimmed_front trimmed id ih
  | reference joined c rest r after quote read ih =>
    obtain ⟨r', sound, eq⟩ := text_sound dr dc joined quote read
    rw [Reference.eq_chars_of_scan read] at trimmed
    rw [eq]
    exact trimmed_front trimmed (fun _ => trimmed_of_isWordChar fun _ => sound.isWordChar) ih
  | other joined c rest quote read ih =>
    rw [text_other quote read]
    rw [← List.singleton_append] at trimmed ⊢
    exact trimmed_front trimmed id ih

theorem rdropWhile_text (joined : Bool) (cs : List Char) :
    (text dr dc joined cs).rdropWhile isBlank = text dr dc joined (cs.rdropWhile isBlank) := by
  induction cs using List.reverseRecOn with
  | nil => simp
  | append_singleton cs c ih =>
    cases blank : isBlank c with
    | true => rw [text_concat blank, List.rdropWhile_concat_pos _ _ _ blank,
      List.rdropWhile_concat_pos _ _ _ blank, ih]
    | false =>
      have solid : ¬ isBlank c = true := by simp [blank]
      have trimmed : Trimmed (cs ++ [c]) := by simpa [Trimmed] using blank
      rw [List.rdropWhile_concat_neg _ _ _ solid, List.rdropWhile_eq_self_iff]
      intro some_char
      have solid' : Trimmed (text dr dc joined (cs ++ [c])) := trimmed_text joined trimmed
      simp [solid' _ (List.getLast?_eq_some_getLast some_char)]

end Shift

theorem Undollared.rdropWhile {cs : List Char} (undollared : Undollared cs) :
    Undollared (cs.rdropWhile isBlank) := by
  induction cs using List.reverseRecOn with
  | nil => simpa using undollared
  | append_singleton cs c ih =>
    cases blank : isBlank c with
    | true =>
      rw [List.rdropWhile_concat_pos _ _ _ blank]
      exact ih (undollared.of_concat blank)
    | false =>
      rw [List.rdropWhile_concat_neg _ _ _ (by simp [blank])]
      exact undollared

theorem trimChars_equals (cs : List Char) : trimChars ('=' :: cs) = '=' :: cs.rdropWhile isBlank :=
  trimChars_append_cons rfl [] cs

end Spreadsheet.Formula
