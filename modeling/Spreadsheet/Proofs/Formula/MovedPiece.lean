import Spreadsheet.Proofs.Formula.Piece
import Spreadsheet.Proofs.Formula.Shift

/-! The pieces of a moved text. It is cut where the text was cut, into the same pieces but for words that are references,
which are moved, unless they stand right behind a number or right before an opening parenthesis. -/
namespace Spreadsheet.Formula

open Text Token

variable {dr dc : Int}

def Token.isNumber : Token → Bool
  | .number _ => true
  | _ => false

/-- The word with its reference moved, if it is one. -/
def movedWord (dr dc : Int) (w : List Char) : List Char :=
  match Reference.scan w with
  | some (r, []) => ((r.shifted? dr dc).getD r).chars
  | _ => w

namespace Piece

/-- Pieces and those of the moved text. Behind a number words may be kept, and so they are before a parenthesis if none
stands between. -/
inductive Moved (dr dc : Int) : Bool → List Piece → List Piece → Prop
  | nil {behind : Bool} : Moved dr dc behind [] []
  | other {behind : Bool} (t : Token) {ps ps' : List Piece} (others : Moved dr dc t.isNumber ps ps') :
    Moved dr dc behind (.other t :: ps) (.other t :: ps')
  | word {behind : Bool} (w : List Char) {ps ps' : List Piece} (others : Moved dr dc false ps ps') :
    Moved dr dc behind (.word w :: ps) (.word (movedWord dr dc w) :: ps')
  | behind (w : List Char) {ps ps' : List Piece} (others : Moved dr dc false ps ps') :
    Moved dr dc true (.word w :: ps) (.word w :: ps')
  | called {behind : Bool} (w : List Char) {ps ps' : List Piece} (others : Moved dr dc false ps ps') :
    Moved dr dc behind (.word w :: .other .openParen :: ps) (.word w :: .other .openParen :: ps')

end Piece

theorem Reference.Sound.isWord {r : Reference} (sound : r.Sound) : IsWord r.chars :=
  ⟨sound.head, fun _ => sound.isWordChar⟩

theorem isWord_movedWord {w : List Char} (word : IsWord w) : IsWord (movedWord dr dc w) := by
  unfold movedWord
  split
  next r read => exact (Shift.sound_moved dr dc (Reference.scan_sound read).1 false).isWord
  next => exact word

namespace Shift

theorem text_run {run : List Char} (chars : ∀ c ∈ run, isWordChar c = true) (rest : List Char) :
    text dr dc true (run ++ rest) = run ++ text dr dc true rest := by
  induction run with
  | nil => rfl
  | cons c run ih =>
    rw [List.cons_append, text_word (chars c List.mem_cons_self), ih fun d inside => chars d (List.mem_cons_of_mem _ inside)]
    rfl

theorem stops_text_word {rest : List Char} (stops : Stops isWordChar rest) :
    Stops isWordChar (text dr dc true rest) := by
  cases rest with
  | nil => simpa using stops
  | cons c rest =>
    obtain ⟨others, eq⟩ : ∃ others, text dr dc true (c :: rest) = c :: others := text_cons rest (.inl rfl)
    rw [eq]
    exact stops_cons (stops c rfl)

theorem text_isWord {w rest : List Char} (word : IsWord w) (stops : Stops isWordChar rest) :
    text dr dc false (w ++ rest) =
      (if rest.head? = some '(' then w else movedWord dr dc w) ++ text dr dc true rest := by
  have scanned := Reference.scan_append w stops
  obtain ⟨c, run, eq, start⟩ := word.start
  have chars := word.chars
  have quote := ne_quote_of_isWordChar (isWordChar_of_isWordStart start)
  cases read : Reference.scan w with
  | none =>
    have kept : movedWord dr dc w = w := by simp [movedWord, read]
    subst eq
    rw [read, Option.map_none, List.cons_append] at scanned
    rw [kept, ite_self, List.cons_append, text_other quote scanned, isWordChar_of_isWordStart start,
      text_run fun d inside => chars d (List.mem_cons_of_mem _ inside)]
    rfl
  | some found =>
    obtain ⟨r, after⟩ := found
    have whole := Reference.eq_chars_of_scan read
    rw [read, Option.map_some] at scanned
    rw [eq, List.cons_append] at scanned ⊢
    rw [text_reference quote scanned, ← eq]
    cases after with
    | nil =>
      have moved : movedWord dr dc w = ((r.shifted? dr dc).getD r).chars := by simp [movedWord, read]
      have free : joins rest.head? = false := by
        cases first : rest.head? with
        | none => rfl
        | some d => exact stops d first
      rw [List.append_nil] at whole
      by_cases paren : rest.head? = some '('
      · simp [paren, whole]
      · simp [paren, free, moved]
    | cons d after =>
      have kept : movedWord dr dc w = w := by simp [movedWord, read]
      have inside : ∀ e ∈ d :: after, isWordChar e = true := fun e inside => chars e (whole ▸ List.mem_append_right _ inside)
      have joined : joins ((d :: after) ++ rest).head? = true := inside d List.mem_cons_self
      rw [joined, Bool.false_or, Bool.true_or, if_pos rfl, text_run inside, kept, ite_self, whole, List.append_assoc]

theorem takeNumber_text (c : Char) (cs : List Char) :
    takeNumber c (text dr dc true cs) = ((takeNumber c cs).1, text dr dc true (takeNumber c cs).2) := by
  have inside (d : Char) (part : isNumberChar d = true) := isWordChar_of_isNumberChar part
  simp only [takeNumber, takeWhile_text inside, dropWhile_text inside, takeExponent_text]

end Shift

theorem Stuck.text {cs : List Char} (stuck : Stuck cs) (joined : Bool) : Stuck (Shift.text dr dc joined cs) := by
  cases stuck with
  | unclosed unclosed =>
    rw [Shift.text_unclosed unclosed]
    exact .unclosed unclosed
  | @number c cs e start number unread =>
    have word := isWordChar_of_isNumberChar number
    have unread' : ofNumber (takeNumber c (Shift.text dr dc true cs)).1 = .error e := by
      rw [Shift.takeNumber_text]
      exact unread
    rw [Shift.text_plain (ne_quote_of_isWordChar word) start, word]
    exact .number start number unread'
  | other cs solid start number =>
    rw [Shift.text_plain solid.quote start]
    exact .other _ solid start number

theorem Cut.called {whole : Bool} {cs : List Char} {ps : List Piece} (cut : Cut whole cs ps)
    (paren : cs.head? = some '(') : ∃ qs, ps = .other .openParen :: qs := by
  cases cut with
  | nil => cases paren
  | stuck stuck =>
    cases stuck with
    | unclosed => cases paren
    | number start number =>
      cases paren
      cases number
    | other _ solid =>
      cases paren
      cases solid.symbol
  | blank blank =>
    cases paren
    simp at blank
  | symbol symbol =>
    cases paren
    cases symbol
    exact ⟨_, rfl⟩
  | quoted => cases paren
  | word word =>
    obtain ⟨c, run, rfl, start⟩ := word.start
    cases paren
    cases start
  | number start number =>
    cases paren
    cases number

/-- The moved text is cut into the moved pieces. Where a word goes on in front, a number must end there. -/
theorem Cut.text {whole : Bool} {cs : List Char} {ps : List Piece} (cut : Cut whole cs ps) (joined behind : Bool)
    (ends : joined = true → Stops isWordChar cs ∨ behind = true) :
    ∃ ps', Piece.Moved dr dc behind ps ps' ∧ Cut whole (Shift.text dr dc joined cs) ps' := by
  induction cut generalizing joined behind with
  | nil =>
    rw [Shift.text_nil]
    exact ⟨[], .nil, .nil⟩
  | stuck stuck => exact ⟨[], .nil, .stuck (stuck.text joined)⟩
  | @blank _ c cs ps blank _ ih =>
    have plain : c ≠ '"' ∧ isWordStart c = false ∧ isWordChar c = false := by
      rcases blank with rfl | rfl <;> decide
    obtain ⟨ps', moved, others⟩ := ih false behind nofun
    rw [Shift.text_plain plain.1 plain.2.1, plain.2.2]
    exact ⟨ps', moved, .blank blank others⟩
  | @symbol _ c cs ps t symbol _ ih =>
    obtain ⟨_, quote, start, space⟩ := plain_of_symbol symbol
    obtain ⟨ps', moved, others⟩ := ih false t.isNumber nofun
    rw [Shift.text_plain quote start, space]
    exact ⟨_, .other t moved, .symbol symbol others⟩
  | @quoted _ cs body rest ps read _ ih =>
    have starts (c : Char) (start : isWordStart c = true) : (c == '"') = false := by
      rw [beq_eq_false_iff_ne]
      exact ne_quote_of_isWordChar (isWordChar_of_isWordStart start)
    have stops : Stops (· == '"') (Shift.text dr dc false rest) := Shift.stops_text starts (Quoted.stops_of_read read)
    obtain ⟨ps', moved, others⟩ := ih false false nofun
    rw [Shift.text_quoted read, Quoted.write, List.cons_append, List.append_assoc, List.singleton_append]
    exact ⟨_, .other _ moved, .quoted (Quoted.read_body body stops) others⟩
  | @word _ w rest ps word stops cut ih =>
    obtain ⟨ps', moved, others⟩ := ih true false fun _ => .inl stops
    have stops' : Stops isWordChar (Shift.text dr dc true rest) := Shift.stops_text_word stops
    cases joined with
    | true =>
      -- where a word goes on, this is what follows a number
      obtain rfl : behind = true := by
        obtain ⟨c, run, rfl, start⟩ := word.start
        apply (ends rfl).resolve_left
        intro outside
        have apart : isWordChar c = false := outside c rfl
        simp [isWordChar_of_isWordStart start] at apart
      rw [Shift.text_run word.chars]
      exact ⟨_, .behind w moved, .word word stops' others⟩
    | false =>
      rw [Shift.text_isWord word stops]
      split
      next paren =>
        obtain ⟨qs, rfl⟩ := cut.called paren
        cases moved with
        | other _ moved => exact ⟨_, .called w moved, .word word stops' others⟩
      next => exact ⟨_, .word w moved, .word (isWord_movedWord word) stops' others⟩
  | @number _ c cs ps x start number read _ ih =>
    have word := isWordChar_of_isNumberChar number
    obtain ⟨ps', moved, others⟩ := ih true true fun _ => .inr rfl
    rw [Shift.text_plain (ne_quote_of_isWordChar word) start, word]
    refine ⟨_, .other (.number x) moved, .number start number ?_ ?_⟩
    · rw [Shift.takeNumber_text]
      exact read
    · rw [Shift.takeNumber_text]
      exact others

end Spreadsheet.Formula
