import Spreadsheet.Formula.Token
import Spreadsheet.Proofs.Column

/-! References as text. A reference is scanned whole from the front of any text that does not go on with a digit, unless
it has more letters than columns have. -/
namespace Spreadsheet

open Text

namespace Formula.Reference

/-- Letters and digits, at least one of each. -/
structure Sound (r : Reference) : Prop where
  letters : r.letters ≠ []
  alpha : ∀ c ∈ r.letters, c.isAlpha = true
  digits : r.digits ≠ []
  numeric : ∀ c ∈ r.digits, c.isDigit = true

/-- No dollar signs stand in front. -/
structure Plain (r : Reference) : Prop extends Sound r where
  col : r.colAnchored = false
  row : r.rowAnchored = false

theorem scanAnchor_of_ne {cs : List Char} (other : cs.head? ≠ some '$') : scanAnchor cs = (false, cs) := by
  unfold scanAnchor
  split
  next => exact absurd rfl other
  next => rfl

theorem scan_cons_none {c : Char} (other : c.isAlpha = false) (sign : c ≠ '$') (cs : List Char) :
    scan (c :: cs) = none := by
  have first : scanAnchor (c :: cs) = (false, c :: cs) := scanAnchor_of_ne (by simpa using sign)
  simp [scan, first, other]

variable {r : Reference}

theorem Sound.chars_ne_nil (sound : r.Sound) : r.chars ≠ [] := by
  simp [chars, sound.letters]

theorem Sound.isWordChar (sound : r.Sound) {c : Char} (member : c ∈ r.chars) : Token.isWordChar c = true := by
  have sign {anchored : Bool} (member : c ∈ anchor anchored) : c = '$' := by
    cases anchored with
    | false => cases member
    | true => exact List.mem_singleton.1 member
  simp only [chars, List.mem_append] at member
  rcases member with ((signed | letter) | signed) | digit
  · simp [Token.isWordChar, sign signed]
  · simp [Token.isWordChar, Char.isAlphanum, sound.alpha c letter]
  · simp [Token.isWordChar, sign signed]
  · simp [Token.isWordChar, Char.isAlphanum, sound.numeric c digit]

theorem Sound.head (sound : r.Sound) : ∃ c run, r.chars = c :: run ∧ Token.isWordStart c = true := by
  cases anchored : r.colAnchored with
  | true => exact ⟨'$', _, by simp only [chars, anchor, anchored, if_true, List.cons_append]; rfl, rfl⟩
  | false =>
    obtain ⟨c, cs, eq⟩ := List.exists_cons_of_ne_nil sound.letters
    refine ⟨c, _, by simp only [chars, anchor, anchored, eq]; rfl, ?_⟩
    simp [Token.isWordStart, sound.alpha c (by simp [eq])]

theorem scanAnchor_anchor (anchored : Bool) {cs : List Char} (plain : cs.head? ≠ some '$') :
    scanAnchor (anchor anchored ++ cs) = (anchored, cs) := by
  cases anchored with
  | false => exact scanAnchor_of_ne plain
  | true => rfl

theorem head_append_ne {p : Char → Bool} (sign : p '$' = false) {run : List Char} (nonempty : run ≠ [])
    (all : ∀ c ∈ run, p c = true) (rest : List Char) : (run ++ rest).head? ≠ some '$' := by
  obtain ⟨c, cs, rfl⟩ := List.exists_cons_of_ne_nil nonempty
  intro same
  cases same
  simp [all '$' List.mem_cons_self] at sign

/-- A reference with more letters than columns have is not scanned, any other one is scanned whole. -/
theorem Sound.scan_append (sound : r.Sound) {rest : List Char} (stops : Stops Char.isDigit rest) :
    scan (r.chars ++ rest) = if r.letters.length ≤ 3 then some (r, rest) else none := by
  have unsigned : (r.digits ++ rest).head? ≠ some '$' := head_append_ne rfl sound.digits sound.numeric rest
  have ends : Stops Char.isAlpha (anchor r.rowAnchored ++ (r.digits ++ rest)) := by
    intro c first
    cases anchored : r.rowAnchored with
    | true =>
      rw [anchored] at first
      cases first
      rfl
    | false =>
      obtain ⟨d, ds, digits⟩ := List.exists_cons_of_ne_nil sound.digits
      rw [anchored, digits] at first
      cases first
      exact isAlpha_of_isDigit (sound.numeric _ (by simp [digits]))
  simp only [chars, List.append_assoc, scan,
    scanAnchor_anchor _ (head_append_ne rfl sound.letters sound.alpha _), takeWhile_append sound.alpha ends,
    dropWhile_append sound.alpha ends, scanAnchor_anchor _ unsigned, takeWhile_append sound.numeric stops,
    dropWhile_append sound.numeric stops]
  by_cases short : r.letters.length ≤ 3
  · rw [if_neg (by simp [sound.letters, sound.digits, short]), if_pos short]
  · rw [if_pos (by simp [Nat.lt_of_not_le short]), if_neg short]

theorem scanAnchor_append (cs : List Char) {rest : List Char} (stops : Stops Token.isWordChar rest) :
    scanAnchor (cs ++ rest) = ((scanAnchor cs).1, (scanAnchor cs).2 ++ rest) := by
  cases cs with
  | nil =>
    apply scanAnchor_of_ne
    intro first
    cases stops '$' first
  | cons c cs =>
    by_cases sign : c = '$'
    · subst sign
      rfl
    · have first : scanAnchor (c :: cs) = (false, c :: cs) := scanAnchor_of_ne (by simpa using sign)
      rw [first]
      exact scanAnchor_of_ne (by simpa using sign)

theorem scan_append (cs : List Char) {rest : List Char} (stops : Stops Token.isWordChar rest) :
    scan (cs ++ rest) = (scan cs).map fun (r, after) => (r, after ++ rest) := by
  have alpha : Stops Char.isAlpha rest :=
    stops.mono fun c alpha => by simp [Token.isWordChar, Char.isAlphanum, alpha]
  have digit : Stops Char.isDigit rest :=
    stops.mono fun c digit => by simp [Token.isWordChar, Char.isAlphanum, digit]
  simp only [scan, scanAnchor_append _ stops, takeWhile_append_stops _ alpha, dropWhile_append_stops _ alpha,
    takeWhile_append_stops _ digit, dropWhile_append_stops _ digit]
  split <;> rfl

theorem scan_sound {cs after : List Char} (read : scan cs = some (r, after)) : r.Sound ∧ r.letters.length ≤ 3 := by
  simp only [scan] at read
  split at read
  next => cases read
  next shape =>
    cases read
    simp only [Bool.or_eq_true, List.isEmpty_iff, decide_eq_true_eq, not_or, Nat.not_lt] at shape
    exact ⟨⟨shape.1.1, fun c => List.mem_takeWhile_imp, shape.2, fun c => List.mem_takeWhile_imp⟩, shape.1.2⟩

theorem plain_of_scan {cs after : List Char} (read : scan cs = some (r, after)) (unsigned : '$' ∉ r.chars) :
    r.Plain := by
  refine ⟨(scan_sound read).1, ?_, ?_⟩
  · cases anchored : r.colAnchored with
    | false => rfl
    | true => exact absurd (by simp [chars, anchored, anchor]) unsigned
  · cases anchored : r.rowAnchored with
    | false => rfl
    | true => exact absurd (by simp [chars, anchored, anchor]) unsigned

theorem ofWord_unsigned {word : List Char} (unsigned : '$' ∉ word) : ∃ t, Token.ofWord word = .ok t := by
  have name : Token.ofWord.ofName word = .ok (.name (String.ofList (word.map Char.toUpper))) := if_neg unsigned
  unfold Token.ofWord
  split
  next r _ =>
    split
    next p _ => exact ⟨.ref p, rfl⟩
    next => exact ⟨_, name⟩
  next => exact ⟨_, name⟩

theorem of_position? {p : Position} (position : r.position? = some p) :
    r.row? = some (p.row + 1) ∧ r.col? = some p.col := by
  obtain ⟨n, row, rest⟩ := Option.bind_eq_some_iff.1 position
  obtain ⟨m, col, same⟩ := Option.bind_eq_some_iff.1 rest
  have positive : 0 < n := by simpa using (Option.filter_eq_some_iff.1 row).2
  cases same
  exact ⟨by rw [row, Nat.sub_add_cancel positive], col⟩

theorem position?_of {p : Position} (row : r.row? = some (p.row + 1)) (col : r.col? = some p.col) :
    r.position? = some p := by
  simp [position?, row, col]

end Formula.Reference

/-- One position is the other moved by rows and columns. -/
structure Position.Moves (dr dc : Int) (p q : Position) : Prop where
  row : (q.row : Int) = p.row + dr
  col : (q.col : Int) = p.col + dc

/-- The cell moves to one that references can name, above the last row number and not past the last column. -/
def Position.Lands (dr dc : Int) (p : Position) : Prop :=
  ∃ q, p.Moves dr dc q ∧ q.row + 1 < indexLimit ∧ q.col ≤ Column.last

namespace Formula.Reference

variable {r : Reference} {dr dc : Int}

theorem shifted?_none (nowhere : r.position? = none) : r.shifted? dr dc = none := by
  cases row : r.row? with
  | none => cases col : r.col? <;> simp [shifted?, row, col]
  | some n =>
    cases col : r.col? with
    | none => simp [shifted?, col]
    | some m => simp [position?, row, col] at nowhere

theorem shifted_eq {r' : Reference} (moved : r.shifted? dr dc = some r') :
    ∃ col row, r' = ⟨r.colAnchored, Column.letters col, r.rowAnchored, numeral row⟩ := by
  obtain ⟨col, _, rest⟩ := Option.bind_eq_some_iff.1 moved
  obtain ⟨col', _, rest⟩ := Option.bind_eq_some_iff.1 rest
  obtain ⟨row, _, rest⟩ := Option.bind_eq_some_iff.1 rest
  obtain ⟨row', _, rest⟩ := Option.bind_eq_some_iff.1 rest
  split at rest
  next => cases rest
  next =>
    cases rest
    exact ⟨col', row', rfl⟩

theorem sound_shifted {r' : Reference} (moved : r.shifted? dr dc = some r') : r'.Sound := by
  obtain ⟨col, row, rfl⟩ := shifted_eq moved
  exact ⟨Column.letters_ne_nil _, fun _ => Column.isAlpha_of_mem_letters, numeral_ne_nil _, fun _ => isDigit_of_mem_numeral⟩

end Formula.Reference

end Spreadsheet
