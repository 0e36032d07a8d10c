import Spreadsheet.Proofs.Formula.MovedPiece

/-! Where moved references lead. The word of a reference is moved to a reference to its target, unless the column of the
target has more letters than a reference may have: then it is moved to a name, or to no token at all. -/
namespace Spreadsheet.Formula

open Text Token

namespace Reference

/-- The index an offset leads to, the index itself if it is anchored. -/
def along (anchored : Bool) (offset : Int) (index : Nat) : Int :=
  if anchored then index else index + offset

/-- The cell in the grid that the moved reference leads to, anchored parts kept; none if it would leave the grid. -/
def target? (dr dc : Int) (r : Reference) (p : Position) : Option Position :=
  let row := along r.rowAnchored dr p.row
  let col := along r.colAnchored dc p.col
  if 0 ≤ row ∧ row + 1 < indexLimit ∧ 0 ≤ col ∧ col < indexLimit then some ⟨row.toNat, col.toNat⟩ else none

/-- The cell that the reference leads to after moving; it stays where it is if it would leave the grid. -/
def target (dr dc : Int) (r : Reference) (p : Position) : Position :=
  (r.target? dr dc p).getD p

variable {dr dc : Int} {r : Reference} {p : Position}

theorem shiftIndex_eq (anchored : Bool) (offset : Int) {index : Nat} (fits : index < indexLimit) :
    shiftIndex anchored offset index =
      if 0 ≤ along anchored offset index ∧ along anchored offset index < indexLimit then
        some (along anchored offset index).toNat
      else none := by
  cases anchored with
  | true => simp [shiftIndex, along, fits]
  | false => simp [shiftIndex, along]

theorem along_succ (anchored : Bool) (offset : Int) (index : Nat) :
    along anchored offset (index + 1) = along anchored offset index + 1 := by
  unfold along
  split <;> omega

theorem row_lt (position : r.position? = some p) : p.row + 1 < indexLimit := by
  have row := (of_position? position).1
  exact lt_of_readNumeral (Option.filter_eq_some_iff.1 row).1

theorem col_le (short : r.letters.length ≤ 3) (position : r.position? = some p) : p.col ≤ Column.last :=
  Column.le_last_of_ofLetters? short (of_position? position).2

theorem shifted?_eq (short : r.letters.length ≤ 3) (position : r.position? = some p) :
    r.shifted? dr dc =
      (r.target? dr dc p).map fun q => ⟨r.colAnchored, Column.letters q.col, r.rowAnchored, numeral (q.row + 1)⟩ := by
  obtain ⟨row, col⟩ := of_position? position
  have near : Column.last < indexLimit := by decide
  have fits := Nat.lt_of_le_of_lt (col_le short position) near
  simp only [shifted?, row, col, shiftIndex_eq _ _ fits, shiftIndex_eq _ _ (row_lt position), along_succ, target?,
    Option.bind_eq_bind, Option.bind_some]
  generalize along r.rowAnchored dr p.row = i
  generalize along r.colAnchored dc p.col = j
  by_cases inside : 0 ≤ i ∧ i + 1 < indexLimit ∧ 0 ≤ j ∧ j < indexLimit
  · have next : (i + 1).toNat = i.toNat + 1 := by omega
    rw [if_pos inside, if_pos inside.2.2, if_pos (by omega)]
    simp [next]
  · rw [if_neg inside]
    by_cases wide : 0 ≤ j ∧ j < indexLimit
    · by_cases zero : i + 1 = 0
      · simp [wide, zero, indexLimit]
      · rw [if_pos wide, if_neg (by omega)]
        rfl
    · rw [if_neg wide]
      rfl

theorem target_zero (r : Reference) (p : Position) : r.target 0 0 p = p := by
  have still (anchored : Bool) (index : Nat) : along anchored 0 index = index := by cases anchored <;> simp [along]
  simp only [target, target?, still]
  split <;> rfl

theorem row_lt_of_target? {q : Position} (leads : r.target? dr dc p = some q) : q.row + 1 < indexLimit := by
  simp only [target?] at leads
  split at leads
  next inside =>
    cases leads
    dsimp only
    omega
  next => cases leads

theorem Sound.ofWord_chars (sound : r.Sound) (short : r.letters.length ≤ 3) (position : r.position? = some p) :
    ofWord r.chars = .ok (.ref p) := by
  have stops : Stops Char.isDigit [] := nofun
  have whole := sound.scan_append stops
  rw [List.append_nil, if_pos short] at whole
  simp only [ofWord, whole, position]

theorem Sound.ofWord_long (sound : r.Sound) (long : 3 < r.letters.length) :
    ofWord r.chars = ofWord.ofName r.chars := by
  have stops : Stops Char.isDigit [] := nofun
  have none := sound.scan_append stops
  rw [List.append_nil, if_neg (Nat.not_le_of_lt long)] at none
  simp only [ofWord, none]

end Reference

namespace Token

theorem name_of_ofName {w : List Char} {t : Token} (token : ofWord.ofName w = .ok t) : ∃ n, t = .name n := by
  rw [ofWord.ofName] at token
  split at token
  next => cases token
  next =>
    cases token
    exact ⟨_, rfl⟩

theorem ofWord_cases {w : List Char} {t : Token} (token : ofWord w = .ok t) :
    (∃ r p, Reference.scan w = some (r, []) ∧ r.position? = some p ∧ t = .ref p) ∨ ∃ n, t = .name n := by
  unfold ofWord at token
  split at token
  next r read =>
    split at token
    next p position =>
      cases token
      exact .inl ⟨r, p, read, position, rfl⟩
    next => exact .inr (name_of_ofName token)
  next => exact .inr (name_of_ofName token)

end Token

namespace Piece

variable {dr dc : Int} {p : Piece} {r : Reference} {q : Position}

/-- The reference that the piece is, with the cell it refers to. -/
def reference? : Piece → Option (Reference × Position)
  | word w => match Reference.scan w with
    | some (r, []) => r.position?.map (r, ·)
    | _ => none
  | other _ => none

/-- The token of the piece, with the target of its reference if it is one. -/
def tokenMoved (dr dc : Int) (p : Piece) : Except FormulaError Token :=
  match p.reference? with
  | some (r, q) => .ok (.ref (r.target dr dc q))
  | none => p.token

def moved (dr dc : Int) : Piece → Piece
  | word w => word (movedWord dr dc w)
  | other t => other t

/-- The piece is no reference, or one whose target is not past the last column that references can name. -/
def Named (dr dc : Int) (p : Piece) : Prop :=
  ∀ r q, p.reference? = some (r, q) → (r.target dr dc q).col ≤ Column.last

instance (dr dc : Int) (p : Piece) : Decidable (p.Named dr dc) :=
  decidable_of_iff (∀ found ∈ p.reference?, (found.1.target dr dc found.2).col ≤ Column.last)
    ⟨fun all r q reference => all (r, q) reference, fun named found reference => named found.1 found.2 reference⟩

theorem reference?_eq_some_iff :
    p.reference? = some (r, q) ↔ ∃ w, p = word w ∧ Reference.scan w = some (r, []) ∧ r.position? = some q := by
  cases p with
  | other t => simp [reference?]
  | word w =>
    simp only [reference?, word.injEq, exists_eq_left']
    split
    next r' read =>
      simp only [read, Option.map_eq_some_iff, Option.some.injEq, Prod.mk.injEq, and_true]
      constructor
      · rintro ⟨q', position, rfl, rfl⟩
        exact ⟨rfl, position⟩
      · rintro ⟨rfl, position⟩
        exact ⟨q, position, rfl, rfl⟩
    next other =>
      constructor
      · exact nofun
      · rintro ⟨read, _⟩
        exact absurd read (other r)

theorem token_of_reference? (reference : p.reference? = some (r, q)) : p.token = .ok (.ref q) := by
  obtain ⟨w, rfl, read, position⟩ := reference?_eq_some_iff.1 reference
  simp only [token, ofWord, read, position]

theorem moved_of_reference?_none (none : p.reference? = none) : p.moved dr dc = p := by
  cases p with
  | other t => rfl
  | word w =>
    simp only [moved, movedWord]
    split
    next r read =>
      have nowhere : r.position? = Option.none := by simpa [reference?, read] using none
      have whole : w = r.chars := by simpa using Reference.eq_chars_of_scan read
      rw [Reference.shifted?_none nowhere, Option.getD_none, whole]
    next => rfl

theorem reference?_of_token {w : List Char} (token : (word w).token = .ok (.ref q)) :
    ∃ r, (word w).reference? = some (r, q) := by
  rcases ofWord_cases token with ⟨r, p, read, position, same⟩ | ⟨n, same⟩
  · cases same
    exact ⟨r, reference?_eq_some_iff.2 ⟨w, rfl, read, position⟩⟩
  · cases same

theorem moved_of_token {w : List Char} {t : Token} (token : (word w).token = .ok t) (other : ∀ q, t ≠ .ref q) :
    (word w).moved dr dc = word w := by
  apply moved_of_reference?_none
  cases reference : (word w).reference? with
  | none => rfl
  | some found =>
    rw [token_of_reference? reference] at token
    cases token
    exact absurd rfl (other found.2)

theorem token_moved_reference (reference : p.reference? = some (r, q)) :
    (p.moved dr dc).token =
      if (r.target dr dc q).col ≤ Column.last then .ok (.ref (r.target dr dc q))
      else ofWord.ofName (movedWord dr dc r.chars) := by
  obtain ⟨w, rfl, read, position⟩ := reference?_eq_some_iff.1 reference
  obtain ⟨sound, short⟩ := Reference.scan_sound read
  obtain rfl : w = r.chars := by simpa using Reference.eq_chars_of_scan read
  simp only [moved, token, movedWord, read, Reference.shifted?_eq short position, Reference.target]
  cases leads : r.target? dr dc q with
  | none =>
    simp only [Option.map_none, Option.getD_none]
    rw [if_pos (Reference.col_le short position), sound.ofWord_chars short position]
  | some q' =>
    have moved : r.shifted? dr dc = some ⟨r.colAnchored, Column.letters q'.col, r.rowAnchored, numeral (q'.row + 1)⟩ := by
      rw [Reference.shifted?_eq short position, leads, Option.map_some]
    have sound' := Reference.sound_shifted moved
    simp only [Option.map_some, Option.getD_some]
    split
    next near =>
      have low : Column.last + 1 < indexLimit := by decide
      refine sound'.ofWord_chars (Column.length_letters_le_iff.2 near) (Reference.position?_of ?_ ?_)
      · simp [Reference.row?, readNumeral_numeral (Reference.row_lt_of_target? leads)]
      · exact Column.ofLetters?_letters (by omega)
    next far => exact sound'.ofWord_long (Column.lt_length_letters_iff.2 (Nat.lt_of_not_le far))

theorem Named.token_moved (named : p.Named dr dc) : (p.moved dr dc).token = p.tokenMoved dr dc := by
  cases reference : p.reference? with
  | none =>
    rw [moved_of_reference?_none reference]
    simp only [tokenMoved, reference]
  | some found =>
    rw [token_moved_reference reference, if_pos (named _ _ reference)]
    simp only [tokenMoved, reference]

theorem named_zero (p : Piece) : p.Named 0 0 := by
  intro r q reference
  obtain ⟨w, _, read, position⟩ := reference?_eq_some_iff.1 reference
  rw [Reference.target_zero]
  exact Reference.col_le (Reference.scan_sound read).2 position

theorem tokenMoved_zero : tokenMoved 0 0 = token := by
  funext p
  cases reference : p.reference? with
  | none => simp only [tokenMoved, reference]
  | some found => simp only [tokenMoved, reference, Reference.target_zero, token_of_reference? reference]

end Piece

end Spreadsheet.Formula
