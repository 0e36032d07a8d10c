import Spreadsheet.Proofs.Formula.Grammar
import Spreadsheet.Proofs.Formula.Target

/-! Translated formulas. Scanning a moved text gives the moved tokens, but for references that cannot be part of an
expression anyway, so that reading gives the moved expression or fails alike. -/
namespace Spreadsheet.Formula

open Text

/-- What stands outside quoted text; a quote that is not closed takes all that follows it. -/
def outsideQuotes (cs : List Char) : List Char :=
  match cs with
  | [] => []
  | c :: cs =>
    if c = '"' then
      match _h : Quoted.read cs with
      | some (_, rest) => outsideQuotes rest
      | none => []
    else c :: outsideQuotes cs
termination_by cs.length
decreasing_by
  · exact Nat.lt_succ_of_lt (Quoted.length_of_read _h)
  · simp

/-- No dollar sign stands outside quoted text. -/
def Undollared (cs : List Char) : Prop := '$' ∉ outsideQuotes cs

namespace Undollared

variable {c : Char} {cs : List Char}

theorem cons_iff (plain : c ≠ '"') : Undollared (c :: cs) ↔ '$' ≠ c ∧ Undollared cs := by
  rw [Undollared, outsideQuotes, if_neg plain, List.mem_cons, not_or]
  rfl

theorem tail (plain : c ≠ '"') (undollared : Undollared (c :: cs)) : Undollared cs :=
  ((cons_iff plain).1 undollared).2

theorem quoted_iff {body rest : List Char} (read : Quoted.read cs = some (body, rest)) :
    Undollared ('"' :: cs) ↔ Undollared rest := by
  rw [Undollared, Undollared, outsideQuotes, if_pos rfl]
  split
  next body' rest' same =>
    rw [read] at same
    cases same
    rfl
  next none => simp [read] at none

theorem unclosed (open_ : Quoted.read cs = none) : Undollared ('"' :: cs) := by
  rw [Undollared, outsideQuotes, if_pos rfl]
  split
  next same => simp [open_] at same
  next => exact List.not_mem_nil

theorem dropWhile {p : Char → Bool} (plain : ∀ c, p c = true → c ≠ '"') (undollared : Undollared cs) :
    Undollared (cs.dropWhile p) := by
  induction cs with
  | nil => exact undollared
  | cons c cs ih =>
    cases run : p c with
    | true =>
      rw [List.dropWhile_cons_of_pos run]
      exact ih (undollared.tail (plain c run))
    | false =>
      rw [List.dropWhile_cons_of_neg (by simp [run])]
      exact undollared

theorem append_iff {run rest : List Char} (plain : ∀ c ∈ run, c ≠ '"') :
    Undollared (run ++ rest) ↔ '$' ∉ run ∧ Undollared rest := by
  induction run with
  | nil => simp
  | cons c run ih =>
    obtain ⟨first, others⟩ := List.forall_mem_cons.1 plain
    rw [List.cons_append, cons_iff first, ih others, List.mem_cons, not_or, and_assoc]

theorem takeSign (undollared : Undollared cs) : Undollared (Token.takeSign cs).2 := by
  unfold Token.takeSign
  split
  next => exact undollared.tail (by decide)
  next => exact undollared.tail (by decide)
  next => exact undollared

theorem takeExponent (undollared : Undollared cs) : Undollared (Token.takeExponent cs).2 := by
  cases cs with
  | nil => exact undollared
  | cons e cs =>
    cases letter : (e == 'e' || e == 'E') with
    | false =>
      rw [Token.takeExponent_none (.inl letter)]
      exact undollared
    | true =>
      by_cases empty : (Token.takeSign cs).2.takeWhile Char.isDigit = []
      · rw [Token.takeExponent_none (.inr empty)]
        exact undollared
      · have plain : e ≠ '"' := by
          intro same
          subst same
          cases letter
        rw [Token.takeExponent_some letter empty]
        exact (undollared.tail plain).takeSign.dropWhile fun _ => Token.ne_quote_of_isDigit

end Undollared

/-- Tokens and the tokens of the moved text. A reference is moved, unless it stands right behind a number or right before
an opening parenthesis. -/
inductive Moved (dr dc : Int) : Bool → List Token → List Token → Prop
  | nil {behind : Bool} : Moved dr dc behind [] []
  | other {behind : Bool} {t : Token} {ts ts' : List Token} (plain : ∀ p, t ≠ .ref p)
    (rest : Moved dr dc t.isNumber ts ts') :
    Moved dr dc behind (t :: ts) (t :: ts')
  | ref {behind : Bool} {p q : Position} {ts ts' : List Token} (moves : p.Moves dr dc q)
    (rest : Moved dr dc false ts ts') :
    Moved dr dc behind (.ref p :: ts) (.ref q :: ts')
  | behind (p : Position) {ts ts' : List Token} (rest : Moved dr dc false ts ts') :
    Moved dr dc true (.ref p :: ts) (.ref p :: ts')
  | called {behind : Bool} (p : Position) {ts ts' : List Token} (rest : Moved dr dc false ts ts') :
    Moved dr dc behind (.ref p :: .openParen :: ts) (.ref p :: .openParen :: ts')

section Scan

variable {dr dc : Int}

/-- The references that a text scans to land where they can be named. -/
def AllLand (dr dc : Int) (scanned : Except FormulaError (List Token)) : Prop :=
  ∀ ts, scanned = .ok ts → ∀ p, Token.ref p ∈ ts → p.Lands dr dc

theorem Orderly.not_ref {t : Token} {ts : List Token} (orderly : Orderly (t :: ts)) (number : t.isNumber = true)
    (p : Position) : ts.head? ≠ some (.ref p) := by
  intro first
  have step := (List.isChain_cons.1 orderly).1 (.ref p) first
  cases t with
  | number x => cases step
  | _ => cases number

/-- Words without dollar signs, and tokens that are no references. -/
def Piece.Plain : Piece → Prop
  | word w => '$' ∉ w
  | other t => ∀ p, t ≠ .ref p

theorem Cut.plain {whole : Bool} {cs : List Char} {ps : List Piece} (cut : Cut whole cs ps) (undollared : Undollared cs) :
    ∀ p ∈ ps, p.Plain := by
  induction cut with
  | nil => exact nofun
  | stuck => exact nofun
  | @blank _ c _ _ blank _ ih =>
    have quote : c ≠ '"' := by
      rintro rfl
      simp at blank
    exact ih (undollared.tail quote)
  | symbol symbol _ ih =>
    obtain ⟨other, quote, _⟩ := Token.plain_of_symbol symbol
    exact List.forall_mem_cons.2 ⟨other, ih (undollared.tail quote)⟩
  | quoted read _ ih =>
    exact List.forall_mem_cons.2 ⟨fun _ => Token.noConfusion, ih ((Undollared.quoted_iff read).1 undollared)⟩
  | word word _ _ ih =>
    have unquoted (c : Char) (inside : c ∈ _) : c ≠ '"' := Token.ne_quote_of_isWordChar (word.chars c inside)
    obtain ⟨unsigned, rest⟩ := (Undollared.append_iff unquoted).1 undollared
    exact List.forall_mem_cons.2 ⟨unsigned, ih rest⟩
  | number _ number _ _ ih =>
    have quote {d : Char} (part : Token.isNumberChar d = true) : d ≠ '"' :=
      Token.ne_quote_of_isWordChar (Token.isWordChar_of_isNumberChar part)
    have rest := ((undollared.tail (quote number)).dropWhile fun _ => quote).takeExponent
    exact List.forall_mem_cons.2 ⟨fun _ => Token.noConfusion, ih rest⟩

theorem Reference.Plain.target_eq {r : Reference} (plain : r.Plain) {p q : Position} (moves : p.Moves dr dc q)
    (row : q.row + 1 < indexLimit) (col : q.col ≤ Column.last) : r.target dr dc p = q := by
  have near : Column.last < indexLimit := by decide
  have newRow : along r.rowAnchored dr p.row = q.row := by rw [plain.row, moves.row]; rfl
  have newCol : along r.colAnchored dc p.col = q.col := by rw [plain.col, moves.col]; rfl
  simp only [target, target?, newRow, newCol]
  rw [if_pos (by omega)]
  rfl

namespace Piece

variable {ps : List Piece}

theorem exists_tokens (plain : ∀ p ∈ ps, p.Plain) : ∃ ts, TokensOf ps ts := by
  induction ps with
  | nil => exact ⟨[], .nil⟩
  | cons p ps ih =>
    obtain ⟨first, others⟩ := List.forall_mem_cons.1 plain
    obtain ⟨ts, tokens⟩ := ih others
    cases p with
    | word w =>
      obtain ⟨t, token⟩ := Reference.ofWord_unsigned first
      exact ⟨t :: ts, .cons token tokens⟩
    | other t => exact ⟨t :: ts, .cons rfl tokens⟩

theorem token_moved_of_lands {w : List Char} {q : Position} (unsigned : '$' ∉ w)
    (token : (word w).token = .ok (.ref q)) (land : q.Lands dr dc) :
    ∃ q', q.Moves dr dc q' ∧ ((word w).moved dr dc).token = .ok (.ref q') := by
  obtain ⟨r, reference⟩ := reference?_of_token token
  obtain ⟨_, ⟨⟩, read, position⟩ := reference?_eq_some_iff.1 reference
  obtain rfl : w = r.chars := by simpa using Reference.eq_chars_of_scan read
  obtain ⟨q', moves, row, col⟩ := land
  have target := (Reference.plain_of_scan read unsigned).target_eq moves row col
  exact ⟨q', moves, by rw [token_moved_reference reference, target, if_pos col]⟩

theorem Moved.exists_tokens {behind : Bool} {ps' : List Piece} {ts : List Token} (moved : Piece.Moved dr dc behind ps ps')
    (plain : ∀ p ∈ ps, p.Plain) (tokens : TokensOf ps ts) (land : ∀ p, Token.ref p ∈ ts → p.Lands dr dc) :
    ∃ ts', TokensOf ps' ts' ∧ Formula.Moved dr dc behind ts ts' := by
  induction moved generalizing ts with
  | nil =>
    cases tokens
    exact ⟨[], .nil, .nil⟩
  | other t _ ih =>
    cases tokens with
    | cons first others =>
      cases first
      obtain ⟨other, plain⟩ := List.forall_mem_cons.1 plain
      obtain ⟨ts', tokens', pair⟩ := ih plain others fun p inside => land p (List.mem_cons_of_mem _ inside)
      exact ⟨t :: ts', .cons rfl tokens', .other other pair⟩
  | word w _ ih =>
    cases tokens with
    | cons first others =>
      obtain ⟨unsigned, plain⟩ := List.forall_mem_cons.1 plain
      obtain ⟨ts', tokens', pair⟩ := ih plain others fun p inside => land p (List.mem_cons_of_mem _ inside)
      rcases Token.ofWord_cases first with ⟨_, q, _, _, rfl⟩ | ⟨n, rfl⟩
      · obtain ⟨q', moves, token⟩ := token_moved_of_lands unsigned first (land q List.mem_cons_self)
        exact ⟨_, .cons token tokens', .ref moves pair⟩
      · have kept : Piece.word (movedWord dr dc w) = .word w := moved_of_token first nofun
        rw [kept]
        exact ⟨_, .cons first tokens', .other nofun pair⟩
  | behind w _ ih =>
    cases tokens with
    | cons first others =>
      obtain ⟨_, plain⟩ := List.forall_mem_cons.1 plain
      obtain ⟨ts', tokens', pair⟩ := ih plain others fun p inside => land p (List.mem_cons_of_mem _ inside)
      rcases Token.ofWord_cases first with ⟨_, q, _, _, rfl⟩ | ⟨n, rfl⟩
      · exact ⟨_, .cons first tokens', .behind q pair⟩
      · exact ⟨_, .cons first tokens', .other nofun pair⟩
  | called w _ ih =>
    cases tokens with
    | cons first others =>
      cases others with
      | cons paren others =>
        cases paren
        obtain ⟨_, plain⟩ := List.forall_mem_cons.1 plain
        obtain ⟨_, plain⟩ := List.forall_mem_cons.1 plain
        obtain ⟨ts', tokens', pair⟩ :=
          ih plain others fun p inside => land p (List.mem_cons_of_mem _ (List.mem_cons_of_mem _ inside))
        rcases Token.ofWord_cases first with ⟨_, q, _, _, rfl⟩ | ⟨n, rfl⟩
        · exact ⟨_, .cons first (.cons rfl tokens'), .called q pair⟩
        · exact ⟨_, .cons first (.cons rfl tokens'), .other nofun (.other nofun pair)⟩

end Piece

/-- The moved text is scanned to the moved tokens. Where a word goes on in front, a number must end there. -/
def ScansAlike (dr dc : Int) (cs : List Char) : Prop :=
  ∀ joined behind, Undollared cs → AllLand dr dc (Token.scan cs) →
    (joined = true → Stops Token.isWordChar cs ∨ behind = true) →
    Agrees (Moved dr dc behind) (Token.scan cs) (Token.scan (Shift.text dr dc joined cs))

theorem scansAlike (cs : List Char) : ScansAlike dr dc cs := by
  intro joined behind undollared land ends
  obtain ⟨whole, ps, cut⟩ := exists_cut cs
  obtain ⟨ps', moved, cut'⟩ : ∃ ps', Piece.Moved dr dc behind ps ps' ∧ Cut whole (Shift.text dr dc joined cs) ps' :=
    cut.text joined behind ends
  have scanned := cut.scans
  have scanned' := cut'.scans
  cases whole with
  | false =>
    obtain ⟨e, stuck⟩ := scanned
    obtain ⟨e', stuck'⟩ := scanned'
    rw [stuck, stuck']
    exact .error e e'
  | true =>
    have plain := cut.plain undollared
    obtain ⟨ts, tokens⟩ := Piece.exists_tokens plain
    rw [Scans, mapM_eq_ok_iff.2 tokens] at scanned
    obtain ⟨ts', tokens', pair⟩ := moved.exists_tokens plain tokens (land ts scanned)
    rw [Scans, mapM_eq_ok_iff.2 tokens'] at scanned'
    rw [scanned, scanned']
    exact .ok pair

end Scan

end Spreadsheet.Formula
