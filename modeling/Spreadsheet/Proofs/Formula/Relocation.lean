import Spreadsheet.Proofs.Formula.Target
import Spreadsheet.Proofs.Formula.Translation

/-! Formulas that can be read, and what moving makes of them. Each reference is moved to its target and all else stays.
The moved formula can be read again, to an expression of the same shape, exactly if every target is in a column that
references can name. -/
namespace Spreadsheet.Formula

open Text

namespace Piece

variable {dr dc : Int} {ps : List Piece} {ts us : List Token}

/-- In a text that can be read no reference stands right behind a number or is called, so that all of them are moved. -/
theorem Moved.eq_map {behind : Bool} {ps' : List Piece} (moved : Moved dr dc behind ps ps') (tokens : TokensOf ps ts)
    (orderly : Orderly ts) (front : behind = true → ∀ q, ts.head? ≠ some (.ref q)) :
    ps' = ps.map (Piece.moved dr dc) := by
  induction moved generalizing ts with
  | nil => rfl
  | other t _ ih =>
    cases tokens with
    | cons first others =>
      cases first
      rw [List.map_cons, ← ih others orderly.tail orderly.not_ref]
      rfl
  | word w _ ih =>
    cases tokens with
    | cons first others =>
      rw [List.map_cons, ← ih others orderly.tail nofun]
      rfl
  | behind w _ ih =>
    -- the word is kept, and is no reference, which moving would keep too
    cases tokens with
    | @cons _ t _ _ first others =>
      have other (q : Position) : t ≠ .ref q := by
        rintro rfl
        exact front rfl q rfl
      rw [List.map_cons, ← ih others orderly.tail nofun, moved_of_token first other]
  | called w _ ih =>
    cases tokens with
    | @cons _ t _ _ first others =>
      cases others with
      | cons paren others =>
        cases paren
        obtain ⟨step, rest⟩ := List.isChain_cons_cons.1 orderly
        have other (q : Position) : t ≠ .ref q := by
          rintro rfl
          cases step
        rw [List.map_cons, List.map_cons, ← ih others rest.tail nofun, moved_of_token first other]
        rfl

theorem exists_tokensMoved (dr dc : Int) (tokens : TokensOf ps ts) :
    ∃ us, ps.mapM (tokenMoved dr dc) = .ok us ∧ Grammar.TokensAlike us ts := by
  simp only [mapM_eq_ok_iff]
  induction tokens with
  | nil => exact ⟨[], .nil, .nil⟩
  | @cons p t _ _ first _ ih =>
    obtain ⟨us, others, alike⟩ := ih
    cases reference : p.reference? with
    | none =>
      have same : p.tokenMoved dr dc = .ok t := by simpa only [tokenMoved, reference] using first
      refine ⟨t :: us, .cons same others, .cons ?_ alike⟩
      cases t with
      | ref q => exact .ref trivial
      | _ => exact .other fun _ => Token.noConfusion
    | some found =>
      rw [token_of_reference? reference] at first
      cases first
      have leads : p.tokenMoved dr dc = .ok (.ref (found.1.target dr dc found.2)) := by simp only [tokenMoved, reference]
      exact ⟨_, .cons leads others, .cons (.ref trivial) alike⟩

theorem mapM_moved_of_named (named : ∀ p ∈ ps, p.Named dr dc) :
    (ps.map (Piece.moved dr dc)).mapM token = ps.mapM (tokenMoved dr dc) := by
  induction ps with
  | nil => rfl
  | cons p ps ih =>
    obtain ⟨first, others⟩ := List.forall_mem_cons.1 named
    rw [List.map_cons, List.mapM_cons, List.mapM_cons, first.token_moved, ih others]

/-- Where a target cannot be named the reference has become a name, which is not called. -/
theorem named_of_namesCalled (tokens : TokensOf ps ts) (orderly : Orderly ts)
    (written : TokensOf (ps.map (Piece.moved dr dc)) us) (called : NamesCalled us) : ∀ p ∈ ps, p.Named dr dc := by
  induction tokens generalizing us with
  | nil => exact nofun
  | @cons p t ps ts first others ih =>
    cases written with
    | @cons _ u _ us first' others' =>
      have rest : NamesCalled us := by
        cases u with
        | name n => exact called.2
        | _ => exact called
      refine List.forall_mem_cons.2 ⟨?_, ih orderly.tail others' rest⟩
      intro r q reference
      by_contra far
      rw [token_moved_reference reference, if_neg far] at first'
      obtain ⟨n, rfl⟩ := Token.name_of_ofName first'
      obtain ⟨vs, paren⟩ := List.head?_eq_some_iff.1 called.1
      subst paren
      cases others with
      | nil => cases others'
      | @cons p' t' _ _ next _ =>
        cases others' with
        | cons next' _ =>
          -- a parenthesis is not a moved word, and behind a reference there is none
          cases p' with
          | word w =>
            rcases Token.ofWord_cases next' with ⟨_, _, _, _, same⟩ | ⟨_, same⟩ <;> cases same
          | other t' =>
            cases next'
            cases next
            rw [token_of_reference? reference] at first
            cases first
            cases (List.isChain_cons_cons.1 orderly).1

end Piece

/-- The pieces of a formula, blanks at its ends left out. -/
def Pieces (formula : String) (ps : List Piece) : Prop :=
  ∃ cs, trimChars formula.toList = '=' :: cs ∧ Cut true cs ps

theorem exists_pieces {f : String} {e : Expr} (read : Expr.parse f = .ok e) : ∃ ps, Pieces f ps := by
  rw [Expr.parse] at read
  split at read
  next cs trimmed =>
    obtain ⟨ts, scanned, _⟩ := Run.bind_eq_ok_iff.1 read
    obtain ⟨whole, ps, cut⟩ := exists_cut cs
    have scans := cut.scans
    cases whole with
    | true => exact ⟨ps, cs, trimmed, cut⟩
    | false =>
      obtain ⟨e, stuck⟩ := scans
      rw [scanned] at stuck
      cases stuck
  next => cases read

section Pieces

variable {dr dc : Int} {f : String} {ps : List Piece} (pieces : Pieces f ps)
include pieces

theorem Pieces.ofFormula : Token.ofFormula f = ps.mapM Piece.token := by
  obtain ⟨cs, trimmed, cut⟩ := pieces
  rw [Token.ofFormula, trimmed]
  exact cut.scans

theorem Pieces.exists_tokens {e : Expr} (read : Expr.parse f = .ok e) :
    ∃ ts, Piece.TokensOf ps ts ∧ Expr.ofTokens ts = .ok e := by
  rw [parse_eq, pieces.ofFormula] at read
  obtain ⟨ts, tokens, read⟩ := Run.bind_eq_ok_iff.1 read
  exact ⟨ts, mapM_eq_ok_iff.1 tokens, read⟩

theorem Pieces.exists_shift (formula : isFormula f = true) (moving : ¬ (dr = 0 ∧ dc = 0)) :
    ∃ ps', Piece.Moved dr dc false ps ps' ∧ Pieces (shift dr dc f) ps' := by
  obtain ⟨cs, text⟩ := toList_of_isFormula formula
  obtain ⟨cs', trimmed, cut⟩ := pieces
  rw [text, trimChars_equals] at trimmed
  obtain ⟨_, rfl⟩ := List.cons.inj trimmed
  obtain ⟨ps', moved, cut'⟩ : ∃ ps', Piece.Moved dr dc false ps ps' ∧
      Cut true (Shift.text dr dc false (cs.rdropWhile isBlank)) ps' := cut.text false false nofun
  refine ⟨ps', moved, _, ?_, cut'⟩
  rw [toList_shift text moving, trimChars_equals, Shift.rdropWhile_text]

variable {e : Expr} (read : Expr.parse f = .ok e) (formula : isFormula f = true)
include read formula

theorem Pieces.ofFormula_shift : Token.ofFormula (shift dr dc f) = (ps.map (Piece.moved dr dc)).mapM Piece.token := by
  by_cases still : dr = 0 ∧ dc = 0
  · obtain ⟨rfl, rfl⟩ := still
    rw [shift_zero, pieces.ofFormula, Piece.mapM_moved_of_named fun p _ => p.named_zero, Piece.tokenMoved_zero]
  · obtain ⟨ts, tokens, built⟩ := pieces.exists_tokens read
    obtain ⟨ps', moved, pieces'⟩ := pieces.exists_shift formula still
    rw [pieces'.ofFormula, moved.eq_map tokens (Grammar.orderly_of_ofTokens built) nofun]

theorem Pieces.exists_parse_shift (named : ∀ p ∈ ps, p.Named dr dc) :
    ∃ e', ps.mapM (Piece.tokenMoved dr dc) >>= Expr.ofTokens = .ok e' ∧ Expr.parse (shift dr dc f) = .ok e' ∧
      e'.shape = e.shape := by
  obtain ⟨ts, tokens, built⟩ := pieces.exists_tokens read
  obtain ⟨us, leads, alike⟩ := Piece.exists_tokensMoved dr dc tokens
  obtain ⟨e', built', shape⟩ := Grammar.exists_ofTokens_alike alike built
  have parsed : ps.mapM (Piece.tokenMoved dr dc) >>= Expr.ofTokens = .ok e' := by rw [leads]; exact built'
  refine ⟨e', parsed, ?_, shape⟩
  rw [parse_eq, pieces.ofFormula_shift read formula, Piece.mapM_moved_of_named named, parsed]

theorem Pieces.named_of_parse_shift {e' : Expr} (read' : Expr.parse (shift dr dc f) = .ok e') :
    ∀ p ∈ ps, p.Named dr dc := by
  obtain ⟨ts, tokens, built⟩ := pieces.exists_tokens read
  rw [parse_eq, pieces.ofFormula_shift read formula] at read'
  obtain ⟨us, written, built'⟩ := Run.bind_eq_ok_iff.1 read'
  exact Piece.named_of_namesCalled tokens (Grammar.orderly_of_ofTokens built) (mapM_eq_ok_iff.1 written)
    (Grammar.namesCalled_of_ofTokens built')

end Pieces

/-- Where no target is too far to be named, the moved formula is read to the expression of the tokens of the formula, each
reference led to its target and all other tokens kept. -/
theorem parse_shift_targets (dr dc : Int) {f : String} {e : Expr} (read : Expr.parse f = .ok e) :
    (isFormula f = false → shift dr dc f = f) ∧ (∃ ps, Pieces f ps) ∧
      ∀ ps, Pieces f ps → isFormula f = true → (∀ p ∈ ps, p.Named dr dc) →
        Token.ofFormula f = ps.mapM Piece.token ∧
          ∃ e', ps.mapM (Piece.tokenMoved dr dc) >>= Expr.ofTokens = .ok e' ∧ Expr.parse (shift dr dc f) = .ok e' := by
  refine ⟨?_, exists_pieces read, ?_⟩
  · intro literal
    simp [shift, literal]
  · intro ps pieces formula named
    obtain ⟨e', parsed, read', _⟩ := pieces.exists_parse_shift read formula named
    exact ⟨pieces.ofFormula, e', parsed, read'⟩

/-- The pieces of a formula with a quoted name of a cell, a function, and references of both kinds. -/
def mixed : List Piece :=
  [.other (.text "A1"), .other (.op .concat), .word ['S', 'U', 'M'], .other .openParen, .word ['$', 'B', '3'],
    .other .comma, .word ['a', '1'], .other .closeParen]

theorem pieces_mixed : Pieces "=\"A1\"&SUM($B3,a1)" mixed := by
  have trimmed : trimChars "=\"A1\"&SUM($B3,a1)".toList =
    ['=', '"', 'A', '1', '"', '&', 'S', 'U', 'M', '(', '$', 'B', '3', ',', 'a', '1', ')'] := by cbv
  have quoted : Quoted.read ['A', '1', '"', '&', 'S', 'U', 'M', '(', '$', 'B', '3', ',', 'a', '1', ')'] =
    some (['A', '1'], ['&', 'S', 'U', 'M', '(', '$', 'B', '3', ',', 'a', '1', ')']) := by cbv
  have name : Token.IsWord ['S', 'U', 'M'] := ⟨⟨_, _, rfl, rfl⟩, List.all_eq_true.1 rfl⟩
  have anchored : Token.IsWord ['$', 'B', '3'] := ⟨⟨_, _, rfl, rfl⟩, List.all_eq_true.1 rfl⟩
  have free : Token.IsWord ['a', '1'] := ⟨⟨_, _, rfl, rfl⟩, List.all_eq_true.1 rfl⟩
  refine ⟨_, trimmed, .quoted quoted (.symbol rfl (.word name (stops_cons rfl) (.symbol rfl ?_)))⟩
  exact .word anchored (stops_cons rfl) (.symbol rfl (.word free (stops_cons rfl) (.symbol rfl .nil)))

/-- One row up and one column to the right: the second reference would leave the grid. -/
theorem parse_shift_targets_mixed :
    Expr.parse "=\"A1\"&SUM($B3,a1)" = .ok (.binary .concat (.text "A1") (.call "SUM" [.ref ⟨2, 1⟩, .ref ⟨0, 0⟩])) ∧
      (∀ p ∈ mixed, p.Named (-1) 1) ∧
      Expr.parse (shift (-1) 1 "=\"A1\"&SUM($B3,a1)") =
        .ok (.binary .concat (.text "A1") (.call "SUM" [.ref ⟨1, 1⟩, .ref ⟨0, 0⟩])) := by
  have read : Expr.parse "=\"A1\"&SUM($B3,a1)" =
    .ok (.binary .concat (.text "A1") (.call "SUM" [.ref ⟨2, 1⟩, .ref ⟨0, 0⟩])) := by cbv
  have named : ∀ p ∈ mixed, p.Named (-1) 1 := by decide +kernel
  have targets : mixed.mapM (Piece.tokenMoved (-1) 1) >>= Expr.ofTokens =
    .ok (.binary .concat (.text "A1") (.call "SUM" [.ref ⟨1, 1⟩, .ref ⟨0, 0⟩])) := by cbv
  obtain ⟨_, _, moved⟩ := parse_shift_targets (-1) 1 read
  obtain ⟨_, e', parsed, read'⟩ := moved mixed pieces_mixed (by cbv) named
  rw [targets] at parsed
  cases parsed
  exact ⟨read, named, read'⟩

/-- A moved formula has its shape wherever it can be read, and it can be read exactly if no target is too far to be
named. -/
theorem shape_parse_shift (dr dc : Int) {f : String} {e : Expr} (read : Expr.parse f = .ok e) :
    (∀ e', Expr.parse (shift dr dc f) = .ok e' → e'.shape = e.shape) ∧ (∃ ps, Pieces f ps) ∧
      ∀ ps, Pieces f ps →
        ((∃ e', Expr.parse (shift dr dc f) = .ok e') ↔ (isFormula f = true → ∀ p ∈ ps, p.Named dr dc)) := by
  cases formula : isFormula f with
  | false =>
    have kept : shift dr dc f = f := by simp [shift, formula]
    rw [kept, read]
    refine ⟨?_, exists_pieces read, ?_⟩
    · rintro _ ⟨⟩
      rfl
    · intro ps _
      exact ⟨fun _ formula => absurd formula Bool.false_ne_true, fun _ => ⟨e, rfl⟩⟩
  | true =>
    refine ⟨?_, exists_pieces read, ?_⟩
    · intro e' read'
      obtain ⟨ps, pieces⟩ := exists_pieces read
      obtain ⟨_, _, same, shape⟩ := pieces.exists_parse_shift read formula (pieces.named_of_parse_shift read formula read')
      rw [read'] at same
      cases same
      exact shape
    · intro ps pieces
      constructor
      · rintro ⟨e', read'⟩ _
        exact pieces.named_of_parse_shift read formula read'
      · intro named
        obtain ⟨e', _, read', _⟩ := pieces.exists_parse_shift read formula (named rfl)
        exact ⟨e', read'⟩

/-- The second reference may be moved as far as the last column, and no further. -/
theorem shape_parse_shift_mixed :
    (∃ e', Expr.parse (shift 0 18277 "=\"A1\"&SUM($B3,a1)") = .ok e' ∧
      e'.shape = .binary .concat (.text "A1") (.call "SUM" [.ref ⟨0, 0⟩, .ref ⟨0, 0⟩])) ∧
      ¬ ∃ e', Expr.parse (shift 0 18278 "=\"A1\"&SUM($B3,a1)") = .ok e' := by
  have read : Expr.parse "=\"A1\"&SUM($B3,a1)" =
    .ok (.binary .concat (.text "A1") (.call "SUM" [.ref ⟨2, 1⟩, .ref ⟨0, 0⟩])) := by cbv
  have near : ∀ p ∈ mixed, p.Named 0 18277 := by decide +kernel
  have far : ¬ ∀ p ∈ mixed, p.Named 0 18278 := by decide +kernel
  have formula : isFormula "=\"A1\"&SUM($B3,a1)" = true := by cbv
  obtain ⟨shape, _, readable⟩ := shape_parse_shift 0 18277 read
  obtain ⟨e', read'⟩ := (readable mixed pieces_mixed).2 fun _ => near
  obtain ⟨_, _, unreadable⟩ := shape_parse_shift 0 18278 read
  exact ⟨⟨e', read', shape e' read'⟩, fun some => far ((unreadable mixed pieces_mixed).1 some formula)⟩

/-- Beyond the last column there is no reference to write. -/
theorem unreadable_beyond_last :
    Expr.parse "=ZZZ1" = .ok (.ref ⟨0, Column.last⟩) ∧ shift 0 1 "=ZZZ1" = "=AAAA1" ∧
      Expr.parse (shift 0 1 "=ZZZ1") = .error (.unknownName "AAAA1") := by
  have read : Expr.parse "=ZZZ1" = .ok (.ref ⟨0, Column.last⟩) := by cbv
  have moved : shift 0 1 "=ZZZ1" = "=AAAA1" := by cbv
  have unread : Expr.parse "=AAAA1" = .error (.unknownName "AAAA1") := by cbv
  rw [moved]
  exact ⟨read, rfl, unread⟩

end Spreadsheet.Formula
