import Spreadsheet.Proofs.Formula.Trimming

/-! Translated sheets. When every formula of a look-up moves by the same rows and columns, and none of its references
leaves the cells that can be named, each cell keeps the value it had where it came from. -/
namespace Spreadsheet

open Text

namespace Position

variable {dr dc : Int}

theorem biUnique_moves : Relator.BiUnique (Moves dr dc) := by
  refine ⟨?_, ?_⟩
  · intro p p' q first second
    have row : p.row = p'.row := by
      have before := first.row
      have after := second.row
      omega
    have col : p.col = p'.col := by
      have before := first.col
      have after := second.col
      omega
    exact congrArg₂ mk row col
  · intro p q q' first second
    have row : q.row = q'.row := Int.ofNat_inj.1 (first.row.trans second.row.symm)
    have col : q.col = q'.col := Int.ofNat_inj.1 (first.col.trans second.col.symm)
    exact congrArg₂ mk row col

theorem moves_zero (p : Position) : p.Moves 0 0 p := ⟨(Int.add_zero _).symm, (Int.add_zero _).symm⟩

end Position

theorem Range.span_moves {d : Int} {first last first' last' : Nat} (start : (first' : Int) = first + d)
    (stop : (last' : Int) = last + d) :
    List.Forall₂ (fun i j : Nat => (j : Int) = i + d) (span first last) (span first' last') := by
  have size : last' + 1 - first' = last + 1 - first := by omega
  rw [span, span, size]
  generalize last + 1 - first = n
  clear stop size
  induction n generalizing first first' with
  | zero => exact .nil
  | succ n ih => exact .cons start (ih (by omega))

namespace Formula

variable {dr dc : Int}

theorem Grammar.spans_moves : Spans (Position.Moves dr dc) := by
  intro p p' q q' first second
  have rows := first.row
  have rows' := second.row
  have cols := first.col
  have cols' := second.col
  refine List.rel_flatMap (Range.span_moves (d := dr) ?_ ?_) ?_
  · dsimp only [Range.between, Range.spanning]
    omega
  · dsimp only [Range.between, Range.spanning]
    omega
  · intro i j row
    refine List.rel_map ?_ (Range.span_moves (d := dc) ?_ ?_)
    · intro k l col
      exact ⟨row, col⟩
    · dsimp only [Range.between, Range.spanning]
      omega
    · dsimp only [Range.between, Range.spanning]
      omega

theorem Token.mayPrecede_congr {related : Position → Position → Prop} {t t' u u' : Token}
    (first : t.Matches related t') (second : u.Matches related u') : t.mayPrecede u = t'.mayPrecede u' := by
  cases first with
  | ref pair =>
    cases second with
    | ref => rfl
    | other => cases u <;> rfl
  | other plain =>
    cases second with
    | ref pair => cases t <;> rfl
    | other => rfl

theorem orderly_congr {related : Position → Position → Prop} {ts ts' : List Token}
    (same : Grammar.TokensMatch related ts ts') :
    Orderly ts ↔ Orderly ts' := by
  induction same with
  | nil => rfl
  | cons head tail ih =>
    cases tail with
    | nil => simp
    | cons next rest =>
      rw [Orderly, Orderly, List.isChain_cons_cons, List.isChain_cons_cons, Token.mayPrecede_congr head next]
      exact and_congr_right fun _ => ih

theorem Moved.alike {behind : Bool} {ts ts' : List Token} (moved : Moved dr dc behind ts ts') :
    Grammar.TokensMatch (fun _ _ => True) ts ts' := by
  induction moved with
  | nil => exact .nil
  | other plain _ ih => exact .cons (.other plain) ih
  | ref _ _ ih => exact .cons (.ref trivial) ih
  | behind p _ ih => exact .cons (.ref trivial) ih
  | called p _ ih => exact .cons (.ref trivial) (.cons (.other nofun) ih)

theorem Moved.matches {behind : Bool} {ts ts' : List Token} (moved : Moved dr dc behind ts ts')
    (orderly : Orderly ts) (front : behind = true → ∀ p, ts.head? ≠ some (.ref p)) :
    Grammar.TokensMatch (Position.Moves dr dc) ts ts' := by
  induction moved with
  | nil => exact .nil
  | other plain _ ih => exact .cons (.other plain) (ih orderly.tail orderly.not_ref)
  | ref moves _ ih => exact .cons (.ref moves) (ih orderly.tail nofun)
  | behind p => exact absurd rfl (front rfl p)
  | called p => cases (List.isChain_cons_cons.1 orderly).1

theorem Moved.agrees_ofTokens {ts ts' : List Token} (moved : Moved dr dc false ts ts') :
    Agrees (Expr.Matches (Position.Moves dr dc)) (Expr.ofTokens ts) (Expr.ofTokens ts') := by
  by_cases orderly : Orderly ts
  · exact Grammar.agrees_ofTokens Grammar.spans_moves (moved.matches orderly nofun)
  · have disorderly : ¬ Orderly ts' := mt (orderly_congr moved.alike).2 orderly
    cases read : Expr.ofTokens ts with
    | ok e => exact absurd (Grammar.orderly_of_ofTokens read) orderly
    | error e =>
      cases read' : Expr.ofTokens ts' with
      | ok e' => exact absurd (Grammar.orderly_of_ofTokens read') disorderly
      | error e' => exact .error e e'

/-- The tokens of a formula. -/
def Token.ofFormula (formula : String) : Except FormulaError (List Token) :=
  match trimChars formula.toList with
  | '=' :: cs => scan cs
  | _ => .error .missingEquals

theorem ofFormula_eq {formula : String} {cs : List Char} (text : formula.toList = '=' :: cs) :
    Token.ofFormula formula = Token.scan (cs.rdropWhile isBlank) := by
  simp only [Token.ofFormula, text, trimChars_equals]

theorem parse_eq (formula : String) : Expr.parse formula = Token.ofFormula formula >>= Expr.ofTokens := by
  by_cases equals : ∃ cs, trimChars formula.toList = '=' :: cs
  · obtain ⟨cs, text⟩ := equals
    simp only [Expr.parse, Token.ofFormula, text]
  · have unscanned : Token.ofFormula formula = .error .missingEquals := by
      unfold Token.ofFormula
      split
      next text => exact absurd ⟨_, text⟩ equals
      next => rfl
    rw [unscanned]
    unfold Expr.parse
    split
    next text => exact absurd ⟨_, text⟩ equals
    next => rfl

theorem toList_of_isFormula {raw : String} (formula : isFormula raw = true) : ∃ cs, raw.toList = '=' :: cs := by
  rw [isFormula, beq_iff_eq, List.head?_eq_some_iff] at formula
  exact formula

theorem toList_shift {raw : String} {cs : List Char} (text : raw.toList = '=' :: cs)
    (moving : ¬ (dr = 0 ∧ dc = 0)) :
    (shift dr dc raw).toList = '=' :: Shift.text dr dc false cs := by
  have formula : isFormula raw = true := by simp [isFormula, text]
  have apart : dr ≠ 0 ∨ dc ≠ 0 := by omega
  have whole : Shift.chars dr dc none ('=' :: cs) = '=' :: Shift.text dr dc false cs := by
    rw [Shift.chars_eq_text, Shift.text_plain (by decide) (by decide)]
    rfl
  simp [shift, formula, apart, text, whole]

theorem shift_zero (raw : String) : shift 0 0 raw = raw := by
  simp [shift]

theorem isFormula_shift (raw : String) : isFormula (shift dr dc raw) = isFormula raw := by
  cases formula : isFormula raw with
  | false => simp [shift, formula]
  | true =>
    by_cases still : dr = 0 ∧ dc = 0
    · obtain ⟨rfl, rfl⟩ := still
      rw [shift_zero, formula]
    · obtain ⟨cs, text⟩ := toList_of_isFormula formula
      simp [isFormula, toList_shift text still]

theorem agrees_refl {ε α : Type} {related : α → α → Prop} (refl : ∀ a, related a a) (x : Except ε α) :
    Agrees related x x := by
  cases x with
  | error e => exact .error e e
  | ok a => exact .ok (refl a)

theorem agrees_parse {raw : String} (formula : isFormula raw = true) (undollared : Undollared raw.toList)
    (land : AllLand dr dc (Token.ofFormula raw)) :
    Agrees (Expr.Matches (Position.Moves dr dc)) (Expr.parse raw) (Expr.parse (shift dr dc raw)) := by
  by_cases still : dr = 0 ∧ dc = 0
  · obtain ⟨rfl, rfl⟩ := still
    rw [shift_zero]
    exact agrees_refl (fun _ => Expr.Matches.refl fun p _ => p.moves_zero) _
  · obtain ⟨cs, text⟩ := toList_of_isFormula formula
    rw [text, Undollared.cons_iff (by decide)] at undollared
    rw [ofFormula_eq text] at land
    have scanned := scansAlike (cs.rdropWhile isBlank) false false undollared.2.rdropWhile land nofun
    have text' := toList_shift text still
    rw [parse_eq, parse_eq, ofFormula_eq text, ofFormula_eq text', Shift.rdropWhile_text]
    exact scanned.bind fun _ _ moved => moved.agrees_ofTokens

theorem rawValue_shift {raw : String} (undollared : isFormula raw = true → Undollared raw.toList)
    (land : isFormula raw = true → AllLand dr dc (Token.ofFormula raw)) {values values' : Position → Value}
    (agree : ∀ p q, p.Moves dr dc q → values p = values' q) :
    rawValue values' (shift dr dc raw) = rawValue values raw := by
  cases formula : isFormula raw with
  | false =>
    have kept : shift dr dc raw = raw := by simp [shift, formula]
    rw [kept, rawValue_literal _ formula, rawValue_literal _ formula]
  | true =>
    have formula' : isFormula (shift dr dc raw) = true := (isFormula_shift raw).trans formula
    have parsed := agrees_parse formula (undollared formula) (land formula)
    generalize read : Expr.parse raw = x, read' : Expr.parse (shift dr dc raw) = y at parsed
    cases parsed with
    | error e e' => rw [rawValue_unparsable _ formula read, rawValue_unparsable _ formula' read']
    | ok same => rw [rawValue_formula _ formula read, rawValue_formula _ formula' read', same.value_eq agree]

section Lookup

variable {lookup lookup' : Lookup} (moved : ∀ p q, p.Moves dr dc q → lookup' q = shift dr dc (lookup p))
  (undollared : ∀ p, isFormula (lookup p) = true → Undollared (lookup p).toList)
  (land : ∀ p, isFormula (lookup p) = true → AllLand dr dc (Token.ofFormula (lookup p)))
include moved undollared land

theorem valueUnder_moved (depth : Nat) {underway underway' : Underway}
    (path : List.Forall₂ (Position.Moves dr dc) underway underway')
    {p q : Position} (moves : p.Moves dr dc q) : valueUnder lookup' depth underway' q =
      valueUnder lookup depth underway p := by
  induction depth generalizing underway underway' p q with
  | zero => rfl
  | succ depth ih =>
    have inside : p ∈ underway ↔ q ∈ underway' := List.rel_mem Position.biUnique_moves moves path
    have inner := rawValue_shift (undollared p) (land p) fun p' q' moves' => (ih (.cons moves path) moves').symm
    simp only [valueUnder, inside, path.length_eq, moved p q moves, inner]

/-- The cells of a look-up that holds moved formulas have the values of the cells they come from. -/
theorem evaluateCell_moved {p q : Position} (moves : p.Moves dr dc q) :
    evaluateCell lookup' q = evaluateCell lookup p := by
  rw [evaluateCell_eq, evaluateCell_eq]
  exact valueUnder_moved moved undollared land _ .nil moves

end Lookup

/-- The look-up that holds the moved texts, and nothing where no cell moves to. -/
def translate (dr dc : Int) (lookup : Lookup) : Lookup := fun q =>
  if dr ≤ q.row ∧ dc ≤ q.col then shift dr dc (lookup ⟨(q.row - dr).toNat, (q.col - dc).toNat⟩) else ""

theorem translate_of_moves (lookup : Lookup) {p q : Position} (moves : p.Moves dr dc q) :
    translate dr dc lookup q = shift dr dc (lookup p) := by
  have row := moves.row
  have col := moves.col
  have back : (⟨(q.row - dr).toNat, (q.col - dc).toNat⟩ : Position) = p :=
    congrArg₂ Position.mk (by omega) (by omega)
  rw [translate, if_pos (by omega), back]

/-- A formula with a dollar sign inside quotes, and the cell it refers to. -/
def priced : Lookup := fun p => if p = ⟨0, 0⟩ then "=b1&\"$\"" else if p = ⟨0, 1⟩ then "x" else ""

theorem evaluateCell_moved_priced :
    (∀ p, isFormula (priced p) = true → Undollared (priced p).toList) ∧
      (∀ p, isFormula (priced p) = true → AllLand 2 1 (Token.ofFormula (priced p))) ∧
      evaluateCell (translate 2 1 priced) ⟨2, 1⟩ = .text "x$" := by
  have only (p : Position) (formula : isFormula (priced p) = true) : priced p = "=b1&\"$\"" := by
    unfold priced at formula ⊢
    split at formula
    next first => rw [if_pos first]
    next => split at formula <;> cases formula
  have undollared (p : Position) (formula : isFormula (priced p) = true) : Undollared (priced p).toList := by
    have outside : outsideQuotes "=b1&\"$\"".toList = ['=', 'b', '1', '&'] := by cbv
    rw [only p formula, Undollared, outside]
    decide
  have land (p : Position) (formula : isFormula (priced p) = true) : AllLand 2 1 (Token.ofFormula (priced p)) := by
    have tokens : Token.ofFormula "=b1&\"$\"" = .ok [.ref ⟨0, 1⟩, .op .concat, .text "$"] := by cbv
    rw [only p formula, tokens]
    rintro ts ⟨⟩ p inside
    obtain rfl : p = ⟨0, 1⟩ := by simpa using inside
    exact ⟨⟨2, 2⟩, ⟨rfl, rfl⟩, by decide, by decide⟩
  have moves : (⟨0, 0⟩ : Position).Moves 2 1 ⟨2, 1⟩ := ⟨rfl, rfl⟩
  exact ⟨undollared, land, (evaluateCell_moved (fun _ _ => translate_of_moves priced) undollared land moves).trans (by cbv)⟩

end Formula

end Spreadsheet
