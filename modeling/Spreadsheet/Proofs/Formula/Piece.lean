import Spreadsheet.Proofs.Formula.Derivation
import Spreadsheet.Proofs.Formula.Token
import Spreadsheet.Proofs.Text.Quoted

/-! Formulas cut into pieces: words as they are written, and the tokens between them. Every text can be cut from the front,
to its end or to a place where no piece can be cut off; scanning it gives the tokens of its pieces, or an error if it is
stuck. -/
namespace Spreadsheet.Formula

open Text

inductive Piece
  | word (w : List Char)
  | other (t : Token)

namespace Piece

def token : Piece → Except FormulaError Token
  | word w => Token.ofWord w
  | other t => .ok t

abbrev TokensOf : List Piece → List Token → Prop := List.Forall₂ fun p t => p.token = .ok t

end Piece

theorem mapM_eq_ok_iff {ε α β : Type} {f : α → Except ε β} {l : List α} {m : List β} :
    l.mapM f = .ok m ↔ List.Forall₂ (fun a b => f a = .ok b) l m := by
  induction l generalizing m with
  | nil =>
    rw [List.mapM_nil, List.forall₂_nil_left_iff]
    exact ⟨fun same => (Except.ok.inj same).symm, fun none => congrArg Except.ok none.symm⟩
  | cons a l ih =>
    rw [List.mapM_cons, List.forall₂_cons_left_iff]
    constructor
    · intro read
      obtain ⟨b, first, more⟩ := Run.bind_eq_ok_iff.1 read
      obtain ⟨bs, others, last⟩ := Run.bind_eq_ok_iff.1 more
      cases last
      exact ⟨b, bs, first, ih.1 others, rfl⟩
    · rintro ⟨b, bs, first, others, rfl⟩
      rw [first, ih.2 others]
      rfl

namespace Token

/-- A run of word characters that starts with a letter or a dollar sign. -/
structure IsWord (w : List Char) : Prop where
  start : ∃ c run, w = c :: run ∧ isWordStart c = true
  chars : ∀ c ∈ w, isWordChar c = true

/-- The text of a number that starts with the given character, and what follows it. -/
def takeNumber (c : Char) (cs : List Char) : List Char × List Char :=
  let (exponent, rest) := takeExponent (cs.dropWhile isNumberChar)
  (c :: cs.takeWhile isNumberChar ++ exponent, rest)

theorem length_takeNumber (c : Char) (cs : List Char) : (takeNumber c cs).2.length ≤ cs.length :=
  Nat.le_trans (length_takeExponent _) (List.dropWhile_sublist _).length_le

theorem scan_takeNumber {c : Char} (start : isWordStart c = false) (number : isNumberChar c = true) (cs : List Char) :
    scan (c :: cs) = do
      let t ← ofNumber (takeNumber c cs).1
      return t :: (← scan (takeNumber c cs).2) :=
  scan_number start number cs

theorem IsWord.scan_append {w rest : List Char} (word : IsWord w) (stops : Stops isWordChar rest) :
    scan (w ++ rest) = do
      let t ← ofWord w
      return t :: (← scan rest) := by
  obtain ⟨c, run, rfl, start⟩ := word.start
  have chars : ∀ d ∈ run, isWordChar d = true := fun d inside => word.chars d (List.mem_cons_of_mem _ inside)
  rw [List.cons_append, scan_word start, takeWhile_append chars stops, dropWhile_append chars stops]

end Token

open Token

/-- No piece can be cut off in front. -/
inductive Stuck : List Char → Prop
  | unclosed {cs : List Char} (unclosed : Quoted.read cs = none) : Stuck ('"' :: cs)
  | number {c : Char} {cs : List Char} {e : FormulaError} (start : isWordStart c = false) (number : isNumberChar c = true)
    (unread : ofNumber (takeNumber c cs).1 = .error e) : Stuck (c :: cs)
  | other {c : Char} (cs : List Char) (solid : Solid c) (start : isWordStart c = false) (number : isNumberChar c = false) :
    Stuck (c :: cs)

/-- The text falls into the pieces, to its end or to where it is stuck. -/
inductive Cut : Bool → List Char → List Piece → Prop
  | nil : Cut true [] []
  | stuck {cs : List Char} (stuck : Stuck cs) : Cut false cs []
  | blank {whole : Bool} {c : Char} {cs : List Char} {ps : List Piece} (blank : c = ' ' ∨ c = '\t')
    (others : Cut whole cs ps) : Cut whole (c :: cs) ps
  | symbol {whole : Bool} {c : Char} {cs : List Char} {ps : List Piece} {t : Token} (symbol : symbol? c = some t)
    (others : Cut whole cs ps) : Cut whole (c :: cs) (.other t :: ps)
  | quoted {whole : Bool} {cs body rest : List Char} {ps : List Piece} (read : Quoted.read cs = some (body, rest))
    (others : Cut whole rest ps) : Cut whole ('"' :: cs) (.other (.text (String.ofList body)) :: ps)
  | word {whole : Bool} {w rest : List Char} {ps : List Piece} (word : IsWord w) (stops : Stops isWordChar rest)
    (others : Cut whole rest ps) : Cut whole (w ++ rest) (.word w :: ps)
  | number {whole : Bool} {c : Char} {cs : List Char} {ps : List Piece} {x : Float} (start : isWordStart c = false)
    (number : isNumberChar c = true) (read : ofNumber (takeNumber c cs).1 = .ok (.number x))
    (others : Cut whole (takeNumber c cs).2 ps) : Cut whole (c :: cs) (.other (.number x) :: ps)

theorem exists_cut (cs : List Char) : ∃ whole ps, Cut whole cs ps := by
  induction size : cs.length using Nat.strongRecOn generalizing cs with
  | ind n ih =>
    subst size
    cases cs with
    | nil => exact ⟨_, _, .nil⟩
    | cons c cs =>
      have next (rest : List Char) (short : rest.length ≤ cs.length) : ∃ whole ps, Cut whole rest ps :=
        ih _ (Nat.lt_succ_of_le short) rest rfl
      by_cases blank : c = ' ' ∨ c = '\t'
      · obtain ⟨whole, ps, others⟩ := next cs (Nat.le_refl _)
        exact ⟨_, _, .blank blank others⟩
      cases symbol : symbol? c with
      | some t =>
        obtain ⟨whole, ps, others⟩ := next cs (Nat.le_refl _)
        exact ⟨_, _, .symbol symbol others⟩
      | none =>
        by_cases quote : c = '"'
        · subst quote
          cases read : Quoted.read cs with
          | none => exact ⟨_, _, .stuck (.unclosed read)⟩
          | some found =>
            obtain ⟨whole, ps, others⟩ := next found.2 (Nat.le_of_lt (Quoted.length_of_read read))
            exact ⟨_, _, .quoted read others⟩
        cases start : isWordStart c with
        | true =>
          obtain ⟨whole, ps, others⟩ := next _ (List.dropWhile_sublist isWordChar (l := cs)).length_le
          have word : IsWord (c :: cs.takeWhile isWordChar) := by
            refine ⟨⟨c, _, rfl, start⟩, ?_⟩
            intro d inside
            rcases List.mem_cons.1 inside with rfl | inside
            · exact isWordChar_of_isWordStart start
            · exact List.mem_takeWhile_imp inside
          have cut := Cut.word word (stops_dropWhile isWordChar cs) others
          rw [List.cons_append, List.takeWhile_append_dropWhile] at cut
          exact ⟨_, _, cut⟩
        | false =>
          cases number : isNumberChar c with
          | true =>
            cases read : ofNumber (takeNumber c cs).1 with
            | error e => exact ⟨_, _, .stuck (.number start number read)⟩
            | ok t =>
              obtain ⟨x, rfl⟩ := number_of_ofNumber read
              obtain ⟨whole, ps, others⟩ := next _ (length_takeNumber c cs)
              exact ⟨_, _, .number start number read others⟩
          | false => exact ⟨_, _, .stuck (.other cs ⟨blank, symbol, quote⟩ start number)⟩

theorem Stuck.scan {cs : List Char} (stuck : Stuck cs) : ∃ e, scan cs = .error e := by
  cases stuck with
  | unclosed unclosed => exact ⟨_, scan_unclosed unclosed⟩
  | number start number unread =>
    rw [scan_takeNumber start number, unread]
    exact ⟨_, rfl⟩
  | other cs solid start number => exact ⟨_, scan_other solid start number cs⟩

/-- What scanning a text with the given pieces gives. -/
def Scans (ps : List Piece) (scanned : Except FormulaError (List Token)) : Bool → Prop
  | true => scanned = ps.mapM Piece.token
  | false => ∃ e, scanned = .error e

theorem Scans.cons {p : Piece} {ps : List Piece} {scanned : Except FormulaError (List Token)} {whole : Bool}
    (scans : Scans ps scanned whole) :
    Scans (p :: ps) (do let t ← p.token; return t :: (← scanned)) whole := by
  cases whole with
  | true =>
    obtain rfl := scans
    exact List.mapM_cons.symm
  | false =>
    obtain ⟨e, rfl⟩ := scans
    cases p.token with
    | error e => exact ⟨e, rfl⟩
    | ok t => exact ⟨_, rfl⟩

theorem Cut.scans {whole : Bool} {cs : List Char} {ps : List Piece} (cut : Cut whole cs ps) :
    Scans ps (scan cs) whole := by
  induction cut with
  | nil =>
    rw [scan]
    rfl
  | stuck stuck => exact stuck.scan
  | blank blank _ ih => rwa [scan_blank blank]
  | symbol symbol _ ih =>
    rw [scan_symbol symbol]
    exact ih.cons
  | quoted read _ ih =>
    rw [scan_quoted read]
    exact ih.cons
  | word word stops _ ih =>
    rw [word.scan_append stops]
    exact ih.cons
  | number start number read _ ih =>
    rw [scan_takeNumber start number, read]
    exact ih.cons

end Spreadsheet.Formula
