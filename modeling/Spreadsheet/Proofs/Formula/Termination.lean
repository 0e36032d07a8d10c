import Spreadsheet.Proofs.Formula.Derivation

/-! Reading comes to an end. Readers and loops count their rounds, but every round is left fewer tokens than the one
before, so that the counters never run out: a reader that calls itself as often as it takes is determined by its calls,
and it is the one that counts. -/
namespace Spreadsheet.Formula.Grammar

/-- Counted rounds of a step that calls itself on smaller arguments only. -/
structure Rounds {α β : Type} (size : α → Nat) (step : (α → β) → α → β) (rounds : Nat → α → β) : Prop where
  first : ∀ loop a, size a = 0 → rounds 0 a = step loop a
  next : ∀ n a, rounds (n + 1) a = step (rounds n) a
  smaller : ∀ n loop a, (∀ b, size b < size a → rounds n b = loop b) → step (rounds n) a = step loop a

namespace Rounds

variable {α β : Type} {size : α → Nat} {step : (α → β) → α → β} {rounds : Nat → α → β}
  (counted : Rounds size step rounds)
include counted

theorem eq_of_calls {loop : α → β} (calls : ∀ a, loop a = step loop a) {n : Nat} {a : α} (many : size a ≤ n) :
    rounds n a = loop a := by
  induction n generalizing a with
  | zero => rw [calls a, counted.first loop a (Nat.le_zero.1 many)]
  | succ n ih =>
    rw [calls a, counted.next]
    apply counted.smaller
    intro b less
    exact ih (Nat.le_of_lt_succ (Nat.lt_of_lt_of_le less many))

theorem eq_rounds {n m : Nat} {a : α} (many : size a ≤ n) (many' : size a ≤ m) : rounds n a = rounds m a := by
  induction n generalizing m a with
  | zero =>
    cases m with
    | zero => rfl
    | succ m => rw [counted.next, counted.first (rounds m) a (Nat.le_zero.1 many)]
  | succ n ih =>
    cases m with
    | zero => rw [counted.next, counted.first (rounds n) a (Nat.le_zero.1 many')]
    | succ m =>
      rw [counted.next, counted.next]
      apply counted.smaller
      intro b less
      exact ih (Nat.le_of_lt_succ (Nat.lt_of_lt_of_le less many)) (Nat.le_of_lt_succ (Nat.lt_of_lt_of_le less many'))

/-- A loop that calls itself without a counter does as many rounds as its argument is large, and no other does. -/
theorem calls_iff (loop : α → β) : (∀ a, loop a = step loop a) ↔ ∀ a, loop a = rounds (size a) a := by
  constructor
  · exact fun calls a => (counted.eq_of_calls calls (Nat.le_refl _)).symm
  · intro counts a
    rw [counts a]
    cases large : size a with
    | zero => exact counted.first loop a large
    | succ n =>
      rw [counted.next]
      apply counted.smaller
      intro b less
      rw [counts b]
      exact counted.eq_rounds (by omega) (Nat.le_refl _)

end Rounds

/-- Reading leaves no more tokens than there were. -/
def Shrinks (reader : Reader) : Prop := ∀ ts e rest, reader ts = .ok (e, rest) → rest.length ≤ ts.length

theorem Derives.shrinks {level : Nat} {reader : Reader} (derives : Derives level reader) : Shrinks reader := by
  intro ts e rest read
  obtain ⟨d, rfl, _⟩ := derives ts e rest read
  simp

/-- Two readers give the same answers on all lists of fewer tokens. -/
def AgreeBelow (n : Nat) (reader reader' : Reader) : Prop := ∀ ts : List Token, ts.length < n → reader ts = reader' ts

/-- One round of joining operands: what stands on the left, and the tokens behind it. -/
def chainStep (level : Nat) (operand : Reader) (loop : Expr × List Token → Except FormulaError (Expr × List Token)) :
    Expr × List Token → Except FormulaError (Expr × List Token)
  | (left, .op o :: ts) =>
    if o.looseness = level then operand ts >>= fun r => loop (.binary o left r.1, r.2) else .ok (left, .op o :: ts)
  | (left, ts) => .ok (left, ts)

/-- One round of reading arguments. -/
def argumentsStep (expression : Reader) (loop : List Token → Except FormulaError (List Expr × List Token))
    (ts : List Token) : Except FormulaError (List Expr × List Token) :=
  expression ts >>= fun r => match r.2 with
    | .closeParen :: rest => .ok ([r.1], rest)
    | .comma :: rest => loop rest >>= fun s => .ok (r.1 :: s.1, s.2)
    | [] => .error .missingCallParenthesis
    | _ => .error .unclosedCall

theorem chain_eq_step (level : Nat) (operand : Reader) (fuel : Nat) (s : Expr × List Token) :
    chain level operand (fuel + 1) s.1 s.2 = chainStep level operand (fun r => chain level operand fuel r.1 r.2) s := by
  obtain ⟨left, ts⟩ := s
  cases ts with
  | nil => rfl
  | cons t ts => cases t <;> rfl

theorem arguments_eq_step (expression : Reader) (fuel : Nat) (ts : List Token) :
    arguments expression (fuel + 1) ts = argumentsStep expression (arguments expression fuel) ts := by
  rw [arguments, argumentsStep]
  cases taken : expression ts with
  | error e => rfl
  | ok r =>
    obtain ⟨arg, rest⟩ := r
    cases rest with
    | nil => rfl
    | cons t rest => cases t <;> rfl

section Congruence

variable {n : Nat} {operand operand' : Reader} (shrinks : Shrinks operand) (agree : AgreeBelow n operand operand')
include shrinks agree

theorem chainStep_congr (level : Nat) {loop loop' : Expr × List Token → Except FormulaError (Expr × List Token)}
    {s : Expr × List Token} (short : s.2.length ≤ n) (calls : ∀ r, r.2.length < s.2.length → loop r = loop' r) :
    chainStep level operand loop s = chainStep level operand' loop' s := by
  obtain ⟨left, ts⟩ := s
  cases ts with
  | nil => rfl
  | cons t ts =>
    cases t with
    | op o =>
      simp only [chainStep, ← agree ts short]
      split
      · cases taken : operand ts with
        | error e => rfl
        | ok r => exact calls _ (Nat.lt_succ_of_le (shrinks ts r.1 r.2 taken))
      · rfl
    | _ => rfl

theorem argumentsStep_congr {loop loop' : List Token → Except FormulaError (List Expr × List Token)} {ts : List Token}
    (short : ts.length < n) (calls : ∀ us, us.length < ts.length → loop us = loop' us) :
    argumentsStep operand loop ts = argumentsStep operand' loop' ts := by
  simp only [argumentsStep, ← agree ts short]
  cases taken : operand ts with
  | error e => rfl
  | ok r =>
    obtain ⟨arg, rest⟩ := r
    cases rest with
    | nil => rfl
    | cons t rest =>
      cases t with
      | comma =>
        exact congrArg (fun answer => answer >>= fun s => .ok (arg :: s.1, s.2)) (calls rest (shrinks ts arg _ taken))
      | _ => rfl

theorem chain_congr (level fuel : Nat) {s : Expr × List Token} (short : s.2.length ≤ n) :
    chain level operand fuel s.1 s.2 = chain level operand' fuel s.1 s.2 := by
  induction fuel generalizing s with
  | zero => rfl
  | succ fuel ih =>
    rw [chain_eq_step, chain_eq_step]
    apply chainStep_congr shrinks agree level short
    intro r less
    exact ih (Nat.le_trans (Nat.le_of_lt less) short)

theorem arguments_congr (fuel : Nat) {ts : List Token} (short : ts.length < n) :
    arguments operand fuel ts = arguments operand' fuel ts := by
  induction fuel generalizing ts with
  | zero => rfl
  | succ fuel ih =>
    rw [arguments_eq_step, arguments_eq_step]
    apply argumentsStep_congr shrinks agree short
    intro us less
    exact ih (Nat.lt_trans less short)

theorem primary_congr (total : Nat) : AgreeBelow (n + 1) (primary total operand) (primary total operand') := by
  intro ts short
  unfold primary
  split
  all_goals try rfl
  -- only calls and parentheses read expressions, and both have taken tokens before
  next name ts _ =>
    have less : ts.length < n := Nat.lt_of_succ_lt (Nat.lt_of_succ_lt_succ short)
    rw [arguments_congr shrinks agree _ less]
  next ts => rw [agree ts (Nat.lt_of_succ_lt_succ short)]

theorem unary_congr (total : Nat) : AgreeBelow (n + 1) (unary total operand) (unary total operand') := by
  intro ts
  induction ts with
  | nil => exact fun _ => rfl
  | cons t ts ih =>
    intro short
    have primary := primary_congr shrinks agree total (t :: ts) short
    cases t with
    | op o =>
      cases o with
      | sub => rw [unary, unary, ih (Nat.lt_of_succ_lt short)]
      | add => exact ih (Nat.lt_of_succ_lt short)
      | _ => exact primary
    | _ => exact primary

end Congruence

/-- A reader of operands calls the reader of expressions on fewer tokens only. -/
theorem binary_congr {n : Nat} {expression expression' : Reader} (derives : Derives 4 expression)
    (agree : AgreeBelow n expression expression') (total level : Nat) :
    AgreeBelow (n + 1) (binary total expression level) (binary total expression' level) := by
  induction level with
  | zero => exact unary_congr derives.shrinks agree total
  | succ level ih =>
    have shrinks := (derives_binary total derives level).shrinks
    intro ts short
    simp only [binary, ← ih ts short]
    cases taken : binary total expression level ts with
    | error e => rfl
    | ok r =>
      have less : r.2.length ≤ n := Nat.le_trans (shrinks ts r.1 r.2 taken) (Nat.le_of_lt_succ short)
      exact chain_congr shrinks ih _ _ (Nat.le_succ_of_le less)

theorem rounds_chain (level : Nat) {operand : Reader} (shrinks : Shrinks operand) :
    Rounds (fun s : Expr × List Token => s.2.length) (chainStep level operand)
      (fun fuel s => chain level operand fuel s.1 s.2) := by
  refine ⟨?_, chain_eq_step level operand, ?_⟩
  · rintro loop ⟨left, ts⟩ none
    cases List.length_eq_zero_iff.1 none
    rfl
  · intro fuel loop s calls
    exact chainStep_congr shrinks (fun _ _ => rfl) level (Nat.le_refl _) calls

theorem rounds_arguments {expression : Reader} (shrinks : Shrinks expression) :
    Rounds List.length (argumentsStep expression) (fun fuel => arguments expression (fuel + 1)) := by
  have smaller (fuel : Nat) (loop) (ts : List Token)
      (calls : ∀ us, us.length < ts.length → arguments expression fuel us = loop us) :
      argumentsStep expression (arguments expression fuel) ts = argumentsStep expression loop ts :=
    argumentsStep_congr shrinks (fun _ _ => rfl) (Nat.lt_succ_self _) calls
  refine ⟨?_, fun fuel => arguments_eq_step expression (fuel + 1), fun fuel => smaller (fuel + 1)⟩
  intro loop ts none
  rw [arguments_eq_step]
  apply smaller
  intro us less
  omega

theorem rounds_expression (total : Nat) :
    Rounds List.length (fun read => binary total read 4) (fun depth => expression total (depth + 1)) := by
  have smaller (depth : Nat) (read : Reader) (ts : List Token)
      (calls : AgreeBelow ts.length (expression total depth) read) :
      binary total (expression total depth) 4 ts = binary total read 4 ts :=
    binary_congr (derives_expression total depth) calls total 4 ts (Nat.lt_succ_self _)
  refine ⟨?_, fun _ _ => rfl, fun depth => smaller (depth + 1)⟩
  intro read ts none
  rw [expression]
  apply smaller
  intro us less
  omega

/-- Reads expressions with as much depth as there are tokens, and one more. -/
def whole (total : Nat) : Reader := fun ts => expression total (ts.length + 1) ts

theorem derives_whole (total : Nat) : Derives 4 (whole total) :=
  fun ts => derives_expression total (ts.length + 1) ts

/-- Reading comes to an end: the recursions that reading follows, without any counter, have one solution each, which is
what is read with the counters. -/
structure Terminates (total : Nat) : Prop where
  nesting : ∀ read : Reader, (∀ ts, read ts = binary total read 4 ts) ↔ ∀ ts, read ts = whole total ts
  joining : ∀ level loop,
    (∀ s, loop s = chainStep (level + 1) (binary total (whole total) level) loop s) ↔
      ∀ s, loop s = chain (level + 1) (binary total (whole total) level) s.2.length s.1 s.2
  listing : ∀ loop,
    (∀ ts, loop ts = argumentsStep (whole total) loop ts) ↔ ∀ ts, loop ts = arguments (whole total) (ts.length + 1) ts

theorem terminates (total : Nat) : Terminates total := by
  refine ⟨(rounds_expression total).calls_iff, ?_, ?_⟩
  · intro level
    exact (rounds_chain _ (derives_binary total (derives_whole total) level).shrinks).calls_iff
  · exact (rounds_arguments (derives_whole total).shrinks).calls_iff

end Spreadsheet.Formula.Grammar
