import Spreadsheet.Proofs.Formula.Termination

/-! Reading expressions against the grammar. The readers follow every derivation to its end, so a list of tokens forms
an expression just when it has a derivation, and the expression is the tree of that derivation. -/
namespace Spreadsheet.Formula.Grammar

section Completeness

variable (total : Nat)

theorem unary_primary (expression : Reader) (p : Primary) (rest : List Token) :
    unary total expression (p.tokens ++ rest) = primary total expression (p.tokens ++ rest) := by
  cases p <;> rfl

theorem primary_ref (expression : Reader) (p : Position) {rest : List Token} (ends : Ends 0 rest) :
    primary total expression (.ref p :: rest) = .ok (.ref p, rest) := by
  rw [primary]
  intro q more same
  exact ends.not_colon _ same

theorem primary_callWith (expression : Reader) (name : String) (args : Arguments) (rest : List Token) :
    primary total expression (.name name :: .openParen :: (args.tokens ++ rest)) =
      (arguments expression ((args.tokens ++ rest).length + 1) (args.tokens ++ rest) >>= fun r =>
        .ok (.call name r.1, r.2)) := by
  obtain ⟨t, ts, starts, other⟩ := args.starts
  rw [starts, List.cons_append, primary]
  · rfl
  · rintro more same
    exact other (List.cons.inj same).1

theorem chain_stop {level : Nat} (operand : Reader) (fuel : Nat) (left : Expr) {ts : List Token}
    (stop : ∀ o us, o.looseness = level → ts ≠ .op o :: us) : chain level operand fuel left ts = .ok (left, ts) := by
  unfold chain
  split
  next o us => rw [if_neg fun fits => stop o us fits rfl]
  next => rfl

mutual

/-- A derivation is followed to its end where no token behind it could go on with it. -/
theorem Phrase.read {level : Nat} (d : Phrase level) (depth : Nat) (enough : d.tokens.length ≤ depth)
    {rest : List Token} (ends : Ends level rest) :
    binary total (expression total depth) level (d.tokens ++ rest) = .ok (d.tree, rest) := by
  match d with
  | .minus operand =>
    have inner := operand.read depth (Nat.le_of_succ_le enough) ends
    rw [binary] at inner
    simp only [Phrase.tokens, List.cons_append, binary, unary, inner]
    rfl
  | .plus operand => exact operand.read depth (Nat.le_of_succ_le enough) ends
  | .primary p =>
    rw [Phrase.tokens, binary, unary_primary]
    exact p.read depth enough ends
  | .row first others =>
    simp only [Phrase.tokens, List.length_append] at enough
    have begun := first.read depth (by omega) (others.ends ends)
    have joined := others.read depth (others.tokens ++ rest).length first.tree (by omega) (by simp) ends
    simp only [Phrase.tokens, List.append_assoc, binary, begun]
    exact joined
termination_by structural d

theorem Operands.read {level : Nat} (others : Operands level) (depth fuel : Nat) (left : Expr)
    (enough : others.tokens.length ≤ depth) (many : others.tokens.length ≤ fuel) {rest : List Token}
    (ends : Ends (level + 1) rest) :
    chain (level + 1) (binary total (expression total depth) level) fuel left (others.tokens ++ rest) =
      .ok (others.join left, rest) := by
  match others with
  | .nil => exact chain_stop _ fuel left fun o us fits => ends.not_op (Nat.le_of_eq fits) us
  | .cons o fits operand more =>
    simp only [Operands.tokens, List.length_cons, List.length_append] at enough many
    obtain ⟨fuel, rfl⟩ : ∃ n, fuel = n + 1 := ⟨fuel - 1, by omega⟩
    have right := operand.read depth (by omega) (more.ends ends)
    have joined := more.read depth fuel (.binary o left operand.tree) (by omega) (by omega) ends
    simp only [Operands.tokens, List.cons_append, List.append_assoc, chain, fits, if_true, right]
    exact joined
termination_by structural others

theorem Primary.read (p : Primary) (depth : Nat) (enough : p.tokens.length ≤ depth) {rest : List Token}
    (ends : Ends 0 rest) : primary total (expression total depth) (p.tokens ++ rest) = .ok (p.tree, rest) := by
  cases p with
  | number x => rfl
  | text s => rfl
  | ref p => exact primary_ref total _ p ends
  | range p q => rfl
  | call name => rfl
  | callWith name args =>
    simp only [Primary.tokens, List.length_cons, List.length_append] at enough
    -- a level of nesting costs a name or a parenthesis, so the depth lasts
    obtain ⟨depth, rfl⟩ : ∃ n, depth = n + 1 := ⟨depth - 1, by omega⟩
    have listed := args.read depth (args.tokens ++ .closeParen :: rest).length (by omega) (by simp) rest
    simp only [Primary.tokens, List.cons_append, List.append_assoc, List.nil_append, primary_callWith, listed]
    rfl
  | group inner =>
    simp only [Primary.tokens, List.length_cons, List.length_append] at enough
    obtain ⟨depth, rfl⟩ : ∃ n, depth = n + 1 := ⟨depth - 1, by omega⟩
    have inside := inner.read depth (by omega) (ends_closeParen 4 rest)
    simp only [Primary.tokens, List.cons_append, List.append_assoc, List.nil_append, primary, expression, inside]
    rfl
termination_by structural p

theorem Arguments.read (args : Arguments) (depth fuel : Nat) (enough : args.tokens.length ≤ depth)
    (many : args.tokens.length ≤ fuel) (rest : List Token) :
    arguments (expression total (depth + 1)) (fuel + 1) (args.tokens ++ .closeParen :: rest) =
      .ok (args.trees, rest) := by
  match args with
  | .one arg =>
    have taken := arg.read depth enough (ends_closeParen 4 rest)
    rw [Arguments.tokens, arguments_eq_step, argumentsStep, expression, taken]
    rfl
  | .more arg others =>
    simp only [Arguments.tokens, List.length_append, List.length_cons] at enough many
    obtain ⟨fuel, rfl⟩ : ∃ n, fuel = n + 1 := ⟨fuel - 1, by omega⟩
    have taken := arg.read depth (by omega) (ends_comma 4 (others.tokens ++ .closeParen :: rest))
    have listed := others.read depth fuel (by omega) (by omega) rest
    rw [expression] at listed
    rw [Arguments.tokens, List.append_assoc, List.cons_append, arguments_eq_step, argumentsStep, expression, taken]
    exact congrArg (fun answer => answer >>= fun s => .ok (arg.tree :: s.1, s.2)) listed
termination_by structural args

end

end Completeness

theorem ofTokens_tokens (d : Phrase 4) : Expr.ofTokens d.tokens = .ok d.tree := by
  obtain ⟨t, ts, starts, _⟩ := d.starts
  have taken := d.read d.tokens.length d.tokens.length (Nat.le_refl _) (ends_nil 4)
  rw [List.append_nil, starts] at taken
  rw [starts, Expr.ofTokens, expression, taken]
  rfl

theorem tokens_of_ofTokens {ts : List Token} {e : Expr} (read : Expr.ofTokens ts = .ok e) :
    ∃ d : Phrase 4, d.tokens = ts ∧ d.tree = e := by
  rw [Expr.ofTokens] at read
  split at read
  next => cases read
  next =>
    obtain ⟨⟨e', rest⟩, taken, after⟩ := Run.bind_eq_ok_iff.1 read
    obtain ⟨d, same, tree⟩ := derives_expression _ _ _ _ _ taken
    dsimp only at after
    split at after
    next done =>
      cases after
      rw [List.isEmpty_iff.1 done, List.append_nil] at same
      exact ⟨d, same, tree⟩
    next => cases after

/-- Reading any tokens comes to an end, and it succeeds just for those that have a derivation, with the tree of that
derivation, of which there is only one. -/
theorem ofTokens_eq_ok_iff (ts : List Token) :
    Terminates ts.length ∧ (∀ e, Expr.ofTokens ts = .ok e ↔ ∃ d : Phrase 4, d.tokens = ts ∧ d.tree = e) ∧
      ∀ d d' : Phrase 4, d.tokens = ts → d'.tokens = ts → d = d' := by
  refine ⟨terminates ts.length, ?_, ?_⟩
  · intro e
    constructor
    · exact tokens_of_ofTokens
    · rintro ⟨d, rfl, rfl⟩
      exact ofTokens_tokens d
  · intro d d' derived derived'
    exact Phrase.tokens_injective 4 (derived.trans derived'.symm)

example : Expr.ofTokens [.ref ⟨0, 0⟩, .op .sub, .ref ⟨0, 1⟩, .op .sub, .op .add, .ref ⟨1, 1⟩, .colon, .ref ⟨0, 0⟩] =
    .ok (.binary .sub (.binary .sub (.ref ⟨0, 0⟩) (.ref ⟨0, 1⟩)) (.range ⟨0, 0, 1, 1⟩)) := rfl

end Spreadsheet.Formula.Grammar
