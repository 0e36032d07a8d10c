import Spreadsheet.Formula.Grammar
import Spreadsheet.Proofs.Run

/-! The grammar of expressions and its derivations. An operand of level zero is a primary behind any number of signs; an
operand of a higher level is a row of operands of the level below, joined by the operators of that looseness. A list of
tokens has at most one derivation, and whatever is read from tokens has one. -/
namespace Spreadsheet.Formula.Grammar

mutual

/-- A derivation of an operand of the given level. Whole expressions are operands of level four. -/
inductive Phrase : Nat → Type
  | minus (operand : Phrase 0) : Phrase 0
  | plus (operand : Phrase 0) : Phrase 0
  | primary (p : Primary) : Phrase 0
  | row {level : Nat} (first : Phrase level) (others : Operands level) : Phrase (level + 1)

/-- Any number of operands of the given level, each behind an operator of the next looseness. -/
inductive Operands : Nat → Type
  | nil {level : Nat} : Operands level
  | cons {level : Nat} (o : Op) (fits : o.looseness = level + 1) (operand : Phrase level) (others : Operands level) :
    Operands level

inductive Primary : Type
  | number (x : Float)
  | text (s : String)
  | ref (p : Position)
  | range (p q : Position)
  | call (name : String)
  | callWith (name : String) (args : Arguments)
  | group (inner : Phrase 4)

/-- One or more arguments, with commas between them. -/
inductive Arguments : Type
  | one (arg : Phrase 4)
  | more (arg : Phrase 4) (others : Arguments)

end

mutual

/-- The tokens that are derived. -/
def Phrase.tokens {level : Nat} : Phrase level → List Token
  | .minus operand => .op .sub :: operand.tokens
  | .plus operand => .op .add :: operand.tokens
  | .primary p => p.tokens
  | .row first others => first.tokens ++ others.tokens

def Operands.tokens {level : Nat} : Operands level → List Token
  | .nil => []
  | .cons o _ operand others => .op o :: (operand.tokens ++ others.tokens)

def Primary.tokens : Primary → List Token
  | .number x => [.number x]
  | .text s => [.text s]
  | .ref p => [.ref p]
  | .range p q => [.ref p, .colon, .ref q]
  | .call name => [.name name, .openParen, .closeParen]
  | .callWith name args => .name name :: .openParen :: (args.tokens ++ [.closeParen])
  | .group inner => .openParen :: (inner.tokens ++ [.closeParen])

def Arguments.tokens : Arguments → List Token
  | .one arg => arg.tokens
  | .more arg others => arg.tokens ++ .comma :: others.tokens

end

mutual

/-- The tree of a derivation: operators associate to the left, plus signs leave nothing behind, and ranges have their
smaller coordinates first. -/
def Phrase.tree {level : Nat} : Phrase level → Expr
  | .minus operand => .neg operand.tree
  | .plus operand => operand.tree
  | .primary p => p.tree
  | .row first others => others.join first.tree

/-- Operands joined to what stands on their left. -/
def Operands.join {level : Nat} (left : Expr) : Operands level → Expr
  | .nil => left
  | .cons o _ operand others => others.join (.binary o left operand.tree)

def Primary.tree : Primary → Expr
  | .number x => .number x
  | .text s => .text s
  | .ref p => .ref p
  | .range p q => .range (Range.between p q)
  | .call name => .call name []
  | .callWith name args => .call name args.trees
  | .group inner => inner.tree

def Arguments.trees : Arguments → List Expr
  | .one arg => [arg.tree]
  | .more arg others => arg.tree :: others.trees

end

/-- Can the token go on with an operand of the level that stands before it? -/
def Token.Extends (level : Nat) (t : Token) : Prop := t = .colon ∨ ∃ o : Op, t = .op o ∧ o.looseness ≤ level

/-- An operand of the level ends before the given tokens. -/
def Ends (level : Nat) (rest : List Token) : Prop := ∀ t ∈ rest.head?, ¬Token.Extends level t

theorem ends_nil (level : Nat) : Ends level [] := nofun

theorem ends_cons {level : Nat} {t : Token} {rest : List Token} (other : ¬Token.Extends level t) :
    Ends level (t :: rest) := by
  intro u first
  cases first
  exact other

theorem ends_closeParen (level : Nat) (rest : List Token) : Ends level (.closeParen :: rest) :=
  ends_cons (by simp [Token.Extends])

theorem ends_comma (level : Nat) (rest : List Token) : Ends level (.comma :: rest) :=
  ends_cons (by simp [Token.Extends])

theorem Ends.lower {level : Nat} {rest : List Token} (ends : Ends (level + 1) rest) : Ends level rest := by
  rintro t first (colon | ⟨o, op, tight⟩)
  · exact ends t first (.inl colon)
  · exact ends t first (.inr ⟨o, op, Nat.le_succ_of_le tight⟩)

theorem Ends.not_colon {level : Nat} {rest : List Token} (ends : Ends level rest) (more : List Token) :
    rest ≠ .colon :: more := by
  rintro rfl
  exact ends _ rfl (.inl rfl)

theorem Ends.not_op {level : Nat} {rest : List Token} (ends : Ends level rest) {o : Op} (tight : o.looseness ≤ level)
    (more : List Token) : rest ≠ .op o :: more := by
  rintro rfl
  exact ends _ rfl (.inr ⟨o, rfl, tight⟩)

theorem Operands.ends {level : Nat} (others : Operands level) {rest : List Token} (ends : Ends (level + 1) rest) :
    Ends level (others.tokens ++ rest) := by
  cases others with
  | nil => exact ends.lower
  | cons o fits operand others =>
    refine ends_cons ?_
    rintro (colon | ⟨o', same, tight⟩)
    · cases colon
    · cases same
      omega

theorem Phrase.starts : {level : Nat} → (d : Phrase level) → ∃ t ts, d.tokens = t :: ts ∧ t ≠ .closeParen
  | _, .minus _ => ⟨_, _, rfl, nofun⟩
  | _, .plus _ => ⟨_, _, rfl, nofun⟩
  | _, .primary p => by cases p <;> exact ⟨_, _, rfl, nofun⟩
  | _, .row first others => by
    obtain ⟨t, ts, same, other⟩ := first.starts
    exact ⟨t, ts ++ others.tokens, by rw [Phrase.tokens, same, List.cons_append], other⟩

theorem Arguments.starts (args : Arguments) : ∃ t ts, args.tokens = t :: ts ∧ t ≠ .closeParen := by
  cases args with
  | one arg => exact arg.starts
  | more arg others =>
    obtain ⟨t, ts, same, other⟩ := arg.starts
    exact ⟨t, ts ++ .comma :: others.tokens, by rw [Arguments.tokens, same, List.cons_append], other⟩

theorem Primary.not_op (p : Primary) (rest : List Token) (o : Op) (more : List Token) :
    p.tokens ++ rest ≠ .op o :: more := by
  cases p <;> simp [Primary.tokens]

-- What follows is part of the statement: where one operand ends, the other ends too, so the next ones start together.
mutual

theorem Phrase.unique {level : Nat} (d d' : Phrase level) {rest rest' : List Token} (ends : Ends level rest)
    (ends' : Ends level rest') (same : d.tokens ++ rest = d'.tokens ++ rest') : d = d' ∧ rest = rest' := by
  match d, d' with
  | .minus operand, .minus operand' =>
    simpa using operand.unique operand' ends ends' (List.cons.inj same).2
  | .plus operand, .plus operand' =>
    simpa using operand.unique operand' ends ends' (List.cons.inj same).2
  | .primary p, .primary p' => simpa using p.unique p' ends ends' same
  | .row first others, .row first' others' =>
    simp only [Phrase.tokens, List.append_assoc] at same
    obtain ⟨rfl, after⟩ := first.unique first' (others.ends ends) (others'.ends ends') same
    simpa using others.unique others' ends ends' after
  | .minus _, .plus _ => simp [Phrase.tokens] at same
  | .plus _, .minus _ => simp [Phrase.tokens] at same
  | .primary p, .minus _ => exact absurd same (p.not_op _ _ _)
  | .primary p, .plus _ => exact absurd same (p.not_op _ _ _)
  | .minus _, .primary p => exact absurd same.symm (p.not_op _ _ _)
  | .plus _, .primary p => exact absurd same.symm (p.not_op _ _ _)
termination_by structural d

theorem Operands.unique {level : Nat} (others others' : Operands level) {rest rest' : List Token}
    (ends : Ends (level + 1) rest) (ends' : Ends (level + 1) rest')
    (same : others.tokens ++ rest = others'.tokens ++ rest') : others = others' ∧ rest = rest' := by
  match others, others' with
  | .nil, .nil => exact ⟨rfl, same⟩
  | .nil, .cons o fits _ _ => exact absurd same (ends.not_op (Nat.le_of_eq fits) _)
  | .cons o fits _ _, .nil => exact absurd same.symm (ends'.not_op (Nat.le_of_eq fits) _)
  | .cons o fits operand more, .cons o' fits' operand' more' =>
    simp only [Operands.tokens, List.cons_append, List.append_assoc, List.cons.injEq, Token.op.injEq] at same
    obtain ⟨rfl, operands⟩ := same
    obtain ⟨rfl, after⟩ := operand.unique operand' (more.ends ends) (more'.ends ends') operands
    simpa using more.unique more' ends ends' after
termination_by structural others

theorem Primary.unique (p p' : Primary) {rest rest' : List Token} (ends : Ends 0 rest) (ends' : Ends 0 rest')
    (same : p.tokens ++ rest = p'.tokens ++ rest') : p = p' ∧ rest = rest' := by
  cases p with
  | number x => cases p' <;> simp_all [Primary.tokens]
  | text s => cases p' <;> simp_all [Primary.tokens]
  | ref p =>
    cases p' with
    | range p' q' => exact absurd (List.cons.inj same).2 (ends.not_colon _)
    | _ => simp_all [Primary.tokens]
  | range p q =>
    cases p' with
    | ref p' => exact absurd (List.cons.inj same).2.symm (ends'.not_colon _)
    | _ => simp_all [Primary.tokens]
  | call name =>
    cases p' with
    | callWith name' args' =>
      obtain ⟨t, ts, starts, other⟩ := args'.starts
      simp [Primary.tokens, starts, other.symm] at same
    | _ => simp_all [Primary.tokens]
  | callWith name args =>
    cases p' with
    | callWith name' args' =>
      simp only [Primary.tokens, List.cons_append, List.append_assoc, List.cons.injEq, Token.name.injEq, true_and] at same
      obtain ⟨rfl, arguments⟩ := same
      obtain ⟨rfl, rfl⟩ := args.unique args' arguments
      exact ⟨rfl, rfl⟩
    | call name' =>
      obtain ⟨t, ts, starts, other⟩ := args.starts
      simp [Primary.tokens, starts, other] at same
    | _ => simp [Primary.tokens] at same
  | group inner =>
    cases p' with
    | group inner' =>
      simp only [Primary.tokens, List.cons_append, List.append_assoc, List.cons.injEq, true_and] at same
      obtain ⟨rfl, after⟩ := inner.unique inner' (ends_closeParen 4 _) (ends_closeParen 4 _) same
      simpa using after
    | _ => simp [Primary.tokens] at same
termination_by structural p

theorem Arguments.unique (args args' : Arguments) {rest rest' : List Token}
    (same : args.tokens ++ .closeParen :: rest = args'.tokens ++ .closeParen :: rest') : args = args' ∧ rest = rest' := by
  match args, args' with
  | .one arg, .one arg' =>
    simpa using arg.unique arg' (ends_closeParen 4 _) (ends_closeParen 4 _) same
  | .one arg, .more arg' others' =>
    simp only [Arguments.tokens, List.append_assoc, List.cons_append] at same
    have rests := (arg.unique arg' (ends_closeParen 4 _) (ends_comma 4 _) same).2
    simp at rests
  | .more arg others, .one arg' =>
    simp only [Arguments.tokens, List.append_assoc, List.cons_append] at same
    have rests := (arg.unique arg' (ends_comma 4 _) (ends_closeParen 4 _) same).2
    simp at rests
  | .more arg others, .more arg' others' =>
    simp only [Arguments.tokens, List.append_assoc, List.cons_append] at same
    obtain ⟨rfl, after⟩ := arg.unique arg' (ends_comma 4 _) (ends_comma 4 _) same
    obtain ⟨rfl, rfl⟩ := others.unique others' (List.cons.inj after).2
    exact ⟨rfl, rfl⟩
termination_by structural args

end

/-- No list of tokens has two derivations. -/
theorem Phrase.tokens_injective (level : Nat) : Function.Injective (@Phrase.tokens level) := by
  intro d d' same
  exact (d.unique d' (ends_nil level) (ends_nil level) (by rw [same])).1

/-- Whatever is read has a derivation: its tokens stand before the rest, and its tree is the answer. -/
def Derives (level : Nat) (reader : Reader) : Prop :=
  ∀ ts e rest, reader ts = .ok (e, rest) → ∃ d : Phrase level, d.tokens ++ rest = ts ∧ d.tree = e

theorem derives_chain {level : Nat} {operand : Reader} (derives : Derives level operand) (fuel : Nat)
    {left e : Expr} {ts rest : List Token} (read : chain (level + 1) operand fuel left ts = .ok (e, rest)) :
    ∃ others : Operands level, others.tokens ++ rest = ts ∧ others.join left = e := by
  have stop {left : Expr} {ts : List Token}
      (same : Except.ok (left, ts) = (.ok (e, rest) : Except FormulaError (Expr × List Token))) :
      ∃ others : Operands level, others.tokens ++ rest = ts ∧ others.join left = e := by
    cases same
    exact ⟨.nil, rfl, rfl⟩
  induction fuel generalizing left ts with
  | zero => exact stop read
  | succ fuel ih =>
    cases ts with
    | nil => exact stop read
    | cons t ts =>
      cases t with
      | op o =>
        simp only [chain] at read
        split at read
        next fits =>
          obtain ⟨⟨right, more⟩, taken, after⟩ := Run.bind_eq_ok_iff.1 read
          obtain ⟨d, rfl, rfl⟩ := derives _ _ _ taken
          obtain ⟨others, rfl, rfl⟩ := ih after
          exact ⟨.cons o fits d others, by simp [Operands.tokens], rfl⟩
        next => exact stop read
      | _ => exact stop read

theorem derives_arguments {expression : Reader} (derives : Derives 4 expression) (fuel : Nat)
    {ts rest : List Token} {args : List Expr} (read : arguments expression fuel ts = .ok (args, rest)) :
    ∃ d : Arguments, d.tokens ++ .closeParen :: rest = ts ∧ d.trees = args := by
  induction fuel generalizing ts args with
  | zero => cases read
  | succ fuel ih =>
    obtain ⟨⟨arg, more⟩, taken, after⟩ := Run.bind_eq_ok_iff.1 read
    obtain ⟨d, rfl, rfl⟩ := derives _ _ _ taken
    dsimp only at after
    split at after
    next rest' =>
      cases after
      exact ⟨.one d, rfl, rfl⟩
    next rest' =>
      obtain ⟨⟨args', rest''⟩, others, last⟩ := Run.bind_eq_ok_iff.1 after
      cases last
      obtain ⟨ds, rfl, rfl⟩ := ih others
      exact ⟨.more d ds, by simp [Arguments.tokens], rfl⟩
    next => cases after
    next => cases after

theorem derives_primary (total : Nat) {expression : Reader} (derives : Derives 4 expression) {ts rest : List Token}
    {e : Expr} (read : primary total expression ts = .ok (e, rest)) :
    ∃ p : Primary, p.tokens ++ rest = ts ∧ p.tree = e := by
  unfold primary at read
  split at read
  next => cases read
  next x rest =>
    cases read
    exact ⟨.number x, rfl, rfl⟩
  next s rest =>
    cases read
    exact ⟨.text s, rfl, rfl⟩
  next p q rest =>
    cases read
    exact ⟨.range p q, rfl, rfl⟩
  next p rest _ =>
    cases read
    exact ⟨.ref p, rfl, rfl⟩
  next n rest =>
    cases read
    exact ⟨.call n, rfl, rfl⟩
  next n ts _ =>
    obtain ⟨⟨args, more⟩, taken, after⟩ := Run.bind_eq_ok_iff.1 read
    obtain ⟨d, rfl, rfl⟩ := derives_arguments derives _ taken
    cases after
    exact ⟨.callWith n d, by simp [Primary.tokens], rfl⟩
  next => cases read
  next ts =>
    obtain ⟨⟨inner, more⟩, taken, after⟩ := Run.bind_eq_ok_iff.1 read
    obtain ⟨d, rfl, rfl⟩ := derives _ _ _ taken
    dsimp only at after
    split at after
    next rest' =>
      cases after
      exact ⟨.group d, by simp [Primary.tokens], rfl⟩
    next => cases after
    next => cases after
  next => cases read

theorem derives_unary (total : Nat) {expression : Reader} (derives : Derives 4 expression) :
    Derives 0 (unary total expression) := by
  intro ts
  have primary {ts : List Token} {e : Expr} {rest : List Token} (read : primary total expression ts = .ok (e, rest)) :
      ∃ d : Phrase 0, d.tokens ++ rest = ts ∧ d.tree = e := by
    obtain ⟨p, same, tree⟩ := derives_primary total derives read
    exact ⟨.primary p, same, tree⟩
  induction ts with
  | nil => exact fun _ _ => primary
  | cons t ts ih =>
    intro e rest read
    cases t with
    | op o =>
      cases o with
      | sub =>
        obtain ⟨⟨inner, more⟩, taken, after⟩ := Run.bind_eq_ok_iff.1 read
        obtain ⟨d, rfl, rfl⟩ := ih _ _ taken
        cases after
        exact ⟨.minus d, rfl, rfl⟩
      | add =>
        obtain ⟨d, rfl, rfl⟩ := ih _ _ read
        exact ⟨.plus d, rfl, rfl⟩
      | _ => exact primary read
    | _ => exact primary read

theorem derives_binary (total : Nat) {expression : Reader} (derives : Derives 4 expression) (level : Nat) :
    Derives level (binary total expression level) := by
  induction level with
  | zero => exact derives_unary total derives
  | succ level ih =>
    intro ts e rest read
    obtain ⟨⟨left, more⟩, taken, after⟩ := Run.bind_eq_ok_iff.1 read
    obtain ⟨first, rfl, rfl⟩ := ih _ _ _ taken
    obtain ⟨others, rfl, rfl⟩ := derives_chain ih _ after
    exact ⟨.row first others, by simp [Phrase.tokens], rfl⟩

theorem derives_expression (total depth : Nat) : Derives 4 (expression total depth) := by
  induction depth with
  | zero => exact nofun
  | succ depth ih => exact derives_binary total ih 4

end Spreadsheet.Formula.Grammar
