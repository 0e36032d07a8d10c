import Spreadsheet.Proofs.Formula.Parsing
import Spreadsheet.Proofs.Formula.Pass

/-! What reading an expression depends on. Tokens that differ only in the cells of their references have derivations that
differ only there, so that they are read alike, to expressions of one shape or to errors; and a text that can be read
never has a reference right behind a number, nor right before an opening parenthesis, where every name stands. -/
namespace Spreadsheet.Formula

/-- Tokens that are equal, or references to related cells. -/
inductive Token.Matches (related : Position → Position → Prop) : Token → Token → Prop
  | ref {p q : Position} (pair : related p q) : Matches related (.ref p) (.ref q)
  | other {t : Token} (plain : ∀ p, t ≠ .ref p) : Matches related t t

/-- Two results that are both errors, or related values. -/
inductive Agrees {ε α β : Type} (related : α → β → Prop) : Except ε α → Except ε β → Prop
  | error (e e' : ε) : Agrees related (.error e) (.error e')
  | ok {a : α} {b : β} (pair : related a b) : Agrees related (.ok a) (.ok b)

theorem Agrees.bind {ε α β γ δ : Type} {first : α → β → Prop} {second : γ → δ → Prop} {x : Except ε α}
    {y : Except ε β} {f : α → Except ε γ} {g : β → Except ε δ} (agrees : Agrees first x y)
    (next : ∀ a b, first a b → Agrees second (f a) (g b)) :
    Agrees second (x >>= f) (y >>= g) := by
  cases agrees with
  | error e e' => exact .error e e'
  | ok pair => exact next _ _ pair

theorem Token.Matches.swap {related : Position → Position → Prop} {t u : Token} (same : t.Matches related u) :
    u.Matches (flip related) t := by
  cases same with
  | ref pair => exact .ref pair
  | other plain => exact .other plain

/-- A relation of expressions, and one of lists of them, kept by everything that builds expressions from references to
related cells. -/
structure Expr.Congruence (related : Position → Position → Prop) (alike : Expr → Expr → Prop)
    (alikeAll : List Expr → List Expr → Prop) : Prop where
  number (x : Float) : alike (.number x) (.number x)
  text (s : String) : alike (.text s) (.text s)
  ref {p p' : Position} (pair : related p p') : alike (.ref p) (.ref p')
  range {p p' q q' : Position} (first : related p p') (last : related q q') :
    alike (.range (Range.between p q)) (.range (Range.between p' q'))
  nil : alikeAll [] []
  cons {e e' : Expr} {es es' : List Expr} (head : alike e e') (tail : alikeAll es es') : alikeAll (e :: es) (e' :: es')
  call (name : String) {es es' : List Expr} (all : alikeAll es es') : alike (.call name es) (.call name es')
  neg {e e' : Expr} (inner : alike e e') : alike (.neg e) (.neg e')
  binary (o : Op) {l l' r r' : Expr} (left : alike l l') (right : alike r r') : alike (.binary o l r) (.binary o l' r')

namespace Grammar

variable {related : Position → Position → Prop}

abbrev TokensMatch (related : Position → Position → Prop) : List Token → List Token → Prop :=
  List.Forall₂ (Token.Matches related)

theorem match_nil {ts : List Token} (same : TokensMatch related ts []) : ts = [] := List.forall₂_nil_right_iff.1 same

theorem match_cons {t : Token} {ts us : List Token} (same : TokensMatch related ts (t :: us)) (plain : ∀ p, t ≠ .ref p) :
    ∃ vs, ts = t :: vs ∧ TokensMatch related vs us := by
  obtain ⟨u, vs, head, tail, rfl⟩ := List.forall₂_cons_right_iff.1 same
  cases head with
  | ref => exact absurd rfl (plain _)
  | other => exact ⟨vs, rfl, tail⟩

theorem match_ref {p : Position} {ts us : List Token} (same : TokensMatch related ts (.ref p :: us)) :
    ∃ q vs, ts = .ref q :: vs ∧ related q p ∧ TokensMatch related vs us := by
  obtain ⟨t, vs, head, tail, rfl⟩ := List.forall₂_cons_right_iff.1 same
  cases head with
  | ref pair => exact ⟨_, vs, rfl, pair, tail⟩
  | other plain => exact absurd rfl (plain p)

theorem match_append {ts us vs : List Token} (same : TokensMatch related ts (us ++ vs)) :
    ∃ us' vs', ts = us' ++ vs' ∧ TokensMatch related us' us ∧ TokensMatch related vs' vs :=
  ⟨ts.take us.length, ts.drop us.length, (List.take_append_drop _ _).symm, List.forall₂_take_append _ _ _ same,
    List.forall₂_drop_append _ _ _ same⟩

section Matching

variable {alike : Expr → Expr → Prop} {alikeAll : List Expr → List Expr → Prop}
  (congruence : Expr.Congruence related alike alikeAll)
include congruence

mutual

/-- Tokens that match those of a derivation have one too, over the same rules, with a related tree. -/
theorem Phrase.exists_matching {level : Nat} (d : Phrase level) {ts : List Token} (same : TokensMatch related ts d.tokens) :
    ∃ d' : Phrase level, d'.tokens = ts ∧ alike d'.tree d.tree := by
  match d with
  | .minus operand =>
    obtain ⟨us, rfl, rest⟩ := match_cons same fun _ => Token.noConfusion
    obtain ⟨d', rfl, inner⟩ := operand.exists_matching rest
    exact ⟨.minus d', rfl, congruence.neg inner⟩
  | .plus operand =>
    obtain ⟨us, rfl, rest⟩ := match_cons same fun _ => Token.noConfusion
    obtain ⟨d', rfl, inner⟩ := operand.exists_matching rest
    exact ⟨.plus d', rfl, inner⟩
  | .primary p =>
    obtain ⟨p', rfl, inner⟩ := p.exists_matching same
    exact ⟨.primary p', rfl, inner⟩
  | .row first others =>
    obtain ⟨us, vs, rfl, front, back⟩ := match_append same
    obtain ⟨first', rfl, begun⟩ := first.exists_matching front
    obtain ⟨others', rfl, joined⟩ := others.exists_matching back
    exact ⟨.row first' others', rfl, joined _ _ begun⟩
termination_by structural d

theorem Operands.exists_matching {level : Nat} (others : Operands level) {ts : List Token}
    (same : TokensMatch related ts others.tokens) :
    ∃ others' : Operands level, others'.tokens = ts ∧
      ∀ left left' : Expr, alike left' left → alike (others'.join left') (others.join left) := by
  match others with
  | .nil => exact ⟨.nil, (match_nil same).symm, fun _ _ begun => begun⟩
  | .cons o fits operand more =>
    obtain ⟨us, rfl, after⟩ := match_cons same fun _ => Token.noConfusion
    obtain ⟨vs, ws, rfl, front, back⟩ := match_append after
    obtain ⟨operand', rfl, right⟩ := operand.exists_matching front
    obtain ⟨more', rfl, joined⟩ := more.exists_matching back
    refine ⟨.cons o fits operand' more', rfl, ?_⟩
    intro left left' begun
    exact joined _ _ (congruence.binary o begun right)
termination_by structural others

theorem Primary.exists_matching (p : Primary) {ts : List Token} (same : TokensMatch related ts p.tokens) :
    ∃ p' : Primary, p'.tokens = ts ∧ alike p'.tree p.tree := by
  match p with
  | .number x =>
    obtain ⟨us, rfl, done⟩ := match_cons same fun _ => Token.noConfusion
    obtain rfl := match_nil done
    exact ⟨.number x, rfl, congruence.number x⟩
  | .text s =>
    obtain ⟨us, rfl, done⟩ := match_cons same fun _ => Token.noConfusion
    obtain rfl := match_nil done
    exact ⟨.text s, rfl, congruence.text s⟩
  | .ref p =>
    obtain ⟨p', us, rfl, pair, done⟩ := match_ref same
    obtain rfl := match_nil done
    exact ⟨.ref p', rfl, congruence.ref pair⟩
  | .range p q =>
    obtain ⟨p', us, rfl, first, separated⟩ := match_ref same
    obtain ⟨vs, rfl, corner⟩ := match_cons separated fun _ => Token.noConfusion
    obtain ⟨q', ws, rfl, last, done⟩ := match_ref corner
    obtain rfl := match_nil done
    exact ⟨.range p' q', rfl, congruence.range first last⟩
  | .call name =>
    obtain ⟨us, rfl, opened⟩ := match_cons same fun _ => Token.noConfusion
    obtain ⟨vs, rfl, closed⟩ := match_cons opened fun _ => Token.noConfusion
    obtain ⟨ws, rfl, done⟩ := match_cons closed fun _ => Token.noConfusion
    obtain rfl := match_nil done
    exact ⟨.call name, rfl, congruence.call name congruence.nil⟩
  | .callWith name args =>
    obtain ⟨us, rfl, opened⟩ := match_cons same fun _ => Token.noConfusion
    obtain ⟨vs, rfl, inside⟩ := match_cons opened fun _ => Token.noConfusion
    obtain ⟨ws, xs, rfl, front, closed⟩ := match_append inside
    obtain ⟨ys, rfl, done⟩ := match_cons closed fun _ => Token.noConfusion
    obtain rfl := match_nil done
    obtain ⟨args', rfl, all⟩ := args.exists_matching front
    exact ⟨.callWith name args', rfl, congruence.call name all⟩
  | .group inner =>
    obtain ⟨us, rfl, inside⟩ := match_cons same fun _ => Token.noConfusion
    obtain ⟨vs, ws, rfl, front, closed⟩ := match_append inside
    obtain ⟨xs, rfl, done⟩ := match_cons closed fun _ => Token.noConfusion
    obtain rfl := match_nil done
    obtain ⟨inner', rfl, tree⟩ := inner.exists_matching front
    exact ⟨.group inner', rfl, tree⟩
termination_by structural p

theorem Arguments.exists_matching (args : Arguments) {ts : List Token} (same : TokensMatch related ts args.tokens) :
    ∃ args' : Arguments, args'.tokens = ts ∧ alikeAll args'.trees args.trees := by
  match args with
  | .one arg =>
    obtain ⟨arg', rfl, head⟩ := arg.exists_matching same
    exact ⟨.one arg', rfl, congruence.cons head congruence.nil⟩
  | .more arg others =>
    obtain ⟨us, vs, rfl, front, back⟩ := match_append same
    obtain ⟨ws, rfl, rest⟩ := match_cons back fun _ => Token.noConfusion
    obtain ⟨arg', rfl, head⟩ := arg.exists_matching front
    obtain ⟨others', rfl, tail⟩ := others.exists_matching rest
    exact ⟨.more arg' others', rfl, congruence.cons head tail⟩
termination_by structural args

end

theorem exists_ofTokens_matching {ts us : List Token} (same : TokensMatch related ts us) {e : Expr}
    (read : Expr.ofTokens us = .ok e) : ∃ e', Expr.ofTokens ts = .ok e' ∧ alike e' e := by
  obtain ⟨d, rfl, rfl⟩ := tokens_of_ofTokens read
  obtain ⟨d', rfl, tree⟩ := d.exists_matching congruence same
  exact ⟨d'.tree, ofTokens_tokens d', tree⟩

end Matching

/-- Ranges between related corners have related cells, one by one. -/
def Spans (related : Position → Position → Prop) : Prop :=
  ∀ p p' q q', related p p' → related q q' →
    List.Forall₂ related (Range.between p q).cells (Range.between p' q').cells

theorem congruence_matches (spans : Spans related) :
    Expr.Congruence related (Expr.Matches related) (Expr.MatchesAll related) where
  number := .number
  text := .text
  ref := .ref
  range first last := .range (spans _ _ _ _ first last)
  nil := .nil
  cons := .cons
  call name _ _ := .call name
  neg := .neg
  binary o _ _ _ _ := .binary o

/-- Every two expressions are related, so that all that is left is whether there is one. -/
theorem congruence_true : Expr.Congruence related (fun _ _ => True) fun _ _ => True := by
  constructor <;> intros <;> trivial

theorem agrees_ofTokens (spans : Spans related) {ts ts' : List Token} (same : TokensMatch related ts ts') :
    Agrees (Expr.Matches related) (Expr.ofTokens ts) (Expr.ofTokens ts') := by
  cases read' : Expr.ofTokens ts' with
  | ok e' =>
    obtain ⟨e, read, pair⟩ := exists_ofTokens_matching (congruence_matches spans) same read'
    rw [read]
    exact .ok pair
  | error e' =>
    cases read : Expr.ofTokens ts with
    | error e => exact .error e e'
    | ok e =>
      have swapped : TokensMatch (flip related) ts' ts := (same.imp fun _ _ => Token.Matches.swap).flip
      obtain ⟨_, some, _⟩ := exists_ofTokens_matching congruence_true swapped read
      rw [read'] at some
      cases some

end Grammar

namespace Expr

mutual

/-- The expression with all coordinates of its references set to zero. -/
def shape : Expr → Expr
  | .number x => .number x
  | .text s => .text s
  | .ref _ => .ref ⟨0, 0⟩
  | .range _ => .range ⟨0, 0, 0, 0⟩
  | .call name args => .call name (shapes args)
  | .neg e => .neg e.shape
  | .binary op left right => .binary op left.shape right.shape

def shapes : List Expr → List Expr
  | [] => []
  | e :: es => e.shape :: shapes es

end

theorem congruence_shape {related : Position → Position → Prop} :
    Congruence related (fun e e' => e.shape = e'.shape) fun es es' => shapes es = shapes es' where
  number _ := rfl
  text _ := rfl
  ref _ := rfl
  range _ _ := rfl
  nil := rfl
  cons head tail := congrArg₂ List.cons head tail
  call name _ _ all := congrArg (call name) all
  neg inner := congrArg neg inner
  binary o _ _ _ _ left right := congrArg₂ (binary o) left right

end Expr

/-- Tokens that differ at most in the cells of references. -/
abbrev Grammar.TokensAlike : List Token → List Token → Prop := TokensMatch fun _ _ => True

/-- Tokens that differ only in the cells of references are read to expressions of one shape. -/
theorem Grammar.exists_ofTokens_alike {ts us : List Token} (same : TokensAlike ts us) {e : Expr}
    (read : Expr.ofTokens us = .ok e) : ∃ e', Expr.ofTokens ts = .ok e' ∧ e'.shape = e.shape :=
  exists_ofTokens_matching Expr.congruence_shape same read

/-- May the second token stand right behind the first? References neither follow numbers nor are called. -/
def Token.mayPrecede : Token → Token → Bool
  | .number _, .ref _ => false
  | .ref _, .openParen => false
  | _, _ => true

/-- Every token may precede the next one. -/
abbrev Orderly (ts : List Token) : Prop := ts.IsChain fun t u => t.mayPrecede u = true

/-- Tokens that may stand next to all others. -/
def Token.Free (t : Token) : Prop := ∀ u : Token, u.mayPrecede t = true ∧ t.mayPrecede u = true

namespace Token

theorem free_op (o : Op) : (op o).Free := by
  intro u
  cases u <;> exact ⟨rfl, rfl⟩

theorem free_name (n : String) : (name n).Free := by
  intro u
  cases u <;> exact ⟨rfl, rfl⟩

theorem openParen_mayPrecede (u : Token) : openParen.mayPrecede u = true := by
  cases u <;> rfl

theorem free_comma : comma.Free := by
  intro u
  cases u <;> exact ⟨rfl, rfl⟩

theorem free_closeParen : closeParen.Free := by
  intro u
  cases u <;> exact ⟨rfl, rfl⟩

end Token

theorem orderly_append {ts us : List Token} (first : Orderly ts) (second : Orderly us)
    (free : ∀ u ∈ us.head?, u.Free) :
    Orderly (ts ++ us) := by
  refine List.isChain_append.2 ⟨first, second, ?_⟩
  intro t _ u next
  exact (free u next t).1

theorem orderly_cons {t : Token} {us : List Token} (free : ∀ u : Token, t.mayPrecede u = true)
    (rest : Orderly us) :
    Orderly (t :: us) := by
  refine List.isChain_cons.2 ⟨?_, rest⟩
  intro u _
  exact free u

theorem orderly_free_cons {t : Token} {us : List Token} (free : t.Free) (rest : Orderly us) : Orderly (t :: us) :=
  orderly_cons (fun u => (free u).2) rest

namespace Grammar

theorem Operands.free {level : Nat} (others : Operands level) : ∀ u ∈ others.tokens.head?, u.Free := by
  cases others with
  | nil => exact nofun
  | cons o fits operand others =>
    intro u first
    cases first
    exact Token.free_op o

mutual

theorem Phrase.orderly {level : Nat} (d : Phrase level) : Orderly d.tokens := by
  match d with
  | .minus operand => exact orderly_free_cons (Token.free_op .sub) operand.orderly
  | .plus operand => exact orderly_free_cons (Token.free_op .add) operand.orderly
  | .primary p => exact p.orderly
  | .row first others => exact orderly_append first.orderly others.orderly others.free

theorem Operands.orderly {level : Nat} (others : Operands level) : Orderly others.tokens := by
  match others with
  | .nil => exact .nil
  | .cons o _ operand others =>
    exact orderly_free_cons (Token.free_op o) (orderly_append operand.orderly others.orderly others.free)

theorem Primary.orderly (p : Primary) : Orderly p.tokens := by
  match p with
  | .number x => exact .singleton _
  | .text s => exact .singleton _
  | .ref p => exact .singleton _
  | .range p q => simp [Primary.tokens, Token.mayPrecede]
  | .call name => simp [Primary.tokens, Token.mayPrecede]
  | .callWith name args =>
    have closed : Orderly (args.tokens ++ [.closeParen]) :=
      orderly_append args.orderly (.singleton _) (by simpa using Token.free_closeParen)
    exact orderly_free_cons (Token.free_name name) (orderly_cons Token.openParen_mayPrecede closed)
  | .group inner =>
    have closed : Orderly (inner.tokens ++ [.closeParen]) :=
      orderly_append inner.orderly (.singleton _) (by simpa using Token.free_closeParen)
    exact orderly_cons Token.openParen_mayPrecede closed

theorem Arguments.orderly (args : Arguments) : Orderly args.tokens := by
  match args with
  | .one arg => exact arg.orderly
  | .more arg others =>
    exact orderly_append arg.orderly (orderly_free_cons Token.free_comma others.orderly)
      (by simpa using Token.free_comma)

end

theorem orderly_of_ofTokens {ts : List Token} {e : Expr} (read : Expr.ofTokens ts = .ok e) : Orderly ts := by
  obtain ⟨d, rfl, _⟩ := tokens_of_ofTokens read
  exact d.orderly

end Grammar

/-- Every name stands right before an opening parenthesis. -/
def NamesCalled : List Token → Prop
  | [] => True
  | .name _ :: ts => ts.head? = some .openParen ∧ NamesCalled ts
  | _ :: ts => NamesCalled ts

theorem namesCalled_append {ts us : List Token} (first : NamesCalled ts) (second : NamesCalled us) :
    NamesCalled (ts ++ us) := by
  induction ts with
  | nil => exact second
  | cons t ts ih =>
    cases t with
    | name n =>
      obtain ⟨called, rest⟩ := first
      refine ⟨?_, ih rest⟩
      change (ts ++ us).head? = some .openParen
      rw [List.head?_append, called, Option.some_or]
    | _ => exact ih first

namespace Grammar

mutual

theorem Phrase.namesCalled {level : Nat} (d : Phrase level) : NamesCalled d.tokens := by
  match d with
  | .minus operand => exact operand.namesCalled
  | .plus operand => exact operand.namesCalled
  | .primary p => exact p.namesCalled
  | .row first others => exact namesCalled_append first.namesCalled others.namesCalled

theorem Operands.namesCalled {level : Nat} (others : Operands level) : NamesCalled others.tokens := by
  match others with
  | .nil => exact trivial
  | .cons _ _ operand others => exact namesCalled_append operand.namesCalled others.namesCalled

theorem Primary.namesCalled (p : Primary) : NamesCalled p.tokens := by
  match p with
  | .number _ => exact trivial
  | .text _ => exact trivial
  | .ref _ => exact trivial
  | .range _ _ => exact trivial
  | .call _ => exact ⟨rfl, trivial⟩
  | .callWith _ args => exact ⟨rfl, namesCalled_append args.namesCalled trivial⟩
  | .group inner => exact namesCalled_append inner.namesCalled trivial

theorem Arguments.namesCalled (args : Arguments) : NamesCalled args.tokens := by
  match args with
  | .one arg => exact arg.namesCalled
  | .more arg others => exact namesCalled_append arg.namesCalled others.namesCalled

end

theorem namesCalled_of_ofTokens {ts : List Token} {e : Expr} (read : Expr.ofTokens ts = .ok e) : NamesCalled ts := by
  obtain ⟨d, rfl, _⟩ := tokens_of_ofTokens read
  exact d.namesCalled

end Grammar

end Spreadsheet.Formula
