import Mathlib
import Spreadsheet.Formula.Evaluation

/-! What a pass computes. A pass leaves the list of formulas under way as it found it, so the value of a cell depends
on that list alone and expressions can be evaluated without state; and expressions that differ only in what they refer
to have equal values over look-ups that agree there. -/
namespace Spreadsheet.Formula

namespace Expr

/-- The value over given values of all cells. -/
def value (values : Position → Value) (e : Expr) : Value := (e.eval (m := Id) values).run

def argValues (values : Position → Value) (es : List Expr) : List Arg := (evalArgs (m := Id) values es).run

theorem argValues_range (values : Position → Value) (r : Range) (es : List Expr) :
    argValues values (.range r :: es) = .range (r.cells.map values) :: argValues values es := by
  have items : (r.cells.mapM (m := Id) values).run = r.cells.map values := List.idRun_mapM
  exact congrArg (Arg.range · :: argValues values es) items

theorem argValues_single (values : Position → Value) {e : Expr} (single : ∀ r, e ≠ .range r) (es : List Expr) :
    argValues values (e :: es) = .single (e.value values) :: argValues values es := by
  cases e with
  | range r => exact absurd rfl (single r)
  | _ => rfl

mutual

/-- Every cell that is referred to, those of ranges one by one. -/
def references : Expr → List Position
  | .number _ => []
  | .text _ => []
  | .ref p => [p]
  | .range r => r.cells
  | .call _ args => allReferences args
  | .neg e => e.references
  | .binary _ left right => left.references ++ right.references

def allReferences : List Expr → List Position
  | [] => []
  | e :: es => e.references ++ allReferences es

end

mutual

/-- Two expressions of one shape whose references are related place by place. -/
inductive Matches (related : Position → Position → Prop) : Expr → Expr → Prop
  | number (x : Float) : Matches related (.number x) (.number x)
  | text (s : String) : Matches related (.text s) (.text s)
  | ref {p q : Position} (pair : related p q) : Matches related (.ref p) (.ref q)
  | range {r s : Range} (pairs : List.Forall₂ related r.cells s.cells) : Matches related (.range r) (.range s)
  | call (name : String) {args args' : List Expr} (all : MatchesAll related args args') :
    Matches related (.call name args) (.call name args')
  | neg {e e' : Expr} (inner : Matches related e e') : Matches related (.neg e) (.neg e')
  | binary (op : Op) {l l' r r' : Expr} (left : Matches related l l') (right : Matches related r r') :
    Matches related (.binary op l r) (.binary op l' r')

inductive MatchesAll (related : Position → Position → Prop) : List Expr → List Expr → Prop
  | nil : MatchesAll related [] []
  | cons {e e' : Expr} {es es' : List Expr} (head : Matches related e e') (tail : MatchesAll related es es') :
    MatchesAll related (e :: es) (e' :: es')

end

theorem map_eq_map_of_forall₂ {related : Position → Position → Prop} {values values' : Position → Value}
    {ps qs : List Position}
    (agree : ∀ p q, related p q → values p = values' q) (pairs : List.Forall₂ related ps qs) :
    ps.map values = qs.map values' := by
  induction pairs with
  | nil => rfl
  | cons head _ ih => rw [List.map_cons, List.map_cons, agree _ _ head, ih]

section Matches

variable {related : Position → Position → Prop} {values values' : Position → Value}
  (agree : ∀ p q, related p q → values p = values' q)
include agree

mutual

theorem Matches.value_eq {e e' : Expr} (same : Matches related e e') : e.value values = e'.value values' :=
  match same with
  | .number _ => rfl
  | .text _ => rfl
  | .ref pair => agree _ _ pair
  | .range _ => rfl
  | .call name all => congrArg (Formula.call name) all.argValues_eq
  | .neg inner => congrArg negate inner.value_eq
  | .binary op left right => congrArg₂ (apply op) left.value_eq right.value_eq

theorem MatchesAll.argValues_eq {es es' : List Expr} (same : MatchesAll related es es') :
    argValues values es = argValues values' es' := by
  match same with
  | .nil => rfl
  | .cons head tail =>
    have first := head.value_eq
    have rest := tail.argValues_eq
    cases head with
    | range pairs => rw [argValues_range, argValues_range, map_eq_map_of_forall₂ agree pairs, rest]
    | _ => rw [argValues_single values (fun _ => Expr.noConfusion),
      argValues_single values' (fun _ => Expr.noConfusion), first, rest]

end

end Matches

mutual

theorem Matches.refl {related : Position → Position → Prop} :
    ∀ {e : Expr}, (∀ p ∈ e.references, related p p) → Matches related e e
  | .number x, _ => .number x
  | .text s, _ => .text s
  | .ref _, each => .ref (each _ List.mem_cons_self)
  | .range _, each => .range (List.forall₂_same.2 each)
  | .call name _, each => .call name (MatchesAll.refl each)
  | .neg _, each => .neg (Matches.refl each)
  | .binary op _ _, each => .binary op (Matches.refl fun p inside => each p (List.mem_append_left _ inside))
    (Matches.refl fun p inside => each p (List.mem_append_right _ inside))

theorem MatchesAll.refl {related : Position → Position → Prop} :
    ∀ {es : List Expr}, (∀ p ∈ allReferences es, related p p) → MatchesAll related es es
  | [], _ => .nil
  | _ :: _, each => .cons (Matches.refl fun p inside => each p (List.mem_append_left _ inside))
    (MatchesAll.refl fun p inside => each p (List.mem_append_right _ inside))

end

theorem value_congr {e : Expr} {values values' : Position → Value}
    (agree : ∀ p ∈ e.references, values p = values' p) :
    e.value values = e.value values' := by
  have same : Matches (fun p q => p = q ∧ values p = values' q) e e :=
    Matches.refl fun p inside => ⟨rfl, agree p inside⟩
  exact same.value_eq fun _ _ pair => pair.2

end Expr

/-- Computations and what they yield, where a computation may go on with what another one yields. -/
structure Yielding {m : Type → Type} [Monad m] [LawfulMonad m] (Yields : {α : Type} → m α → α → Prop) : Prop where
  pure : ∀ {α : Type} (a : α), Yields (pure a) a
  bind : ∀ {α β : Type} {x : m α} {f : α → m β} {a : α} {b : β}, Yields x a → Yields (f a) b → Yields (x >>= f) b

/-- The value of an entered text over given values of all cells. -/
def rawValue (values : Position → Value) (raw : String) : Value := (evalRaw (m := Id) values raw).run

theorem rawValue_literal (values : Position → Value) {raw : String} (plain : isFormula raw = false) :
    rawValue values raw = .ofLiteral raw := by
  simp [rawValue, evalRaw, plain]

theorem rawValue_unparsable (values : Position → Value) {raw : String} (formula : isFormula raw = true)
    {error : FormulaError}
    (unparsable : Expr.parse raw = .error error) : rawValue values raw = .fault .parse := by
  simp [rawValue, evalRaw, formula, unparsable]

theorem rawValue_formula (values : Position → Value) {raw : String} (formula : isFormula raw = true) {e : Expr}
    (parsed : Expr.parse raw = .ok e) : rawValue values raw = (e.value values).finish := by
  simp [rawValue, evalRaw, formula, parsed, Expr.value]

namespace Yielding

variable {m : Type → Type} [Monad m] [LawfulMonad m] {Yields : {α : Type} → m α → α → Prop} (yielding : Yielding Yields)
  {read : Position → m Value} {values : Position → Value} (reads : ∀ p, Yields (read p) (values p))
include yielding reads

theorem mapM (ps : List Position) : Yields (ps.mapM read) (ps.map values) := by
  induction ps with
  | nil => exact yielding.pure []
  | cons p rest ih =>
    rw [List.mapM_cons]
    exact yielding.bind (reads p) (yielding.bind ih (yielding.pure _))

mutual

theorem eval (e : Expr) : Yields (e.eval read) (e.value values) := by
  match e with
  | .number x => exact yielding.pure _
  | .text s => exact yielding.pure _
  | .ref p => exact reads p
  | .range r => exact yielding.pure _
  | .call name args => exact yielding.bind (evalArgs args) (yielding.pure _)
  | .neg e => exact yielding.bind (eval e) (yielding.pure _)
  | .binary op left right => exact yielding.bind (eval left) (yielding.bind (eval right) (yielding.pure _))

theorem evalArgs (es : List Expr) : Yields (Formula.evalArgs read es) (Expr.argValues values es) := by
  match es with
  | [] => exact yielding.pure _
  | e :: es =>
    have first := eval e
    have rest := evalArgs es
    cases e with
    | range r =>
      rw [Expr.argValues_range]
      exact yielding.bind (yielding.mapM reads r.cells) (yielding.bind rest (yielding.pure _))
    | _ => exact yielding.bind first (yielding.bind rest (yielding.pure _))

end

theorem evalRaw (raw : String) : Yields (Formula.evalRaw read raw) (rawValue values raw) := by
  cases formula : isFormula raw with
  | false =>
    rw [rawValue_literal values formula]
    simp only [Formula.evalRaw, formula]
    exact yielding.pure _
  | true =>
    cases parsed : Expr.parse raw with
    | error error =>
      rw [rawValue_unparsable values formula parsed]
      simp only [Formula.evalRaw, formula, parsed]
      exact yielding.pure _
    | ok e =>
      rw [rawValue_formula values formula parsed]
      simp only [Formula.evalRaw, formula, parsed]
      exact yielding.bind (yielding.eval reads e) (yielding.pure _)

end Yielding

namespace Pass

/-- The computation gives a value and leaves the formulas under way as they are. -/
def Gives {α : Type} (underway : Underway) (pass : Pass α) (a : α) : Prop := pass.run underway = (a, underway)

section Gives

variable {α β : Type} {underway : Underway}

theorem gives_pure (a : α) : Gives underway (pure a) a := rfl

theorem Gives.bind {x : Pass α} {f : α → Pass β} {a : α} {b : β} (first : Gives underway x a)
    (second : Gives underway (f a) b) :
    Gives underway (x >>= f) b := by
  change (f (x.run underway).1).run (x.run underway).2 = _
  rw [show x.run underway = (a, underway) from first]
  exact second

end Gives

theorem yielding_gives (underway : Underway) : Yielding fun {α : Type} => Gives (α := α) underway :=
  ⟨gives_pure, Gives.bind⟩

end Pass

/-- The value of a cell while formulas are under way, at most `depth` cells still to be entered. -/
def valueUnder (lookup : Lookup) : Nat → Underway → Position → Value
  | 0, _, _ => .fault .ref
  | depth + 1, underway, p =>
    if p ∈ underway then .fault .circular
    else if maxDepth ≤ underway.length then .fault .ref
    else rawValue (valueUnder lookup depth (p :: underway)) (lookup p)

theorem Pass.gives_cellValue (lookup : Lookup) (depth : Nat) (underway : Underway) (p : Position) :
    Gives underway (cellValue lookup depth p) (valueUnder lookup depth underway p) := by
  induction depth generalizing underway p with
  | zero => exact gives_pure _
  | succ depth ih =>
    have inner := (yielding_gives (p :: underway)).evalRaw (ih (p :: underway)) (lookup p)
    rw [Gives] at inner ⊢
    rw [cellValue, valueUnder]
    by_cases circular : p ∈ underway
    · simp only [StateT.run_bind, StateT.run_get, pure_bind, circular, if_true]
      rfl
    · by_cases deep : maxDepth ≤ underway.length
      · simp only [StateT.run_bind, StateT.run_get, pure_bind, circular, deep, if_true, if_false]
        rfl
      · cases formula : isFormula (lookup p) with
        | false =>
          simp only [StateT.run_bind, StateT.run_get, pure_bind, circular, deep, if_false, Bool.false_eq_true,
            rawValue_literal _ formula]
          rfl
        | true =>
          simp only [StateT.run_bind, StateT.run_get, pure_bind, circular, deep, if_true, if_false,
            StateT.run_set, inner]
          exact congrArg (Prod.mk _) (List.erase_cons_head p underway)

theorem evaluateCell_eq (lookup : Lookup) (p : Position) :
    evaluateCell lookup p = valueUnder lookup (maxDepth + 1) [] p :=
  congrArg Prod.fst (Pass.gives_cellValue lookup (maxDepth + 1) [] p)

end Spreadsheet.Formula
