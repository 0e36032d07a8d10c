import Spreadsheet.Cell
import Spreadsheet.Formula.Builtin
import Spreadsheet.Formula.Grammar

/-! Evaluating formulas over a look-up of raw texts. An expression is evaluated in any monad that can read a
cell; a pass reads cells while keeping the list of those whose formulas are under way, so that a cell which
needs itself is a circular fault, and a chain that is too deep is a reference fault. -/
namespace Spreadsheet.Formula

def apply (op : Op) (left right : Value) : Value :=
  match op with
  | .concat => match (do return (← left.toText) ++ (← right.toText) : Except Fault String) with
    | .ok s => .text s
    | .error f => .fault f
  | .add => arithmetic fun x y => .ok (x + y)
  | .sub => arithmetic fun x y => .ok (x - y)
  | .mul => arithmetic fun x y => .ok (x * y)
  | .div => arithmetic fun x y => if y == 0 then .error .divZero else .ok (x / y)
  | .pow => arithmetic fun x y => .ok (x ^ y)
where arithmetic (f : Float → Float → Except Fault Float) : Value :=
  .ofNumber do
    let x ← left.toNumber
    let y ← right.toNumber
    f x y

def negate (v : Value) : Value := .ofNumber do return -(← v.toNumber)

section Eval

variable {m : Type → Type} [Monad m] (read : Position → m Value)

mutual

/-- A bare range has a value only as an argument. -/
def Expr.eval : Expr → m Value
  | .number x => pure (.number x)
  | .text s => pure (.text s)
  | .ref p => read p
  | .range _ => pure (.fault .value)
  | .call name args => do return call name (← evalArgs args)
  | .neg e => do return negate (← e.eval)
  | .binary op left right => do
    let l ← left.eval
    let r ← right.eval
    return apply op l r

def evalArgs : List Expr → m (List Arg)
  | [] => pure []
  | .range r :: es => do
    let vs ← r.cells.mapM read
    let as ← evalArgs es
    return .range vs :: as
  | e :: es => do
    let v ← e.eval
    let as ← evalArgs es
    return .single v :: as

end

/-- The value of an entered text: a literal as it stands, a formula by its expression. -/
def evalRaw (raw : String) : m Value :=
  if isFormula raw then
    match Expr.parse raw with
    | .ok e => do return (← e.eval read).finish
    | .error _ => pure (.fault .parse)
  else pure (.ofLiteral raw)

end Eval

abbrev Lookup := Position → String

/-- The cells whose formulas are being evaluated, the innermost first. -/
abbrev Underway := List Position

abbrev Pass := StateM Underway

/-- A chain of formulas holds at most this many cells. -/
def maxDepth : Nat := 256

namespace Pass

/-- The value of a cell; `depth` bounds the chain of cells still to be entered. -/
def cellValue (lookup : Lookup) : Nat → Position → Pass Value
  | 0, _ => pure (.fault .ref)
  | depth + 1, p => do
    let underway ← get
    if p ∈ underway then return .fault .circular
    if maxDepth ≤ underway.length then return .fault .ref
    if isFormula (lookup p) then
      set (p :: underway)
      let v ← evalRaw (cellValue lookup depth) (lookup p)
      modify (·.erase p)
      return v
    else return .ofLiteral (lookup p)

end Pass

def evaluateCell (lookup : Lookup) (p : Position) : Value := (Pass.cellValue lookup (maxDepth + 1) p |>.run []).1

def evaluate (lookup : Lookup) (raw : String) : Value :=
  (evalRaw (Pass.cellValue lookup (maxDepth + 1)) raw |>.run []).1

end Spreadsheet.Formula
