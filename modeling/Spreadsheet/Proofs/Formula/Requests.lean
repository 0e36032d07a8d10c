import Spreadsheet.Proofs.Formula.Pass

/-! The cells that a pass asks for. A visit of a cell, from the formulas under way, asks for those that its formula reads,
unless a guard stops it before. -/
namespace Spreadsheet.Formula

def everyCall : String → Bool := fun _ => true

namespace Expr

section Reads

variable (enters : String → Bool)

mutual

/-- The cells that evaluation asks for, leaving out calls of functions that are not entered. A bare range is not read. -/
def reads : Expr → List Position
  | .number _ => []
  | .text _ => []
  | .ref p => [p]
  | .range _ => []
  | .call name args => if enters name then argReads args else []
  | .neg e => e.reads
  | .binary _ left right => left.reads ++ right.reads

def argReads : List Expr → List Position
  | [] => []
  | .range r :: es => r.cells ++ argReads es
  | e :: es => e.reads ++ argReads es

end

theorem argReads_single {e : Expr} (single : ∀ r, e ≠ .range r) (es : List Expr) :
    argReads enters (e :: es) = e.reads enters ++ argReads enters es := by
  cases e with
  | range r => exact absurd rfl (single r)
  | _ => rfl

end Reads

end Expr

/-- A cell that is asked for while formulas are under way. -/
structure Visit where
  underway : Underway
  cell : Position

namespace Visit

variable {lookup : Lookup} {enters : String → Bool} {v w : Visit} {e : Expr}

def Stopped (v : Visit) : Prop := v.cell ∈ v.underway ∨ maxDepth ≤ v.underway.length

def next (v : Visit) (q : Position) : Visit := ⟨v.cell :: v.underway, q⟩

structure Evaluates (lookup : Lookup) (v : Visit) (e : Expr) : Prop where
  free : ¬v.Stopped
  formula : isFormula (lookup v.cell) = true
  parsed : Expr.parse (lookup v.cell) = .ok e

inductive Asks (enters : String → Bool) (lookup : Lookup) (v : Visit) : Visit → Prop
  | read {e : Expr} (evaluates : v.Evaluates lookup e) {q : Position} (inside : q ∈ e.reads enters) :
    Asks enters lookup v (v.next q)

def value (lookup : Lookup) (v : Visit) : Value :=
  valueUnder lookup (maxDepth + 1 - v.underway.length) v.underway v.cell

theorem value_of_circular (inside : v.cell ∈ v.underway) (fits : v.underway.length ≤ maxDepth) :
    v.value lookup = .fault .circular := by
  rw [value, Nat.succ_sub fits, valueUnder, if_pos inside]

theorem value_of_deep (apart : v.cell ∉ v.underway) (deep : maxDepth ≤ v.underway.length) :
    v.value lookup = .fault .ref := by
  rw [value]
  cases maxDepth + 1 - v.underway.length with
  | zero => rfl
  | succ depth => rw [valueUnder, if_neg apart, if_pos deep]

theorem value_of_free (free : ¬v.Stopped) :
    v.value lookup = rawValue (fun q => (v.next q).value lookup) (lookup v.cell) := by
  obtain ⟨apart, room⟩ := not_or.1 free
  have deeper : maxDepth + 1 - v.underway.length = maxDepth - v.underway.length + 1 := by omega
  have inner (q : Position) :
      (v.next q).value lookup = valueUnder lookup (maxDepth - v.underway.length) (v.cell :: v.underway) q := by
    rw [value, next, List.length_cons, Nat.add_sub_add_right]
  rw [value, deeper, valueUnder, if_neg apart, if_neg room, funext inner]

/-- How many cells may still be entered does not matter, if they are enough. -/
theorem valueUnder_eq_value {depth : Nat} {underway : Underway} {p : Position} (fits : underway.length ≤ maxDepth)
    (enough : maxDepth < depth + underway.length) : valueUnder lookup depth underway p = value lookup ⟨underway, p⟩ := by
  induction depth generalizing underway p with
  | zero => omega
  | succ depth ih =>
    rw [valueUnder]
    by_cases circular : p ∈ underway
    · rw [if_pos circular, value_of_circular circular fits]
    · by_cases deep : maxDepth ≤ underway.length
      · rw [if_neg circular, if_pos deep, value_of_deep circular deep]
      · have inner (q : Position) : valueUnder lookup depth (p :: underway) q = value lookup ⟨p :: underway, q⟩ := by
          refine ih (Nat.lt_of_not_le deep) ?_
          rw [List.length_cons]
          omega
        rw [if_neg circular, if_neg deep, value_of_free (not_or.2 ⟨circular, deep⟩), funext inner]
        rfl

theorem Evaluates.value_eq (evaluates : v.Evaluates lookup e) :
    v.value lookup = (e.value fun q => (v.next q).value lookup).finish := by
  rw [value_of_free evaluates.free, rawValue_formula _ evaluates.formula evaluates.parsed]

theorem Asks.underway_eq (asks : v.Asks enters lookup w) : w.underway = v.cell :: v.underway := by
  cases asks with
  | read => rfl

theorem mem_underway (asks : Relation.TransGen (Asks enters lookup) v w) : v.cell ∈ w.underway := by
  induction asks with
  | single asks =>
    rw [asks.underway_eq]
    exact List.mem_cons_self
  | tail _ asks ih =>
    rw [asks.underway_eq]
    exact List.mem_cons_of_mem _ ih

end Visit

end Spreadsheet.Formula
