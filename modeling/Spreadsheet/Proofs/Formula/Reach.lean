import Spreadsheet.Proofs.Formula.Acyclic

/-! What the value of a cell depends on: its own text and the texts of the cells that references lead to from it. Two
look-ups that agree there are followed in step, through cycles, chains that are too deep and texts that cannot be read. -/
namespace Spreadsheet.Formula

/-- References lead from the first cell to the second. -/
def Reaches (lookup : Lookup) : Position → Position → Prop := Relation.ReflTransGen (Refers lookup)

/-- The look-ups hold the same text in every cell that references of the first lead to. -/
def AgreeFrom (lookup lookup' : Lookup) (p : Position) : Prop := ∀ q, Reaches lookup p q → lookup q = lookup' q

variable {lookup lookup' : Lookup} {p q : Position}

theorem AgreeFrom.here (agree : AgreeFrom lookup lookup' p) : lookup p = lookup' p := agree p .refl

theorem AgreeFrom.step (agree : AgreeFrom lookup lookup' p) (refers : Refers lookup p q) :
    AgreeFrom lookup lookup' q := fun r reaches => agree r (.head refers reaches)

theorem rawValue_congr {values values' : Position → Value} (agree : ∀ q, Refers lookup p q → values q = values' q) :
    rawValue values (lookup p) = rawValue values' (lookup p) := by
  cases formula : isFormula (lookup p) with
  | false => rw [rawValue_literal _ formula, rawValue_literal _ formula]
  | true =>
    cases parsed : Expr.parse (lookup p) with
    | error error => rw [rawValue_unparsable _ formula parsed, rawValue_unparsable _ formula parsed]
    | ok e =>
      rw [rawValue_formula _ formula parsed, rawValue_formula _ formula parsed]
      exact congrArg Value.finish (Expr.value_congr fun q inside => agree q (refers_of_parse formula parsed inside))

theorem valueUnder_congr (depth : Nat) (underway : Underway) (agree : AgreeFrom lookup lookup' p) :
    valueUnder lookup depth underway p = valueUnder lookup' depth underway p := by
  induction depth generalizing underway p with
  | zero => rfl
  | succ depth ih =>
    -- both runs have the same cells under way, so that the same guard fires or none
    have inner : rawValue (valueUnder lookup depth (p :: underway)) (lookup p) =
        rawValue (valueUnder lookup' depth (p :: underway)) (lookup p) :=
      rawValue_congr fun q refers => ih (p :: underway) (agree.step refers)
    rw [valueUnder, valueUnder, inner, agree.here]

/-- The value of a cell depends only on the cells that references lead to from it. -/
theorem evaluateCell_eq_of_agreeFrom (agree : AgreeFrom lookup lookup' p) :
    evaluateCell lookup p = evaluateCell lookup' p := by
  rw [evaluateCell_eq, evaluateCell_eq]
  exact valueUnder_congr (maxDepth + 1) [] agree

theorem Reaches.mem {cells : List Position} (closed : ∀ p ∈ cells, ∀ q ∈ referencesOf lookup p, q ∈ cells)
    (reaches : Reaches lookup p q) (inside : p ∈ cells) : q ∈ cells := by
  induction reaches with
  | refl => exact inside
  | tail _ refers ih => exact closed _ ih _ refers

/-- A cell that comes back to itself through a range, and reads a formula that breaks off; next to them any text. -/
def tangled (other : String) : Lookup := fun p =>
  if p = ⟨0, 0⟩ then "=SUM(B1:B2)&C1" else if p = ⟨1, 1⟩ then "=A1" else if p = ⟨0, 2⟩ then "=B2&"
  else if p = ⟨0, 3⟩ then other else ""

theorem evaluateCell_eq_of_agreeFrom_tangled :
    AgreeFrom (tangled "=A1") (tangled "7") ⟨0, 0⟩ ∧ tangled "=A1" ⟨0, 3⟩ ≠ tangled "7" ⟨0, 3⟩ ∧
      evaluateCell (tangled "=A1") ⟨0, 0⟩ = evaluateCell (tangled "7") ⟨0, 0⟩ := by
  have closed : ∀ p ∈ [⟨0, 0⟩, ⟨0, 1⟩, ⟨1, 1⟩, ⟨0, 2⟩], ∀ q ∈ referencesOf (tangled "=A1") p,
      q ∈ [⟨0, 0⟩, ⟨0, 1⟩, ⟨1, 1⟩, (⟨0, 2⟩ : Position)] := by decide +kernel
  have agree : AgreeFrom (tangled "=A1") (tangled "7") ⟨0, 0⟩ := by
    intro q reaches
    have among := reaches.mem closed List.mem_cons_self
    simp only [List.mem_cons, List.not_mem_nil, or_false] at among
    rcases among with rfl | rfl | rfl | rfl <;> rfl
  exact ⟨agree, by decide, evaluateCell_eq_of_agreeFrom agree⟩

end Spreadsheet.Formula
