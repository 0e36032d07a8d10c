import Spreadsheet.Proofs.Formula.Pass

/-! Sheets without cycles. A cell denotes the value that direct recursion gives it, without any record of what is under
way and without a limit; where no path of references from the cell repeats a cell or is too long, a pass gives that
value, and it is the only one. -/
namespace Spreadsheet.Formula

/-- The cells that the formula in a cell refers to. A text that is no formula, or that cannot be read, refers to none. -/
def referencesOf (lookup : Lookup) (p : Position) : List Position :=
  if isFormula (lookup p) then
    match Expr.parse (lookup p) with
    | .ok e => e.references
    | .error _ => []
  else []

def Refers (lookup : Lookup) (p q : Position) : Prop := q ∈ referencesOf lookup p

theorem refers_of_parse {lookup : Lookup} {p : Position} (formula : isFormula (lookup p) = true) {e : Expr}
    (parsed : Expr.parse (lookup p) = .ok e) {q : Position} (inside : q ∈ e.references) : Refers lookup p q := by
  rw [Refers, referencesOf, if_pos formula, parsed]
  exact inside

/-- The value of a cell by direct recursion: a formula is evaluated over the values of the cells it refers to. -/
inductive Denotes (lookup : Lookup) : Position → Value → Prop
  | literal {p : Position} (plain : isFormula (lookup p) = false) : Denotes lookup p (.ofLiteral (lookup p))
  | unparsable {p : Position} {error : FormulaError} (formula : isFormula (lookup p) = true)
    (unparsable : Expr.parse (lookup p) = .error error) : Denotes lookup p (.fault .parse)
  | formula {p : Position} {e : Expr} {values : Position → Value} (formula : isFormula (lookup p) = true)
    (parsed : Expr.parse (lookup p) = .ok e) (each : ∀ q ∈ e.references, Denotes lookup q (values q)) :
    Denotes lookup p (e.value values).finish

variable {lookup : Lookup} {p : Position}

theorem Denotes.unique {v w : Value} (first : Denotes lookup p v) (second : Denotes lookup p w) : v = w := by
  induction first generalizing w with
  | literal plain =>
    cases second with
    | literal => rfl
    | unparsable formula => simp [plain] at formula
    | formula formula => simp [plain] at formula
  | unparsable formula unparsable =>
    cases second with
    | literal plain => simp [plain] at formula
    | unparsable => rfl
    | formula _ parsed => simp [unparsable] at parsed
  | @formula p e values formula parsed _ ih =>
    cases second with
    | literal plain => simp [plain] at formula
    | unparsable _ unparsable => simp [parsed] at unparsable
    | @formula _ e' values' _ parsed' each' =>
      obtain rfl : e = e' := Except.ok.inj (parsed.symm.trans parsed')
      rw [Expr.value_congr fun q inside => ih q inside (each' q inside)]

/-- No path of references that goes on from the cells under way repeats a cell or is longer than a pass can follow. -/
def Clear (lookup : Lookup) (underway : Underway) (p : Position) : Prop :=
  ∀ path, (p :: path).IsChain (Refers lookup) →
    (underway ++ p :: path).Nodup ∧ (underway ++ p :: path).length ≤ maxDepth

theorem Clear.step {underway : Underway} (clear : Clear lookup underway p) {q : Position}
    (refers : Refers lookup p q) :
    Clear lookup (p :: underway) q := by
  intro path chain
  obtain ⟨distinct, short⟩ := clear (q :: path) (List.isChain_cons_cons.2 ⟨refers, chain⟩)
  have moved : (underway ++ p :: q :: path).Perm (p :: underway ++ q :: path) := List.perm_middle
  exact ⟨moved.nodup_iff.1 distinct, moved.length_eq ▸ short⟩

theorem Clear.not_mem {underway : Underway} (clear : Clear lookup underway p) : p ∉ underway := by
  have distinct := (clear [] (List.isChain_singleton p)).1
  exact fun inside => (List.nodup_append.1 distinct).2.2 p inside p List.mem_cons_self rfl

theorem Clear.length_lt {underway : Underway} (clear : Clear lookup underway p) : underway.length < maxDepth := by
  have short := (clear [] (List.isChain_singleton p)).2
  simp only [List.length_append, List.length_singleton] at short
  omega

/-- Along clear paths neither guard fires: the cells under way are the path followed so far. -/
theorem Clear.denotes {depth : Nat} {underway : Underway} (clear : Clear lookup underway p)
    (enough : maxDepth < depth + underway.length) : Denotes lookup p (valueUnder lookup depth underway p) := by
  induction depth generalizing underway p with
  | zero =>
    have short := clear.length_lt
    omega
  | succ depth ih =>
    rw [valueUnder, if_neg clear.not_mem, if_neg (Nat.not_le.2 clear.length_lt)]
    cases formula : isFormula (lookup p) with
    | false =>
      rw [rawValue_literal _ formula]
      exact .literal formula
    | true =>
      cases parsed : Expr.parse (lookup p) with
      | error error =>
        rw [rawValue_unparsable _ formula parsed]
        exact .unparsable formula parsed
      | ok e =>
        rw [rawValue_formula _ formula parsed]
        refine .formula formula parsed ?_
        intro q inside
        apply ih (clear.step (refers_of_parse formula parsed inside))
        rw [List.length_cons]
        omega

/-- Where paths of references repeat no cell and visit at most as many cells as a pass can follow, a cell denotes the
value that evaluation gives, and no other. -/
theorem denotes_iff_evaluateCell (clear : ∀ path, (p :: path).IsChain (Refers lookup) →
    (p :: path).Nodup ∧ (p :: path).length ≤ maxDepth) (v : Value) :
    Denotes lookup p v ↔ evaluateCell lookup p = v := by
  have value : Denotes lookup p (evaluateCell lookup p) := by
    rw [evaluateCell_eq]
    exact Clear.denotes clear (Nat.lt_succ_self maxDepth)
  exact ⟨value.unique, fun same => same ▸ value⟩

theorem clear_of_rank {rank : Position → Nat} (falls : ∀ p q, Refers lookup p q → rank q < rank p)
    (path : List Position)
    (chain : (p :: path).IsChain (Refers lookup)) : (p :: path).Nodup ∧ (p :: path).length ≤ rank p + 1 := by
  refine ⟨?_, ?_⟩
  · have falling : (p :: path).Pairwise (InvImage (· > ·) rank) := (chain.imp falls).pairwise
    apply falling.imp
    rintro a b lower rfl
    exact Nat.lt_irrefl _ lower
  · induction path generalizing p with
    | nil => exact Nat.le_add_left 1 _
    | cons q path ih =>
      obtain ⟨refers, rest⟩ := List.isChain_cons_cons.1 chain
      have short := ih rest
      have lower := falls p q refers
      simp only [List.length_cons] at short ⊢
      omega

/-- Two cells that share a third, both read by a fourth. -/
def diamond : Lookup := fun p =>
  if p = ⟨0, 0⟩ then "=B1&C1" else if p = ⟨0, 1⟩ ∨ p = ⟨0, 2⟩ then "=D1" else if p = ⟨0, 3⟩ then "x" else ""

theorem diamond_falls (p q : Position) (refers : Refers diamond p q) : 3 - q.col < 3 - p.col := by
  have first : referencesOf diamond ⟨0, 0⟩ = [⟨0, 1⟩, ⟨0, 2⟩] := by decide +kernel
  have second : referencesOf diamond ⟨0, 1⟩ = [⟨0, 3⟩] := by decide +kernel
  have third : referencesOf diamond ⟨0, 2⟩ = [⟨0, 3⟩] := by decide +kernel
  by_cases a : p = ⟨0, 0⟩
  · subst a
    rw [Refers, first] at refers
    simp only [List.mem_cons, List.not_mem_nil, or_false] at refers
    rcases refers with rfl | rfl <;> decide
  · by_cases b : p = ⟨0, 1⟩
    · subst b
      rw [Refers, second, List.mem_singleton] at refers
      subst refers
      decide
    · by_cases c : p = ⟨0, 2⟩
      · subst c
        rw [Refers, third, List.mem_singleton] at refers
        subst refers
        decide
      · have plain : isFormula (diamond p) = false := by
          simp only [diamond, a, b, c, or_self, if_false]
          split <;> decide
        simp [Refers, referencesOf, plain] at refers

theorem denotes_iff_evaluateCell_diamond :
    (∀ path, (⟨0, 0⟩ :: path).IsChain (Refers diamond) → (⟨0, 0⟩ :: path).Nodup ∧ (⟨0, 0⟩ :: path).length ≤ maxDepth) ∧
      Denotes diamond ⟨0, 0⟩ (.text "xx") := by
  have clear (path : List Position) (chain : (⟨0, 0⟩ :: path).IsChain (Refers diamond)) :
      (⟨0, 0⟩ :: path).Nodup ∧ (⟨0, 0⟩ :: path).length ≤ maxDepth := by
    obtain ⟨distinct, short⟩ := clear_of_rank diamond_falls path chain
    exact ⟨distinct, Nat.le_trans short (by decide)⟩
  exact ⟨clear, (denotes_iff_evaluateCell clear _).2 (by cbv)⟩

end Spreadsheet.Formula
