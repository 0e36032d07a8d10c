import Spreadsheet.Proofs.Formula.Requests

/-! Where faults come from. A fault of a cell that a formula asks for is a fault of the formula, unless it is asked for
only to be counted: counting takes a fault for what is no number. So a fault goes back, over cells that are not merely
counted, to a cell where it arises, and a cell that comes back to itself over such cells is at fault. -/
namespace Spreadsheet.Formula

def Fails {α : Type} (x : Except Fault α) : Prop := ∃ f, x = .error f

section Fails

variable {α β γ : Type} {x : Except Fault α} {f : α → Except Fault β}

theorem Fails.bind (fails : Fails x) (f : α → Except Fault β) : Fails (x >>= f) := by
  obtain ⟨fault, rfl⟩ := fails
  exact ⟨fault, rfl⟩

theorem fails_bind (later : ∀ a, Fails (f a)) : Fails (x >>= f) := by
  cases x with
  | error fault => exact ⟨fault, rfl⟩
  | ok a => exact later a

theorem fails_either {y : Except Fault β} (fails : Fails x ∨ Fails y) (f : α → β → Except Fault γ) :
    Fails (do f (← x) (← y)) := by
  rcases fails with first | second
  · exact first.bind _
  · exact fails_bind fun _ => second.bind _

theorem fails_mapM {l : List α} {a : α} (inside : a ∈ l) (fails : Fails (f a)) : Fails (l.mapM f) := by
  induction l with
  | nil => cases inside
  | cons b rest ih =>
    rw [List.mapM_cons]
    rcases List.mem_cons.1 inside with rfl | inside
    · exact fails.bind _
    · exact fails_bind fun _ => (ih inside).bind _

end Fails

namespace Value

variable {v : Value}

theorem eq_fault (fault : v.isFault = true) : ∃ f, v = .fault f := by
  cases v with
  | fault f => exact ⟨f, rfl⟩
  | _ => cases fault

theorem fails_toNumber (fault : v.isFault = true) : Fails v.toNumber := by
  obtain ⟨f, rfl⟩ := eq_fault fault
  exact ⟨f, rfl⟩

theorem fails_toText (fault : v.isFault = true) : Fails v.toText := by
  obtain ⟨f, rfl⟩ := eq_fault fault
  exact ⟨f, rfl⟩

theorem isFault_ofNumber {x : Except Fault Float} (fails : Fails x) : (ofNumber x).isFault = true := by
  obtain ⟨f, rfl⟩ := fails
  rfl

theorem isFault_finish (fault : v.isFault = true) : v.finish.isFault = true := by
  obtain ⟨f, rfl⟩ := eq_fault fault
  rfl

theorem isFault_ofLiteral (raw : String) : (ofLiteral raw).isFault = false := by
  unfold ofLiteral
  split
  · rfl
  · split <;> rfl

end Value

theorem isFault_negate {v : Value} (fault : v.isFault = true) : (negate v).isFault = true :=
  Value.isFault_ofNumber ((Value.fails_toNumber fault).bind _)

theorem isFault_apply (op : Op) {left right : Value} (fault : left.isFault = true ∨ right.isFault = true) :
    (apply op left right).isFault = true := by
  have arithmetic (f : Float → Float → Except Fault Float) : (apply.arithmetic left right f).isFault = true :=
    Value.isFault_ofNumber (fails_either (fault.imp Value.fails_toNumber Value.fails_toNumber) f)
  have texts : Fails (do return (← left.toText) ++ (← right.toText) : Except Fault String) :=
    fails_either (fault.imp Value.fails_toText Value.fails_toText) _
  cases op with
  | concat =>
    obtain ⟨f, failed⟩ := texts
    rw [apply, failed]
    rfl
  | _ => exact arithmetic _

def Arg.isFault : Arg → Bool
  | .single v => v.isFault
  | .range vs => vs.any Value.isFault

namespace Builtin

theorem fails_numbersOf {a : Arg} (fault : a.isFault = true) : Fails (numbersOf a) := by
  cases a with
  | single v =>
    obtain ⟨f, rfl⟩ := Value.eq_fault fault
    exact ⟨f, rfl⟩
  | range vs =>
    obtain ⟨v, inside, fault⟩ := List.any_eq_true.1 fault
    obtain ⟨f, rfl⟩ := Value.eq_fault fault
    exact (fails_mapM inside ⟨f, rfl⟩).bind _

theorem fails_scalar {a : Arg} (fault : a.isFault = true) : Fails (scalar a) := by
  cases a with
  | single v => exact Value.fails_toNumber fault
  | range vs => exact ⟨.value, rfl⟩

theorem fails_compute {b : Builtin} (heeds : b ≠ .count) {args : List Arg} {a : Arg} (inside : a ∈ args)
    (fault : a.isFault = true) : Fails (b.compute args) := by
  have numbers : Fails (numbers args) := (fails_mapM inside (fails_numbersOf fault)).bind _
  have alone : Fails (scalar a) := fails_scalar fault
  cases b with
  | sum | average | min | max => exact numbers.bind _
  | count => exact absurd rfl heeds
  | abs =>
    match args with
    | [] | _ :: _ :: _ => exact ⟨.value, rfl⟩
    | [x] =>
      rw [List.mem_singleton.1 inside] at alone
      exact alone.bind _
  | round =>
    match args with
    | [] | _ :: _ :: _ :: _ => exact ⟨.value, rfl⟩
    | [x] =>
      rw [List.mem_singleton.1 inside] at alone
      exact alone.bind _
    | [x, digits] =>
      rcases List.mem_pair.1 inside with rfl | rfl
      · exact fails_either (.inl alone) _
      · exact fails_either (.inr alone) _

end Builtin

/-- Functions that do not merely count their arguments. -/
def heeding (name : String) : Bool := Builtin.ofName? name ≠ some .count

theorem isFault_call {name : String} (heeds : heeding name = true) {args : List Arg} {a : Arg} (inside : a ∈ args)
    (fault : a.isFault = true) : (call name args).isFault = true := by
  unfold call
  split
  next b found =>
    have other : b ≠ .count := by
      rintro rfl
      simp [heeding, found] at heeds
    exact Value.isFault_ofNumber (Builtin.fails_compute other inside fault)
  next => rfl

namespace Expr

variable {values : Position → Value} {q : Position} (fault : (values q).isFault = true)
include fault

mutual

/-- A fault of a cell that the expression asks for, not merely to count it, is a fault of the expression. -/
theorem isFault_value : ∀ {e : Expr}, q ∈ e.reads heeding → (e.value values).isFault = true
  | .ref _, inside => List.mem_singleton.1 inside ▸ fault
  | .call name args, inside => by
    rw [reads] at inside
    split at inside
    next heeds =>
      obtain ⟨a, among, bad⟩ := exists_isFault_argValues inside
      exact isFault_call heeds among bad
    next => cases inside
  | .neg _, inside => isFault_negate (isFault_value inside)
  | .binary op _ _, inside => isFault_apply op ((List.mem_append.1 inside).imp isFault_value isFault_value)

theorem exists_isFault_argValues :
    ∀ {es : List Expr}, q ∈ argReads heeding es → ∃ a ∈ argValues values es, a.isFault = true
  | e :: es, inside => by
    have first (among : q ∈ e.reads heeding) : (e.value values).isFault = true := isFault_value among
    have rest (among : q ∈ argReads heeding es) (arg : Arg) :
        ∃ a ∈ arg :: argValues values es, a.isFault = true := by
      obtain ⟨a, later, bad⟩ := exists_isFault_argValues among
      exact ⟨a, List.mem_cons_of_mem arg later, bad⟩
    cases e with
    | range r =>
      rw [argValues_range]
      rcases List.mem_append.1 inside with among | among
      · exact ⟨_, List.mem_cons_self, List.any_eq_true.2 ⟨_, List.mem_map_of_mem among, fault⟩⟩
      · exact rest among _
    | _ =>
      rw [argReads_single _ (fun _ => Expr.noConfusion)] at inside
      rw [argValues_single values (fun _ => Expr.noConfusion)]
      rcases List.mem_append.1 inside with among | among
      · exact ⟨_, List.mem_cons_self, first among⟩
      · exact rest among _

end

end Expr

namespace Visit

variable {lookup : Lookup} {v w : Visit}

theorem Stopped.isFault_valueUnder (stopped : v.Stopped) (depth : Nat) :
    (valueUnder lookup depth v.underway v.cell).isFault = true := by
  cases depth with
  | zero => rfl
  | succ depth =>
    rw [valueUnder]
    by_cases circular : v.cell ∈ v.underway
    · rw [if_pos circular]
      rfl
    · rw [if_neg circular, if_pos (stopped.resolve_left circular)]
      rfl

theorem Asks.isFault (asks : v.Asks heeding lookup w) (fault : (w.value lookup).isFault = true) :
    (v.value lookup).isFault = true := by
  cases asks with
  | read evaluates inside =>
    rw [evaluates.value_eq]
    exact Value.isFault_finish (Expr.isFault_value fault inside)

theorem isFault_of_path (path : Relation.ReflTransGen (Asks heeding lookup) v w)
    (fault : (w.value lookup).isFault = true) : (v.value lookup).isFault = true := by
  induction path using Relation.ReflTransGen.head_induction_on with
  | refl => exact fault
  | head asks _ ih => exact asks.isFault ih

/-- A fault that does not come from a cell that the visit asks for. -/
inductive Origin (lookup : Lookup) (v : Visit) : Prop
  | stopped (stopped : v.Stopped)
  | unparsable (free : ¬v.Stopped) (formula : isFormula (lookup v.cell) = true) {error : FormulaError}
    (unparsable : Expr.parse (lookup v.cell) = .error error)
  | own {e : Expr} (evaluates : v.Evaluates lookup e)
    (sound : ∀ w, v.Asks heeding lookup w → (w.value lookup).isFault = false)
    (fault : (v.value lookup).isFault = true)

theorem Origin.isFault (origin : v.Origin lookup) : (v.value lookup).isFault = true := by
  cases origin with
  | stopped stopped => exact stopped.isFault_valueUnder _
  | unparsable free formula unparsable =>
    rw [value_of_free free, rawValue_unparsable _ formula unparsable]
    rfl
  | own _ _ fault => exact fault

theorem origin_or_asks (fault : (v.value lookup).isFault = true) :
    v.Origin lookup ∨ ∃ w, v.Asks heeding lookup w ∧ (w.value lookup).isFault = true := by
  rcases Classical.em v.Stopped with stopped | free
  · exact .inl (.stopped stopped)
  cases formula : isFormula (lookup v.cell) with
  | false =>
    rw [value_of_free free, rawValue_literal _ formula, Value.isFault_ofLiteral] at fault
    cases fault
  | true =>
    cases parsed : Expr.parse (lookup v.cell) with
    | error error => exact .inl (.unparsable free formula parsed)
    | ok e =>
      by_cases passed : ∃ w, v.Asks heeding lookup w ∧ (w.value lookup).isFault = true
      · exact .inr passed
      · push Not at passed
        exact .inl (.own ⟨free, formula, parsed⟩ (fun w asks => Bool.eq_false_iff.2 (passed w asks)) fault)

-- The induction is on how many more formulas can get under way.
theorem exists_origin {room : Nat} (enough : maxDepth ≤ v.underway.length + room)
    (fault : (v.value lookup).isFault = true) :
    ∃ w, Relation.ReflTransGen (Asks heeding lookup) v w ∧ w.Origin lookup := by
  induction room generalizing v with
  | zero => exact ⟨v, .refl, .stopped (.inr enough)⟩
  | succ room ih =>
    rcases origin_or_asks fault with origin | ⟨w, asks, fault⟩
    · exact ⟨v, .refl, origin⟩
    · have deeper : maxDepth ≤ w.underway.length + room := by
        rw [asks.underway_eq, List.length_cons]
        omega
      obtain ⟨u, path, origin⟩ := ih deeper fault
      exact ⟨u, .head asks path, origin⟩

theorem isFault_value_iff :
    (v.value lookup).isFault = true ↔ ∃ w, Relation.ReflTransGen (Asks heeding lookup) v w ∧ w.Origin lookup :=
  ⟨exists_origin (Nat.le_add_left _ _), fun ⟨_, path, origin⟩ => isFault_of_path path origin.isFault⟩

end Visit

/-- A pass that starts at the cell asks for it again. -/
def Returns (enters : String → Bool) (lookup : Lookup) (p : Position) : Prop :=
  ∃ underway, Relation.TransGen (Visit.Asks enters lookup) ⟨[], p⟩ ⟨underway, p⟩

/-- A cell that comes back to itself, other than to be counted, is at fault; and all faults arise at cells that are
asked for, other than to be counted, and go back from there. -/
theorem isFault_evaluateCell (lookup : Lookup) (p : Position) :
    (Returns heeding lookup p → (evaluateCell lookup p).isFault = true) ∧
      ((evaluateCell lookup p).isFault = true ↔
        ∃ v : Visit, Relation.ReflTransGen (Visit.Asks heeding lookup) ⟨[], p⟩ v ∧ v.Origin lookup) := by
  have origins : (evaluateCell lookup p).isFault = true ↔
      ∃ v : Visit, Relation.ReflTransGen (Visit.Asks heeding lookup) ⟨[], p⟩ v ∧ v.Origin lookup := by
    rw [evaluateCell_eq]
    exact Visit.isFault_value_iff (v := ⟨[], p⟩)
  refine ⟨fun ⟨underway, path⟩ => ?_, origins⟩
  have again : p ∈ underway := Visit.mem_underway path
  exact origins.2 ⟨⟨underway, p⟩, path.to_reflTransGen, .stopped (.inl again)⟩

/-- A text over a sum of a range that has a formula over the text. -/
def ringed : Lookup := fun p =>
  if p = ⟨0, 0⟩ then "=SUM(B1:B2)&\"x\"" else if p = ⟨1, 1⟩ then "=ABS(A1)" else ""

theorem isFault_evaluateCell_ringed :
    Returns heeding ringed ⟨0, 0⟩ ∧ (evaluateCell ringed ⟨0, 0⟩).isFault = true := by
  have text : Visit.Evaluates ringed ⟨[], ⟨0, 0⟩⟩
      (.binary .concat (.call "SUM" [.range ⟨0, 1, 1, 1⟩]) (.text "x")) :=
    ⟨not_or.2 ⟨by decide, by decide⟩, by cbv, by cbv⟩
  have number : Visit.Evaluates ringed ⟨[⟨0, 0⟩], ⟨1, 1⟩⟩ (.call "ABS" [.ref ⟨0, 0⟩]) :=
    ⟨not_or.2 ⟨by decide, by decide⟩, by cbv, by cbv⟩
  have returns : Returns heeding ringed ⟨0, 0⟩ :=
    ⟨_, .tail (.single (.read text (q := ⟨1, 1⟩) (by decide))) (.read number (q := ⟨0, 0⟩) (by decide))⟩
  exact ⟨returns, (isFault_evaluateCell ringed ⟨0, 0⟩).1 returns⟩

/-- A formula that counts its own cell. -/
def counting : Lookup := fun p => if p = ⟨0, 0⟩ then "=COUNT(A1)" else ""

theorem not_isFault_counting :
    Returns everyCall counting ⟨0, 0⟩ ∧ (evaluateCell counting ⟨0, 0⟩).isFault = false := by
  have counted : Visit.Evaluates counting ⟨[], ⟨0, 0⟩⟩ (.call "COUNT" [.ref ⟨0, 0⟩]) :=
    ⟨not_or.2 ⟨by decide, by decide⟩, by cbv, by cbv⟩
  have returns : Returns everyCall counting ⟨0, 0⟩ := ⟨_, .single (.read counted (q := ⟨0, 0⟩) (by decide))⟩
  exact ⟨returns, by decide +kernel⟩

end Spreadsheet.Formula
