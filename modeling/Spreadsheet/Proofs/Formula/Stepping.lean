import Spreadsheet.Proofs.Formula.Requests

/-! Evaluation taken step by step, with nothing that counts the steps. A step answers one request for a cell, or is through
with the formula of one. Whatever the look-up holds, the steps come to an end with what the pass gives, the formulas under
way are then those from before, and on the way they are never more than the limit. -/
namespace Spreadsheet.Formula

/-- What is left to do. -/
inductive Work (α : Type)
  | done (a : α)
  | ask (p : Position) (next : Value → Work α)
  /-- The formula of the cell is no longer under way. -/
  | leave (p : Position) (rest : Work α)

namespace Work

variable {α β : Type}

def bind : Work α → (α → Work β) → Work β
  | done a, f => f a
  | ask p next, f => ask p fun v => (next v).bind f
  | leave p rest, f => leave p (rest.bind f)

instance : Monad Work where
  pure := done
  bind := bind

theorem bind_done (x : Work α) : x.bind done = x := by
  induction x with
  | done a => rfl
  | ask p next ih => exact congrArg (ask p) (funext ih)
  | leave p rest ih => exact congrArg (leave p) ih

theorem bind_bind {γ : Type} (x : Work α) (f : α → Work β) (g : β → Work γ) :
    (x.bind f).bind g = x.bind fun a => (f a).bind g := by
  induction x with
  | done a => rfl
  | ask p next ih => exact congrArg (ask p) (funext ih)
  | leave p rest ih => exact congrArg (leave p) ih

instance : LawfulMonad Work :=
  LawfulMonad.mk' Work bind_done (fun _ _ => rfl) bind_bind

def read (p : Position) : Work Value := ask p done

/-- Where every request is answered with the given value, the work is done with that outcome. -/
inductive Answers (values : Position → Value) : Work α → α → Prop
  | done (a : α) : Answers values (done a) a
  | ask {p : Position} {next : Value → Work α} {a : α} (rest : Answers values (next (values p)) a) :
    Answers values (ask p next) a

variable {values : Position → Value}

theorem Answers.bind {x : Work α} {f : α → Work β} {a : α} {b : β} (first : Answers values x a)
    (second : Answers values (f a) b) : Answers values (x >>= f) b := by
  induction first with
  | done => exact second
  | ask _ ih => exact .ask (ih second)

theorem yielding_answers (values : Position → Value) : Yielding fun {α : Type} => Answers (α := α) values :=
  ⟨Answers.done, Answers.bind⟩

theorem answers_read (values : Position → Value) (p : Position) : Answers values (read p) (values p) := .ask (.done _)

end Work

/-- Where an evaluation stands. -/
structure Evaluation (α : Type) where
  underway : Underway
  work : Work α

namespace Evaluation

variable {α β : Type} {lookup : Lookup} {underway : Underway} {p : Position} {next : Value → Work α}

def step (lookup : Lookup) : Evaluation α → Evaluation α
  | ⟨underway, .done a⟩ => ⟨underway, .done a⟩
  | ⟨underway, .leave p rest⟩ => ⟨underway.erase p, rest⟩
  | ⟨underway, .ask p next⟩ =>
    if p ∈ underway then ⟨underway, next (.fault .circular)⟩
    else if maxDepth ≤ underway.length then ⟨underway, next (.fault .ref)⟩
    else if isFormula (lookup p) then ⟨p :: underway, evalRaw Work.read (lookup p) >>= fun v => .leave p (next v)⟩
    else ⟨underway, next (.ofLiteral (lookup p))⟩

theorem length_step {e : Evaluation α} (fits : e.underway.length ≤ maxDepth) :
    (e.step lookup).underway.length ≤ maxDepth := by
  obtain ⟨underway, work⟩ := e
  cases work with
  | done a => exact fits
  | leave p rest => exact Nat.le_trans List.length_erase_le fits
  | ask p next =>
    rw [step]
    split
    · exact fits
    · split
      · exact fits
      next room =>
        split
        · exact Nat.lt_of_not_le room
        · exact fits

theorem length_iterate_step {e : Evaluation α} (fits : e.underway.length ≤ maxDepth) (n : Nat) :
    ((step lookup)^[n] e).underway.length ≤ maxDepth := by
  induction n with
  | zero => exact fits
  | succ n ih =>
    rw [Function.iterate_succ_apply']
    exact length_step ih

def Reaches (lookup : Lookup) (e e' : Evaluation α) : Prop := ∃ n, (step lookup)^[n] e = e'

theorem Reaches.refl (e : Evaluation α) : Reaches lookup e e := ⟨0, rfl⟩

theorem Reaches.trans {e e' e'' : Evaluation α} (first : Reaches lookup e e') (second : Reaches lookup e' e'') :
    Reaches lookup e e'' := by
  obtain ⟨n, rfl⟩ := first
  obtain ⟨m, rfl⟩ := second
  exact ⟨m + n, Function.iterate_add_apply _ m n e⟩

theorem Reaches.head {e e' : Evaluation α} (rest : Reaches lookup (e.step lookup) e') : Reaches lookup e e' :=
  Reaches.trans ⟨1, rfl⟩ rest

/-- Work over the values of the cells is carried through, whatever is to be done after it. -/
def Settles (lookup : Lookup) (underway : Underway) : Prop :=
  ∀ {α β : Type} {work : Work α} {a : α}, work.Answers (fun p => Visit.value lookup ⟨underway, p⟩) a →
    ∀ f : α → Work β, Reaches lookup ⟨underway, work >>= f⟩ ⟨underway, f a⟩

section Settles

variable (fits : underway.length ≤ maxDepth)
include fits

/-- A request comes back with the value of the cell, if formulas under one more settle. -/
theorem reaches_answer (deeper : underway.length < maxDepth → Settles lookup (p :: underway)) :
    Reaches lookup ⟨underway, .ask p next⟩ ⟨underway, next (Visit.value lookup ⟨underway, p⟩)⟩ := by
  by_cases circular : p ∈ underway
  · rw [Visit.value_of_circular circular fits]
    exact ⟨1, if_pos circular⟩
  by_cases deep : maxDepth ≤ underway.length
  · rw [Visit.value_of_deep circular deep]
    exact ⟨1, (if_neg circular).trans (if_pos deep)⟩
  rw [Visit.value_of_free (v := ⟨underway, p⟩) (not_or.2 ⟨circular, deep⟩)]
  cases formula : isFormula (lookup p) with
  | false =>
    rw [rawValue_literal _ formula]
    exact ⟨1, by simp [step, circular, deep, formula]⟩
  | true =>
    have entered : step lookup ⟨underway, .ask p next⟩ =
        ⟨p :: underway, evalRaw Work.read (lookup p) >>= fun v => .leave p (next v)⟩ := by
      simp [step, circular, deep, formula]
    have left (v : Value) : step lookup ⟨p :: underway, .leave p (next v)⟩ = ⟨underway, next v⟩ := by
      simp [step]
    have evaluated := (Work.yielding_answers fun q => Visit.value lookup ⟨p :: underway, q⟩).evalRaw
      (Work.answers_read _) (lookup p)
    have inside := deeper (Nat.lt_of_not_le deep) evaluated fun v => .leave p (next v)
    refine .head ?_
    rw [entered]
    refine inside.trans (.head ?_)
    rw [left]
    exact .refl _

theorem settles_of_deeper (deeper : ∀ p, underway.length < maxDepth → Settles lookup (p :: underway)) :
    Settles lookup underway := by
  intro α β work a answers f
  induction answers with
  | done a => exact .refl _
  | ask _ ih => exact (reaches_answer fits (deeper _)).trans ih

/-- The look-up may go on and on, but there is less room under each formula. -/
theorem settles (lookup : Lookup) : Settles lookup underway := by
  induction room : maxDepth - underway.length generalizing underway with
  | zero => exact settles_of_deeper fits fun p more => by omega
  | succ room ih =>
    refine settles_of_deeper fits fun p more => ih ?_ ?_
    · exact more
    · rw [List.length_cons]
      omega

end Settles

end Evaluation

/-- Step by step the work ends with what the pass gives. The formulas under way are then those from before, and never
more than the limit. -/
structure Completes {α : Type} (lookup : Lookup) (underway : Underway) (work : Work α) (pass : Pass α) : Prop where
  ends : ∃ n, (Evaluation.step lookup)^[n] ⟨underway, work⟩ = ⟨underway, .done (pass.run underway).1⟩
  within : ∀ n, ((Evaluation.step lookup)^[n] ⟨underway, work⟩).underway.length ≤ maxDepth
  restores : (pass.run underway).2 = underway

section Completes

variable {lookup : Lookup} {underway : Underway} (fits : underway.length ≤ maxDepth)
include fits

theorem completes_of_answers {α : Type} {work : Work α} {pass : Pass α} {a : α}
    (answers : work.Answers (fun p => Visit.value lookup ⟨underway, p⟩) a) (gives : Pass.Gives underway pass a) :
    Completes lookup underway work pass := by
  have outcome : pass.run underway = (a, underway) := gives
  have settled := Evaluation.settles fits lookup answers pure
  rw [bind_pure] at settled
  exact ⟨outcome ▸ settled, Evaluation.length_iterate_step fits, congrArg Prod.snd outcome⟩

theorem gives_read (p : Position) :
    Pass.Gives underway (Pass.cellValue lookup (maxDepth + 1) p) (Visit.value lookup ⟨underway, p⟩) := by
  rw [← Visit.valueUnder_eq_value fits (Nat.lt_add_right _ (Nat.lt_succ_self maxDepth))]
  exact Pass.gives_cellValue lookup _ underway p

end Completes

/-- Whatever the look-up holds, evaluating a cell, an entered text, an expression or cells one after another comes to an
end, with formulas under way as before and never too many of them; so a pass may be used again for the next cell. -/
theorem evaluation_completes (lookup : Lookup) {underway : Underway} (fits : underway.length ≤ maxDepth) :
    (∀ p, Completes lookup underway (Work.read p) (Pass.cellValue lookup (maxDepth + 1) p)) ∧
      (∀ raw, Completes lookup underway (evalRaw Work.read raw) (evalRaw (Pass.cellValue lookup (maxDepth + 1)) raw)) ∧
      (∀ e : Expr, Completes lookup underway (e.eval Work.read) (e.eval (Pass.cellValue lookup (maxDepth + 1)))) ∧
      (∀ ps : List Position,
        Completes lookup underway (ps.mapM Work.read) (ps.mapM (Pass.cellValue lookup (maxDepth + 1)))) ∧
      ∀ ps : List Position,
        ((ps.mapM (Pass.cellValue lookup (maxDepth + 1))).run []).1 = ps.map (evaluateCell lookup) := by
  have asks := Work.yielding_answers fun p => Visit.value lookup ⟨underway, p⟩
  have gives := Pass.yielding_gives underway
  have asked := Work.answers_read fun p => Visit.value lookup ⟨underway, p⟩
  have given := @gives_read lookup underway fits
  refine ⟨fun p => ?_, fun raw => ?_, fun e => ?_, fun ps => ?_, fun ps => ?_⟩
  · exact completes_of_answers fits (asked p) (given p)
  · exact completes_of_answers fits (asks.evalRaw asked raw) (gives.evalRaw given raw)
  · exact completes_of_answers fits (asks.eval asked e) (gives.eval given e)
  · exact completes_of_answers fits (asks.mapM asked ps) (gives.mapM given ps)
  · have fresh : Pass.Gives [] (ps.mapM (Pass.cellValue lookup (maxDepth + 1))) (ps.map (evaluateCell lookup)) := by
      refine (Pass.yielding_gives []).mapM (fun p => ?_) ps
      rw [evaluateCell_eq]
      exact Pass.gives_cellValue lookup _ [] p
    exact congrArg Prod.fst fresh

/-- Every cell holds a formula that refers to the cell below it. -/
def endless : Lookup := fun p => "=" ++ Position.name ⟨p.row + 1, p.col⟩

/-- Formulas under way that leave room for one more. -/
def crowded : Underway := (List.range (maxDepth - 1)).map fun row => ⟨row, 1⟩

theorem evaluation_completes_endless :
    crowded.length ≤ maxDepth ∧ ((Pass.cellValue endless (maxDepth + 1) ⟨0, 0⟩).run crowded).1.isFault = true ∧
      Completes endless crowded (Work.read ⟨0, 0⟩) (Pass.cellValue endless (maxDepth + 1) ⟨0, 0⟩) := by
  have fits : crowded.length ≤ maxDepth := by simp [crowded]
  exact ⟨fits, by decide +kernel, (evaluation_completes endless fits).1 ⟨0, 0⟩⟩

end Spreadsheet.Formula
