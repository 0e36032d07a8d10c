import Mathlib.Data.List.Infix

/-! Runs: steps taken one after another, and what holds at all the states on the way. -/
namespace Spreadsheet.Run

/-- There are only as many prefixes as there are steps, and one more. -/
instance decidableAllPrefixes {α : Type} (P : List α → Prop) [DecidablePred P] (actions : List α) :
    Decidable (∀ before, before <+: actions → P before) :=
  decidable_of_iff (∀ before ∈ actions.inits, P before) (by simp only [List.mem_inits])

variable {α β : Type} {step : β → α → β} {Sound Holds : β → Prop} {Keeps : β → β → Prop} {Breaks : α → β → Prop}

theorem keeps (kept : ∀ b a, Sound b → Sound (step b a)) {b : β} (sound : Sound b) (actions : List α) :
    Sound (actions.foldl step b) :=
  List.foldlRecOn actions step sound fun b sound a _ => kept b a sound

/-- Where a step does something exactly if it does not break it, and what is needed for that holds again after such a
step, all steps of a run do it exactly if none breaks it. -/
theorem forall_step_iff (kept : ∀ b a, Sound b → Sound (step b a))
    (next : ∀ b a, Sound b → Holds b → Keeps b (step b a) → Holds (step b a))
    (breaks : ∀ b a, Sound b → Holds b → (Keeps b (step b a) ↔ ¬Breaks a b)) {b : β} (sound : Sound b)
    (holds : Holds b) (actions : List α) :
    (∀ before a, before ++ [a] <+: actions → Keeps (before.foldl step b) ((before ++ [a]).foldl step b)) ↔
      ∀ before a, before ++ [a] <+: actions → ¬Breaks a (before.foldl step b) := by
  have along (keep : ∀ before a, before ++ [a] <+: actions → Holds (before.foldl step b) →
      Keeps (before.foldl step b) (step (before.foldl step b) a)) :
      ∀ before, before <+: actions → Holds (before.foldl step b) := by
    -- a prefix grows at its end, and the step there is the one that is asked about
    intro before
    induction before using List.reverseRecOn with
    | nil => exact fun _ => holds
    | append_singleton before a ih =>
      intro inside
      have here := ih ((List.prefix_append before [a]).trans inside)
      rw [List.foldl_concat]
      exact next _ a (keeps kept sound before) here (keep before a inside here)
  constructor
  · intro all before a inside
    have keep (before : List α) (a : α) (inside : before ++ [a] <+: actions) := all before a inside
    simp only [List.foldl_concat] at keep
    have here := along (fun before a inside _ => keep before a inside) before ((List.prefix_append before [a]).trans inside)
    exact (breaks _ a (keeps kept sound before) here).1 (keep before a inside)
  · intro never before a inside
    have keep (before : List α) (a : α) (inside : before ++ [a] <+: actions) (here : Holds (before.foldl step b)) :
        Keeps (before.foldl step b) (step (before.foldl step b) a) :=
      (breaks _ a (keeps kept sound before) here).2 (never before a inside)
    rw [List.foldl_concat]
    exact keep before a inside (along keep before ((List.prefix_append before [a]).trans inside))

/-- What a step loses exactly if it breaks it holds all along a run exactly if no step of the run breaks it. -/
theorem forall_prefix_iff (kept : ∀ b a, Sound b → Sound (step b a))
    (breaks : ∀ b a, Sound b → Holds b → (Holds (step b a) ↔ ¬Breaks a b)) {b : β} (sound : Sound b)
    (holds : Holds b) (actions : List α) :
    (∀ before, before <+: actions → Holds (before.foldl step b)) ↔
      ∀ before a, before ++ [a] <+: actions → ¬Breaks a (before.foldl step b) := by
  have steps := @forall_step_iff α β step Sound Holds (fun _ b => Holds b) Breaks kept (fun _ _ _ _ after => after)
    breaks b sound holds actions
  rw [← steps]
  constructor
  · exact fun all before a inside => all _ inside
  · intro later before inside
    rcases before.eq_nil_or_concat with rfl | ⟨before, a, rfl⟩
    · exact holds
    · rw [List.concat_eq_append] at inside ⊢
      exact later before a inside

/-- Steps of one kind change a part of the state by what it was, and the others leave it alone: then a run makes of the part
what its steps of that kind make of it. -/
theorem part_filter {γ : Type} {part : β → γ} {bears : α → Bool}
    (follows : ∀ a, bears a = true → ∀ b c, part b = part c → part (step b a) = part (step c a))
    (spares : ∀ a, bears a = false → ∀ b, part (step b a) = part b) {b c : β} (same : part b = part c)
    (actions : List α) : part (actions.foldl step b) = part ((actions.filter bears).foldl step c) := by
  induction actions generalizing b c with
  | nil => exact same
  | cons a rest ih =>
    cases kind : bears a with
    | true =>
      rw [List.filter_cons_of_pos kind]
      exact ih (follows a kind b c same)
    | false =>
      rw [List.filter_cons_of_neg (by simp [kind])]
      exact ih ((spares a kind b).trans same)

/-- Two steps that may fail come to a result just if both do. -/
theorem bind_eq_ok_iff {ε : Type} {x : Except ε α} {f : α → Except ε β} {b : β} :
    x >>= f = .ok b ↔ ∃ a, x = .ok a ∧ f a = .ok b := by
  cases x with
  | error e => exact iff_of_false nofun fun ⟨_, same, _⟩ => nomatch same
  | ok a => exact ⟨fun same => ⟨a, rfl, same⟩, fun ⟨_, same, last⟩ => Except.ok.inj same ▸ last⟩

section Answers

variable {γ δ : Type}

/-- The answers that steps give one after another, and the state after the last one. -/
def answers (step : α → β → γ × β) : List α → β → List γ × β
  | [], b => ([], b)
  | a :: rest, b =>
    let (answer, next) := step a b
    let (others, last) := answers step rest next
    (answer :: others, last)

/-- Two systems that answer each step alike, and are alike after it, answer whole runs alike. -/
theorem answers_alike {step : α → β → γ × β} {step' : α → δ → γ × δ} {Alike : β → δ → Prop}
    (each : ∀ b d a, Alike b d → (step a b).1 = (step' a d).1 ∧ Alike (step a b).2 (step' a d).2) {b : β} {d : δ}
    (alike : Alike b d) (actions : List α) :
    (answers step actions b).1 = (answers step' actions d).1 ∧
      Alike (answers step actions b).2 (answers step' actions d).2 := by
  induction actions generalizing b d with
  | nil => exact ⟨rfl, alike⟩
  | cons a rest ih =>
    obtain ⟨first, next⟩ := each b d a alike
    obtain ⟨others, last⟩ := ih next
    exact ⟨congrArg₂ List.cons first others, last⟩

end Answers

end Spreadsheet.Run
