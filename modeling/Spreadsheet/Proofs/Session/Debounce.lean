import Spreadsheet.Proofs.Session.Touching

/-! When the document is saved. A watch beside the session notes when it was touched last, and forgets that when a save
falls due or is made at once. A save falls due when the delay has passed since that touch; it is of the document as it is
then, whether it succeeds or not. What is said holds for every delay and for time that passes in steps of any length, so
that it does not depend on the unit that both are counted in. -/
namespace Spreadsheet

/-- An archive that also keeps what it was asked to save, the newest first, whether that succeeded or not. -/
structure Ledger (σ : Type) where
  archive : σ
  requests : List (String × String) := []

namespace Ledger

variable {σ : Type} [Archive σ]

def save (name text : String) (l : Ledger σ) : Except ArchiveError Unit × Ledger σ :=
  let (answer, archive) := Archive.save name text l.archive
  (answer, ⟨archive, (name, text) :: l.requests⟩)

def load (name : String) (l : Ledger σ) : Except ArchiveError (Option String) × Ledger σ :=
  let (answer, archive) := Archive.load name l.archive
  (answer, { l with archive })

instance : Archive (Ledger σ) := ⟨save, load⟩

end Ledger

namespace Session

variable {γ σ : Type}

section Saving

variable [Archive σ] {s : Session γ σ}

theorem maybeSave_fst (s : Session γ σ) : s.maybeSave.1 = s.autosave.deadline.any (· ≤ s.now) := by
  rw [maybeSave, Debounce.poll]
  cases s.autosave.deadline.any (· ≤ s.now) <;> rfl

theorem maybeSave_of_due (due : s.maybeSave.1 = true) :
    s.maybeSave = (true, writeDocument { s with autosave := s.autosave.cancel }) := by
  rw [maybeSave_fst] at due
  simp [maybeSave, Debounce.poll, due]

theorem maybeSave_of_early (early : s.maybeSave.1 = false) : s.maybeSave = (false, s) := by
  rw [maybeSave_fst] at early
  simp [maybeSave, Debounce.poll, early]

theorem saveNow_of_pending (pending : s.autosave.isPending = true) :
    s.saveNow = writeDocument { s with autosave := s.autosave.cancel } := if_pos pending

theorem saveNow_of_isQuiet (quiet : s.IsQuiet) : s.saveNow = s := if_neg (Bool.eq_false_iff.1 quiet)

end Saving

/-- Does the action save the document? -/
def writes [Archive σ] (a : Action) (s : Session γ σ) : Bool :=
  match a with
  | .maybeSave => s.maybeSave.1
  | .saveNow => s.autosave.isPending
  | _ => false

/-- An action that saves asks for the document as it is then and leaves it as it is; the others ask for nothing. -/
theorem requests_perform [Clipboard γ] [Archive σ] (s : Session γ (Ledger σ)) (a : Action) :
    (s.perform a).2.archive.requests =
        (if s.writes a then [(s.docId, s.workbook.toPayload)] else []) ++ s.archive.requests ∧
      (s.writes a = true → (s.perform a).2.workbook = s.workbook) := by
  cases silent : mayWrite a with
  | false =>
    have none : s.writes a = false := by
      cases a with
      | maybeSave | saveNow => cases silent
      | _ => rfl
    rw [none, (tracks_perform s silent).archive]
    exact ⟨rfl, nofun⟩
  | true =>
    cases a with
    | maybeSave =>
      rw [writes, perform, answering]
      cases due : s.maybeSave.1 with
      | true =>
        rw [maybeSave_of_due due]
        exact ⟨rfl, fun _ => rfl⟩
      | false =>
        rw [maybeSave_of_early due]
        exact ⟨rfl, nofun⟩
    | saveNow =>
      rw [writes, perform, silently]
      cases pending : s.autosave.isPending with
      | true =>
        rw [saveNow_of_pending pending]
        exact ⟨rfl, fun _ => rfl⟩
      | false =>
        rw [saveNow_of_isQuiet pending]
        exact ⟨rfl, nofun⟩
    | _ => cases silent

theorem isQuiet_saveNow [Archive σ] (s : Session γ σ) : s.saveNow.IsQuiet := by
  cases pending : s.autosave.isPending with
  | true =>
    rw [saveNow_of_pending pending]
    rfl
  | false =>
    rw [saveNow_of_isQuiet pending]
    exact pending

/-- A session beside the time of the last touch since a save fell due or was made at once, if there was one. -/
structure Watched (γ σ : Type) where
  session : Session γ (Ledger σ)
  touched : Option Nat := none

namespace Watched

variable {first : Session γ (Ledger σ)} {w : Watched γ σ} {delay : Nat}

/-- The deadline of the session is the last touch and the delay. -/
structure InTime (delay : Nat) (w : Watched γ σ) : Prop where
  sound : Sound (fun _ => True) w.session
  autosave : w.session.autosave = ⟨delay, w.touched.map (· + delay)⟩

namespace InTime

theorem maybeSave_iff [Archive σ] (inTime : InTime delay w) :
    w.session.maybeSave.1 = true ↔ ∃ time, w.touched = some time ∧ time + delay ≤ w.session.now := by
  rw [maybeSave_fst, inTime.autosave]
  cases w.touched <;> simp

theorem isPending_eq (inTime : InTime delay w) : w.session.autosave.isPending = w.touched.isSome := by
  rw [inTime.autosave, Debounce.isPending, Option.isSome_map]

end InTime

variable [Clipboard γ] [Archive σ]

def step (w : Watched γ σ) (a : Action) : Watched γ σ :=
  let (answer, next) := w.session.perform a
  let touched := match a with
    | .maybeSave => if answer = .flag true then none else w.touched
    | .saveNow => none
    | a => if w.session.touches a then some w.session.now else w.touched
  ⟨next, touched⟩

def run (first : Session γ (Ledger σ)) (actions : List Action) : Watched γ σ := actions.foldl step ⟨first, none⟩

theorem session_run (first : Session γ (Ledger σ)) (actions : List Action) :
    (run first actions).session = performAll actions first :=
  (List.foldl_hom session fun _ _ => rfl).symm

theorem InTime.step (inTime : InTime delay w) (a : Action) : InTime delay (w.step a) := by
  refine ⟨inTime.sound.perform Sheet.lasting_any a, ?_⟩
  cases silent : mayWrite a with
  | false =>
    have touched : (w.step a).touched = if w.session.touches a then some w.session.now else w.touched := by
      cases a with
      | maybeSave | saveNow => cases silent
      | _ => rfl
    rw [touched]
    refine (autosave_perform inTime.sound silent).trans ?_
    rw [inTime.autosave]
    split <;> rfl
  | true =>
    cases a with
    | maybeSave =>
      change w.session.maybeSave.2.autosave =
        ⟨delay, (if Answer.flag w.session.maybeSave.1 = .flag true then none else w.touched).map (· + delay)⟩
      cases due : w.session.maybeSave.1 with
      | true =>
        rw [maybeSave_of_due due]
        exact congrArg Debounce.cancel inTime.autosave
      | false =>
        rw [maybeSave_of_early due]
        exact inTime.autosave
    | saveNow =>
      change w.session.saveNow.autosave = ⟨delay, none⟩
      cases pending : w.session.autosave.isPending with
      | true =>
        rw [saveNow_of_pending pending]
        exact congrArg Debounce.cancel inTime.autosave
      | false =>
        rw [saveNow_of_isQuiet pending, inTime.autosave]
        rw [isPending_eq inTime, Option.isSome_eq_false_iff, Option.isNone_iff_eq_none] at pending
        rw [pending]
        rfl
    | _ => cases silent

theorem inTime_run (begins : Begins (fun _ => True) first) (actions : List Action) :
    InTime first.settings.autosaveDelay (run first actions) := by
  have opened : first.autosave = ⟨first.settings.autosaveDelay, none⟩ := by cases begins <;> rfl
  exact Run.keeps (fun _ a inTime => inTime.step a) ⟨sound_begins Sheet.lasting_any begins, opened⟩ actions

/-- After any run a save falls due exactly if the session was touched since the last save fell due or was made at once, and
the delay has passed since the last touch. Every save asks the archive for the document as it is then, and saving at once
does so exactly if a save is pending, and leaves none pending. -/
theorem debounced (begins : Begins (fun _ => True) first) (actions : List Action) :
    let s := performAll actions first
    let touched := (run first actions).touched
    (s.maybeSave.1 = true ↔ ∃ time, touched = some time ∧ time + first.settings.autosaveDelay ≤ s.now) ∧
      s.autosave.isPending = touched.isSome ∧ s.saveNow.autosave.isPending = false ∧
      (∀ a, (s.perform a).2.archive.requests =
        (if s.writes a then [(s.docId, s.workbook.toPayload)] else []) ++ s.archive.requests) ∧
      ∀ a, s.writes a = true → (s.perform a).2.workbook = s.workbook := by
  intro s touched
  have inTime := inTime_run begins actions
  have session : (run first actions).session = s := session_run first actions
  refine ⟨?_, ?_, s.isQuiet_saveNow, fun a => (s.requests_perform a).1, fun a => (s.requests_perform a).2⟩
  · rw [← session]
    exact inTime.maybeSave_iff
  · rw [← session]
    exact inTime.isPending_eq

/-- A session over an empty document that saves two seconds after a touch. -/
def twoSeconds : Session MemoryClipboard (Ledger MemoryArchive) := .start "doc" .default { autosaveDelay := 2000 } {} ⟨{}, []⟩

/-- A second letter is typed before the first one is saved. -/
def typedTwice : List Action := [.typeChar 'a', .advance 1500, .typeChar 'b', .advance 1999]

theorem debounced_typedTwice :
    Begins (fun _ => True) twoSeconds ∧ (performAll typedTwice twoSeconds).maybeSave.1 = false ∧
      (performAll (typedTwice ++ [.advance 1]) twoSeconds).maybeSave.1 = true ∧
      (performAll (typedTwice ++ [.advance 1, .maybeSave]) twoSeconds).maybeSave.1 = false := by
  have begins : Begins (fun _ => True) twoSeconds := .start (.singleton trivial) _ _ _ _
  have early := (debounced begins typedTwice).1
  have due := (debounced begins (typedTwice ++ [.advance 1])).1
  have saved := (debounced begins (typedTwice ++ [.advance 1, .maybeSave])).1
  have touched : (run twoSeconds typedTwice).touched = some 1500 := by decide +kernel
  have touched' : (run twoSeconds (typedTwice ++ [.advance 1])).touched = some 1500 := by decide +kernel
  have untouched : (run twoSeconds (typedTwice ++ [.advance 1, .maybeSave])).touched = none := by decide +kernel
  refine ⟨begins, ?_, due.2 ⟨1500, touched', by decide +kernel⟩, ?_⟩
  · rw [← Bool.not_eq_true, early, touched]
    decide +kernel
  · rw [← Bool.not_eq_true, saved, untouched]
    decide +kernel

end Watched

end Session

end Spreadsheet
