import Spreadsheet.Proofs.Run
import Spreadsheet.Proofs.Session.Change

/-! What a run of a session has saved. A journal keeps what was written to an archive, and beside the session runs
the workbook that was written last. A quiet session is one without a pending save. Its workbook is the one written
last, unless a step has taken unrecorded sheets back to the current snapshot: such a step is neither recorded nor
puts the save off. -/
namespace Spreadsheet

/-- An archive that also keeps what was saved in it, the newest first. -/
structure Journal (σ : Type) where
  archive : σ
  log : List (String × String) := []

namespace Journal

variable {σ : Type} [Archive σ]

def save (name text : String) (j : Journal σ) : Except ArchiveError Unit × Journal σ :=
  let (answer, archive) := Archive.save name text j.archive
  (answer, ⟨archive, if answer.isOk then (name, text) :: j.log else j.log⟩)

def load (name : String) (j : Journal σ) : Except ArchiveError (Option String) × Journal σ :=
  let (answer, archive) := Archive.load name j.archive
  (answer, { j with archive })

instance : Archive (Journal σ) := ⟨save, load⟩

/-- The archive after a list of saves, each a name and a text. -/
def saveAll (saves : List (String × String)) (a : σ) : σ := saves.foldl (fun a s => (Archive.save s.1 s.2 a).2) a

/-- All saves succeed, whatever was saved before. -/
def Reliable (a : σ) : Prop := ∀ saves name text, (Archive.save name text (saveAll saves a)).1 = .ok ()

theorem Reliable.after_save {a : σ} (reliable : Reliable a) (name text : String) :
    Reliable (Archive.save name text a).2 :=
  fun saves => reliable ((name, text) :: saves)

theorem Reliable.log_save {j : Journal σ} (reliable : Reliable j.archive) (name text : String) :
    (Archive.save name text j).2.log = (name, text) :: j.log := by
  have ok : (Archive.save name text j.archive).1 = .ok () := reliable [] name text
  change (if (Archive.save name text j.archive).1.isOk then (name, text) :: j.log else j.log) = _
  rw [ok]
  rfl

end Journal

namespace Session

variable {γ σ : Type}

/-- No save is pending. -/
def IsQuiet (s : Session γ σ) : Prop := s.autosave.isPending = false

/-- The sheets are the current snapshot. -/
def IsRecorded (s : Session γ σ) : Prop := s.history.current? = some s.workbook.sheets

instance (s : Session γ σ) : Decidable s.IsQuiet := inferInstanceAs (Decidable (_ = _))
instance (s : Session γ σ) : Decidable s.IsRecorded := inferInstanceAs (Decidable (_ = _))

/-- What every step but a save does: it leaves a save pending, or it leaves autosave and history as they were and
changes the sheets, if at all, into the current snapshot. -/
structure Tracks (s t : Session γ σ) : Prop where
  archive : t.archive = s.archive
  docId : t.docId = s.docId
  known : ¬t.IsQuiet ∨ (t.autosave = s.autosave ∧ t.history = s.history ∧ (t.workbook = s.workbook ∨ t.IsRecorded))

namespace Tracks

theorem of_same {s t : Session γ σ} (archive : t.archive = s.archive) (docId : t.docId = s.docId)
    (autosave : t.autosave = s.autosave) (history : t.history = s.history)
    (workbook : t.workbook = s.workbook) : Tracks s t :=
  ⟨archive, docId, .inr ⟨autosave, history, .inl workbook⟩⟩

theorem refl (s : Session γ σ) : Tracks s s := of_same rfl rfl rfl rfl rfl

theorem trans {s t u : Session γ σ} (first : Tracks s t) (second : Tracks t u) : Tracks s u := by
  refine ⟨second.archive.trans first.archive, second.docId.trans first.docId, ?_⟩
  rcases second.known with pending | ⟨autosave, history, workbook⟩
  · exact .inl pending
  · rcases first.known with pending | ⟨autosave', history', workbook'⟩
    · left
      simpa only [IsQuiet, autosave] using pending
    · refine .inr ⟨autosave.trans autosave', history.trans history', ?_⟩
      rcases workbook with same | recorded
      · rcases workbook' with same' | recorded
        · exact .inl (same.trans same')
        · right
          simpa only [IsRecorded, history, same] using recorded
      · exact .inr recorded

theorem touch {s t : Session γ σ} (archive : t.archive = s.archive) (docId : t.docId = s.docId) :
    Tracks s t.touch :=
  ⟨archive, docId, .inl (by simp [IsQuiet, Session.touch, Debounce.schedule, Debounce.isPending])⟩

/-- Recording a change is seen, except when the change ends in the current snapshot. -/
theorem commit {s t : Session γ σ} (archive : t.archive = s.archive) (docId : t.docId = s.docId)
    (autosave : t.autosave = s.autosave) (history : t.history = s.history) : Tracks s t.commit := by
  unfold Session.commit
  split
  next recorded => exact ⟨archive, docId, .inr ⟨autosave, history, .inr recorded⟩⟩
  next => exact touch archive docId

end Tracks

theorem tracks_change {s t : Session γ σ} (change : Change s t) : Tracks s t := by
  cases change with
  | look same _ _ => exact .of_same same.archive same.docId same.autosave same.history same.workbook
  | write | restore => exact .touch rfl rfl
  | commit | revise | rename => exact .commit rfl rfl rfl rfl

theorem tracks_changes {s t : Session γ σ} (changes : Changes s t) : Tracks s t := by
  induction changes with
  | refl => exact .refl s
  | tail _ change ih => exact ih.trans (tracks_change change)

theorem tracks_finishEdit (s : Session γ σ) : Tracks s s.finishEdit := tracks_changes s.changes_finishEdit

theorem tracks_mouseUp (s : Session γ σ) : Tracks s s.mouseUp := by
  rcases s.mouseUp_cases with ⟨_, _, _, _, released⟩ | ⟨_, released⟩
  · rw [released]
    exact .commit rfl rfl rfl rfl
  · rw [released]
    exact .of_same rfl rfl rfl rfl rfl

theorem tracks_addSheet (s : Session γ σ) : Tracks s s.addSheet.2 :=
  s.tracks_finishEdit.trans (.commit rfl rfl rfl rfl)

theorem tracks_deleteSheet (s : Session γ σ) (index : Nat) : Tracks s (s.deleteSheet index).2 := by
  apply s.tracks_finishEdit.trans
  rcases s.deleteSheet_cases index with ⟨_, kept⟩ | ⟨_, _, _, _, _, deleted⟩
  · rw [kept]
    exact .refl _
  · rw [deleted]
    exact .commit rfl rfl rfl rfl

theorem tracks_switchSheet (s : Session γ σ) (index : Nat) : Tracks s (s.switchSheet index).2 := by
  rcases s.switchSheet_cases index with ⟨_, switched⟩ | ⟨_, same⟩
  · rw [switched]
    exact s.tracks_finishEdit.trans (.of_same rfl rfl rfl rfl rfl)
  · rw [same]
    exact .refl s

section Perform

variable [Clipboard γ] [Archive σ]

/-- The actions that may write the document. -/
def mayWrite : Action → Bool
  | .maybeSave => true
  | .saveNow => true
  | _ => false

theorem tracks_perform (s : Session γ σ) {a : Action} (silent : mayWrite a = false) :
    Tracks s (s.perform a).2 := by
  cases plain : isPlain a with
  | true => exact tracks_changes (s.changes_perform plain)
  | false =>
    cases a with
    | mouseUp => exact s.tracks_mouseUp
    | fillHandleDown | resizeHandleDown => exact s.tracks_finishEdit.trans (.of_same rfl rfl rfl rfl rfl)
    | addSheet => exact s.tracks_addSheet
    | deleteSheet index => exact s.tracks_deleteSheet index
    | switchSheet index => exact s.tracks_switchSheet index
    | maybeSave | saveNow => cases silent
    | _ => cases plain

/-- The step goes from one quiet session to another, and from sheets that are not recorded to the current snapshot. -/
def Reverts (a : Action) (s : Session γ σ) : Prop :=
  s.IsQuiet ∧ ¬s.IsRecorded ∧ (s.perform a).2.IsQuiet ∧ (s.perform a).2.IsRecorded

end Perform

/-- Sessions as they begin, with nothing written yet. -/
inductive Opened [Archive σ] : Session γ (Journal σ) → Prop
  | start (docId : String) (workbook : Workbook) (settings : Settings) (clipboard : γ) (archive : σ) :
      Opened (.start docId workbook settings clipboard ⟨archive, []⟩)
  | openDocument (docId : String) (settings : Settings) (clipboard : γ) (archive : σ) :
      Opened (.openDocument docId settings clipboard ⟨archive, []⟩)

theorem Opened.log [Archive σ] {s : Session γ (Journal σ)} (opened : Opened s) : s.archive.log = [] := by
  cases opened <;> rfl

/-- A session beside the workbook that its run wrote last, or the first one while none was written. -/
structure Observed (γ σ : Type) where
  session : Session γ (Journal σ)
  saved : Workbook

namespace Observed

variable [Clipboard γ] [Archive σ]

def ofSession (s : Session γ (Journal σ)) : Observed γ σ := ⟨s, s.workbook⟩

/-- One action; the journal shows whether it wrote the document. -/
def step (w : Observed γ σ) (a : Action) : Observed γ σ :=
  let next := (w.session.perform a).2
  ⟨next, if next.archive.log.length = w.session.archive.log.length then w.saved else w.session.workbook⟩

def run (w : Observed γ σ) (actions : List Action) : Observed γ σ := actions.foldl step w

/-- The newest entry of the journal is the document as it was written last. -/
def IsShown (first : Workbook) (w : Observed γ σ) : Prop :=
  w.session.archive.log.head?.elim (w.saved = first) fun entry => entry = (w.session.docId, w.saved.toPayload)

/-- With no save pending nothing is left to write. -/
def IsSaved (w : Observed γ σ) : Prop := w.session.IsQuiet → w.session.workbook = w.saved

/-- What a step does that writes the document. -/
structure Writes (w t : Observed γ σ) : Prop where
  log : t.session.archive.log = (w.session.docId, w.session.workbook.toPayload) :: w.session.archive.log
  archive : t.session.archive.archive =
    (Archive.save w.session.docId w.session.workbook.toPayload w.session.archive.archive).2
  docId : t.session.docId = w.session.docId
  history : t.session.history = w.session.history
  workbook : t.session.workbook = w.session.workbook
  saved : t.saved = w.session.workbook

theorem step_of_tracks {w : Observed γ σ} {a : Action} (tracks : Tracks w.session (w.session.perform a).2) :
    Tracks w.session (w.step a).session ∧ (w.step a).saved = w.saved := by
  have same : (w.session.perform a).2.archive.log.length = w.session.archive.log.length := by rw [tracks.archive]
  exact ⟨tracks, if_pos same⟩

theorem step_of_write {w : Observed γ σ} {a : Action} (autosave : Debounce)
    (reliable : Journal.Reliable w.session.archive.archive)
    (writes : (w.session.perform a).2 = writeDocument { w.session with autosave }) : Writes w (w.step a) := by
  have log : (w.session.perform a).2.archive.log =
      (w.session.docId, w.session.workbook.toPayload) :: w.session.archive.log := by
    rw [writes]
    exact reliable.log_save _ _
  have longer : (w.session.perform a).2.archive.log.length ≠ w.session.archive.log.length := by simp [log]
  refine ⟨log, ?_, ?_, ?_, ?_, if_neg longer⟩
  all_goals
    simp only [step, writes]
    rfl

theorem step_cases {w : Observed γ σ} (reliable : Journal.Reliable w.session.archive.archive) (a : Action) :
    (Tracks w.session (w.step a).session ∧ (w.step a).saved = w.saved) ∨ Writes w (w.step a) := by
  cases silent : mayWrite a with
  | false => exact .inl (step_of_tracks (tracks_perform _ silent))
  | true =>
    cases a with
    | maybeSave =>
      by_cases due : w.session.autosave.deadline.any (· ≤ w.session.now)
      · right
        apply step_of_write w.session.autosave.cancel reliable
        simp [perform, maybeSave, answering, Debounce.poll, due]
      · left
        apply step_of_tracks
        simp only [perform, maybeSave, answering, Debounce.poll, due]
        exact .of_same rfl rfl rfl rfl rfl
    | saveNow =>
      by_cases pending : w.session.autosave.isPending
      · right
        apply step_of_write w.session.autosave.cancel reliable
        simp [perform, saveNow, silently, pending]
      · left
        apply step_of_tracks
        simp only [perform, saveNow, silently, pending]
        exact .refl _
    | _ => cases silent

theorem reliable_step {w : Observed γ σ} (reliable : Journal.Reliable w.session.archive.archive) (a : Action) :
    Journal.Reliable (w.step a).session.archive.archive := by
  rcases step_cases reliable a with ⟨tracks, _⟩ | writes
  · rw [tracks.archive]
    exact reliable
  · rw [writes.archive]
    exact reliable.after_save _ _

theorem isShown_step {first : Workbook} {w : Observed γ σ} (reliable : Journal.Reliable w.session.archive.archive)
    (shown : w.IsShown first) (a : Action) : (w.step a).IsShown first := by
  rcases step_cases reliable a with ⟨tracks, saved⟩ | writes
  · rw [IsShown, tracks.archive, tracks.docId, saved]
    exact shown
  · rw [IsShown, writes.log, writes.docId, writes.saved]
    rfl

/-- From a saved session a step loses a change exactly if it reverts. -/
theorem isSaved_step_iff {w : Observed γ σ} (reliable : Journal.Reliable w.session.archive.archive)
    (saved : w.IsSaved) (a : Action) : (w.step a).IsSaved ↔ ¬Reverts a w.session := by
  rcases step_cases reliable a with ⟨tracks, kept⟩ | writes
  · rcases tracks.known with pending | ⟨autosave, history, workbook⟩
    · exact iff_of_true (fun quiet => absurd quiet pending) fun reverts => pending reverts.2.2.1
    · have quiet_iff : (w.step a).session.IsQuiet ↔ w.session.IsQuiet := by rw [IsQuiet, IsQuiet, autosave]
      constructor
      · rintro after ⟨quiet, unrecorded, quiet', recorded⟩
        have same : (w.step a).session.workbook = w.session.workbook := by rw [after quiet', kept, saved quiet]
        apply unrecorded
        rw [IsRecorded, ← history, ← same]
        exact recorded
      · intro stays quiet'
        have quiet := quiet_iff.mp quiet'
        rcases workbook with same | recorded
        · rw [same, kept, saved quiet]
        · -- the sheets end in the snapshot, so they must have been there before
          by_cases before : w.session.IsRecorded
          · have sheets : (w.step a).session.workbook.sheets = w.session.workbook.sheets := by
              rw [IsRecorded, history, before] at recorded
              exact (Option.some.inj recorded).symm
            have same : (w.step a).session.workbook = w.session.workbook := congrArg Workbook.mk sheets
            rw [same, kept, saved quiet]
          · exact absurd ⟨quiet, before, quiet', recorded⟩ stays
  · have same : (w.step a).session.IsRecorded ↔ w.session.IsRecorded := by
      rw [IsRecorded, IsRecorded, writes.history, writes.workbook]
    refine iff_of_true (fun _ => ?_) fun reverts => reverts.2.1 (same.mp reverts.2.2.2)
    rw [writes.workbook, writes.saved]

theorem isShown_run {first : Workbook} {w : Observed γ σ} (reliable : Journal.Reliable w.session.archive.archive)
    (shown : w.IsShown first) (actions : List Action) : (w.run actions).IsShown first := by
  have kept (w : Observed γ σ) (a : Action) (known : Journal.Reliable w.session.archive.archive ∧ w.IsShown first) :
      Journal.Reliable (w.step a).session.archive.archive ∧ (w.step a).IsShown first :=
    ⟨reliable_step known.1 a, isShown_step known.1 known.2 a⟩
  exact (Run.keeps kept ⟨reliable, shown⟩ actions).2

theorem isSaved_run_iff {w : Observed γ σ} (reliable : Journal.Reliable w.session.archive.archive)
    (saved : w.IsSaved) (actions : List Action) :
    (∀ before, before <+: actions → (w.run before).IsSaved) ↔
      ∀ before a, before ++ [a] <+: actions → ¬Reverts a (w.run before).session := by
  have kept (w : Observed γ σ) (a : Action) (reliable : Journal.Reliable w.session.archive.archive) :
      Journal.Reliable (w.step a).session.archive.archive := reliable_step reliable a
  have breaks (w : Observed γ σ) (a : Action) (reliable : Journal.Reliable w.session.archive.archive)
      (saved : w.IsSaved) : (w.step a).IsSaved ↔ ¬Reverts a w.session := isSaved_step_iff reliable saved a
  exact Run.forall_prefix_iff kept breaks reliable saved actions

/-- The journal of a run shows the workbook that was written last, and every quiet session of the run has that very
workbook, or the first one while none was written, exactly if no step of the run reverts. -/
theorem quiet_iff_written {s : Session γ (Journal σ)} (opened : Opened s)
    (reliable : Journal.Reliable s.archive.archive) (actions : List Action) :
    (∀ before, before <+: actions → ((ofSession s).run before).IsShown s.workbook) ∧
      ((∀ before, before <+: actions → ((ofSession s).run before).IsSaved) ↔
        ∀ before a, before ++ [a] <+: actions → ¬Reverts a ((ofSession s).run before).session) := by
  have shown : (ofSession s).IsShown s.workbook := by
    rw [IsShown]
    simp only [ofSession, opened.log]
    trivial
  exact ⟨fun before _ => isShown_run reliable shown before, isSaved_run_iff reliable (fun _ => rfl) actions⟩

theorem reliable_memory {a : MemoryArchive} (works : a.fail = false) : Journal.Reliable a := by
  intro saves
  induction saves generalizing a with
  | nil =>
    intro name text
    simp [Journal.saveAll, Archive.save, MemoryArchive.save, works]
  | cons save rest ih =>
    apply ih
    simp [Archive.save, MemoryArchive.save, works]

/-- A session over an empty document, its archive in memory. -/
def sample : Session MemoryClipboard (Journal MemoryArchive) := .start "doc" .default {} {} ⟨{}, []⟩

/-- A column is fitted and saved, dragged wider and saved, and fitted again. -/
def refitting : List Action :=
  [.run (.autofit 0), .saveNow, .resizeHandleDown .col 0, .resizeDrag 150, .mouseUp, .saveNow, .run (.autofit 0)]

theorem quiet_iff_written_refitting :
    Opened sample ∧ Journal.Reliable sample.archive.archive ∧
      (∀ before, before <+: refitting → ((ofSession sample).run before).IsShown sample.workbook) ∧
      ((∀ before, before <+: refitting → ((ofSession sample).run before).IsSaved) ↔
        ∀ before a, before ++ [a] <+: refitting → ¬Reverts a ((ofSession sample).run before).session) :=
  ⟨.start _ _ _ _ _, reliable_memory rfl, quiet_iff_written (.start _ _ _ _ _) (reliable_memory rfl) refitting⟩

/-- The second fit ends in the current snapshot and is never written. -/
theorem refitting_not_written :
    Opened sample ∧ Journal.Reliable sample.archive.archive ∧ ((ofSession sample).run refitting).session.IsQuiet ∧
      ((ofSession sample).run refitting).session.workbook ≠ ((ofSession sample).run refitting).saved :=
  ⟨.start _ _ _ _ _, reliable_memory rfl, by decide +kernel, by decide +kernel⟩

end Observed

end Session

end Spreadsheet
