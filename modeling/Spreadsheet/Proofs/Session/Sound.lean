import Spreadsheet.Proofs.History
import Spreadsheet.Proofs.Payload.Workbook
import Spreadsheet.Proofs.Run
import Spreadsheet.Proofs.Session.Change

/-! Sessions as they come up: there is a sheet, the active sheet is one of the workbook, and all sheets, those of the
snapshots too, are of a kind that edits do not leave. -/
namespace Spreadsheet

/-- A kind of sheets that all regular ones are of, and that neither edits nor another name leave. -/
structure Sheet.Lasting (Q : Sheet → Prop) : Prop where
  stable : Stable (fun _ => True) Q
  rename : ∀ {s}, Q s → ∀ name, Q { s with name }
  regular : ∀ {s}, s.Regular → Q s

theorem Sheet.lasting_any : Lasting fun _ => True where
  stable := by constructor <;> intros <;> trivial
  rename _ _ := trivial
  regular _ := trivial

theorem Sheet.lasting_spacious : Lasting Spacious where
  stable := stable_spacious
  rename spacious _ := spacious
  regular regular := ⟨regular.rows, regular.cols⟩

namespace Session

variable {γ σ : Type} {Q : Sheet → Prop} {s t : Session γ σ}

/-- Sheets of one kind, in the workbook and in the snapshots, and the active one among them. -/
structure Sound (Q : Sheet → Prop) (s : Session γ σ) : Prop where
  sheets : Sheets Q s.workbook.sheets
  history : s.history.Sound (Sheets Q)
  sited : s.Sited

namespace Sound

theorem sheet (sound : Sound Q s) : Q s.sheet :=
  sound.sheets.2 _ (List.mem_of_getElem? sound.sited.sheet?_eq)

theorem congr (sound : Sound Q s) (workbook : t.workbook = s.workbook) (history : t.history = s.history)
    (activeSheet : t.activeSheet = s.activeSheet) : Sound Q t := by
  refine ⟨?_, ?_, ?_⟩
  · rw [workbook]
    exact sound.sheets
  · rw [history]
    exact sound.history
  · rw [Sited, workbook, activeSheet]
    exact sound.sited

theorem modify (sound : Sound Q s) {i : Nat} {f : Sheet → Sheet} (keeps : ∀ sheet, Q sheet → Q (f sheet))
    (workbook : t.workbook = s.workbook.modifySheet i f) (history : t.history = s.history)
    (activeSheet : t.activeSheet = s.activeSheet) : Sound Q t := by
  refine ⟨?_, ?_, ?_⟩
  · rw [workbook]
    exact sound.sheets.modify keeps i
  · rw [history]
    exact sound.history
  · rw [Sited, workbook, activeSheet, Workbook.sheetCount, Workbook.modifySheet, List.length_modify]
    exact sound.sited

theorem commit (sound : Sound Q s) : Sound Q s.commit := by
  unfold Session.commit
  split
  next => exact sound
  next unrecorded =>
    have pushed := (History.advances_push sound.history s.workbook.sheets).sound sound.history sound.sheets unrecorded
    exact ⟨sound.sheets, pushed, sound.sited⟩

theorem restore (sound : Sound Q s) {sheets : List Sheet} (kinds : Sheets Q sheets) : Sound Q (s.restore sheets) := by
  have replaced : s.workbook.replaceSheets sheets = ⟨sheets⟩ := if_neg (by simpa using kinds.1)
  have positive : 0 < sheets.length := List.length_pos_of_ne_nil kinds.1
  refine ⟨?_, sound.history, ?_⟩
  · change Sheets Q (s.workbook.replaceSheets sheets).sheets
    rw [replaced]
    exact kinds
  · change min s.activeSheet ((s.workbook.replaceSheets sheets).sheetCount - 1) <
      (s.workbook.replaceSheets sheets).sheetCount
    rw [replaced]
    change min s.activeSheet (sheets.length - 1) < sheets.length
    omega

variable (lasting : Sheet.Lasting Q)
include lasting

theorem change (sound : Sound Q s) (change : Change s t) : Sound Q t := by
  cases change with
  | look same _ _ => exact sound.congr same.workbook same.history same.activeSheet
  | write i edit _ => exact sound.modify (fun _ kind => lasting.stable.apply kind edit fun _ _ => trivial) rfl rfl rfl
  | commit => exact sound.commit
  | revise edited _ =>
    obtain ⟨edits, rfl⟩ := edited
    have kind : Q (Sheet.applyAll edits s.sheet) := lasting.stable.applyAll sound.sheet fun _ _ => trivial
    exact commit (sound.modify (fun _ _ => kind) rfl rfl rfl)
  | rename i name => exact commit (sound.modify (fun _ kind => lasting.rename kind name) rfl rfl rfl)
  | @restore sheets history moved =>
    obtain ⟨kept, _, kinds⟩ := sound.history.moved moved
    have there : Sound Q { s with history } := ⟨sound.sheets, kept, sound.sited⟩
    exact there.restore kinds

theorem changes (sound : Sound Q s) (changes : Changes s t) : Sound Q t := by
  induction changes with
  | refl => exact sound
  | tail _ change ih => exact ih.change lasting change

theorem finishEdit (sound : Sound Q s) : Sound Q s.finishEdit := sound.changes lasting s.changes_finishEdit

theorem mouseUp (sound : Sound Q s) : Sound Q s.mouseUp := by
  rcases s.mouseUp_cases with ⟨origin, target, _, _, released⟩ | ⟨_, released⟩
  · rw [released]
    have kind := lasting.stable.autofill sound.sheet origin target
    exact commit (sound.modify (fun _ _ => kind) rfl rfl rfl)
  · rw [released]
    exact sound.congr rfl rfl rfl

theorem addSheet (sound : Sound Q s) : Sound Q s.addSheet.2 := by
  have finished := sound.finishEdit lasting
  refine commit ⟨?_, finished.history, ?_⟩
  · exact finished.sheets.concat (lasting.regular (Sheet.regular_ofSize _ _ _))
  · change s.finishEdit.workbook.sheets.length < (s.finishEdit.workbook.sheets ++ [_]).length
    rw [List.length_append]
    exact Nat.lt_succ_self _

theorem deleteSheet (sound : Sound Q s) (index : Nat) : Sound Q (s.deleteSheet index).2 := by
  have finished := sound.finishEdit lasting
  rcases s.deleteSheet_cases index with ⟨_, same⟩ | ⟨more, inside, active, sited, _, deleted⟩
  · rw [same]
    exact finished
  · rw [deleted]
    refine commit ⟨sound.sheets.eraseIdx more, finished.history, ?_⟩
    exact Nat.lt_of_lt_of_eq (sited sound.sited) (List.length_eraseIdx_of_lt inside).symm

theorem switchSheet (sound : Sound Q s) (index : Nat) : Sound Q (s.switchSheet index).2 := by
  have finished := sound.finishEdit lasting
  rcases s.switchSheet_cases index with ⟨inside, switched⟩ | ⟨_, same⟩
  · rw [switched]
    rw [← workbook_finishEdit] at inside
    exact ⟨finished.sheets, finished.history, inside⟩
  · rw [same]
    exact sound

theorem perform [Clipboard γ] [Archive σ] (sound : Sound Q s) (a : Action) : Sound Q (s.perform a).2 := by
  cases plain : isPlain a with
  | true => exact sound.changes lasting (s.changes_perform plain)
  | false =>
    have saved := s.perform_save_eq (a := a)
    cases a with
    | mouseUp => exact sound.mouseUp lasting
    | fillHandleDown | resizeHandleDown => exact (sound.finishEdit lasting).congr rfl rfl rfl
    | addSheet => exact sound.addSheet lasting
    | deleteSheet index => exact sound.deleteSheet lasting index
    | switchSheet index => exact sound.switchSheet lasting index
    | maybeSave | saveNow =>
      obtain ⟨autosave, archive, same⟩ := saved (by simp)
      rw [same]
      exact sound.congr rfl rfl rfl
    | _ => cases plain

end Sound

/-- Sessions as they begin: over a workbook, which is never without sheets and here has those of one kind, or with a
document from an archive. -/
inductive Begins [Archive σ] (Q : Sheet → Prop) : Session γ σ → Prop
  | start {workbook : Workbook} (sheets : Sheets Q workbook.sheets) (docId : String) (settings : Settings)
      (clipboard : γ) (archive : σ) : Begins Q (.start docId workbook settings clipboard archive)
  | openDocument (docId : String) (settings : Settings) (clipboard : γ) (archive : σ) :
      Begins Q (.openDocument docId settings clipboard archive)

theorem regular_openDocument [Archive σ] (docId : String) (settings : Settings) (clipboard : γ) (archive : σ) :
    (openDocument docId settings clipboard archive).workbook.Regular := by
  unfold openDocument start
  dsimp only
  split
  next => exact Workbook.regular_load _
  next => exact Workbook.regular_ofSheets (Sheets.singleton (Sheet.regular_ofSize _ _ _)).2

theorem sound_start {workbook : Workbook} (sheets : Sheets Q workbook.sheets) (docId : String) (settings : Settings)
    (clipboard : γ) (archive : σ) : Sound Q (start docId workbook settings clipboard archive) :=
  ⟨sheets, History.sound_start sheets _, List.length_pos_of_ne_nil sheets.1⟩

/-- A session over an empty document that keeps two snapshots. -/
def fresh : Session MemoryClipboard MemoryArchive := .start "doc" .default { historyLimit := 2 } {} {}

theorem begins_fresh (kind : Q .default) : Begins Q fresh := .start (.singleton kind) _ _ _ _

variable [Archive σ] (lasting : Sheet.Lasting Q)
include lasting

theorem sound_begins (begins : Begins Q s) : Sound Q s := by
  cases begins with
  | start sheets docId settings clipboard archive => exact sound_start sheets docId settings clipboard archive
  | openDocument docId settings clipboard archive =>
    have regular := regular_openDocument docId settings clipboard archive
    exact sound_start ⟨regular.inhabited, fun sheet inside => lasting.regular (regular.sheets sheet inside)⟩ _ _ _ _

theorem sound_performAll [Clipboard γ] (begins : Begins Q s) (actions : List Action) : Sound Q (performAll actions s) :=
  Run.keeps (fun _ a sound => sound.perform lasting a) (sound_begins lasting begins) actions

end Session

end Spreadsheet
