import Spreadsheet.Proofs.Session.Gesture
import Spreadsheet.Proofs.Session.Undo
import Spreadsheet.Proofs.Sheet.Lines
import Spreadsheet.Proofs.Sheet.Writing

/-! Copying, cutting and pasting with a clipboard that may refuse. Each of them closes the open edit before it turns to the
clipboard; where that refuses, closing the edit is all that happened. A cut that is not refused empties the values of the
selection, and the clipboard was given the text that was shown there before. -/
namespace Spreadsheet

namespace Sheet

variable {r : Range} {p : Position}

theorem writes_clearRange (r : Range) (s : Sheet) : Writes id (fun _ c => c.withValue "") r.cells s (s.clearRange r) := by
  apply writes_writeAll
  exact ⟨fun _ _ _ _ _ => rfl, fun _ _ _ => rfl⟩

theorem get?_clearRange (inside : r.contains p = true) (s : Sheet) :
    (s.clearRange r).grid.get? p = ((s.cell p).withValue "").stored :=
  (s.writes_clearRange r).listed p (Range.mem_cells_iff.2 inside)

theorem get?_clearRange_of_outside (outside : r.contains p = false) (s : Sheet) :
    (s.clearRange r).grid.get? p = s.grid.get? p :=
  (s.writes_clearRange r).others p fun _ => Range.ne_of_mem_cells outside

end Sheet

namespace Session

variable {γ σ : Type} {s t : Session γ σ}

@[simp] theorem selection_finishEdit (s : Session γ σ) : s.finishEdit.selection = s.selection := by
  unfold finishEdit
  split
  · rw [selection_commit]
  · rfl

@[simp] theorem clipboard_commit (s : Session γ σ) : s.commit.clipboard = s.clipboard := by
  unfold commit
  split <;> rfl

@[simp] theorem clipboard_finishEdit (s : Session γ σ) : s.finishEdit.clipboard = s.clipboard := by
  unfold finishEdit
  split
  · rw [clipboard_commit]
  · rfl

@[simp] theorem sheet_finishEdit (s : Session γ σ) : s.finishEdit.sheet = s.sheet := by
  rw [sheet, sheet, workbook_finishEdit, activeSheet_finishEdit]

section Command

variable (s : Session γ σ) (c : Command)

theorem workbook_run : (s.run c).workbook = s.workbook.modifySheet s.activeSheet (c.edit s.selection) := by
  change (s.finishEdit.modifySheet (c.edit s.finishEdit.selection)).clampSelection.commit.workbook = _
  rw [workbook_commit, selection_finishEdit]
  change s.finishEdit.workbook.modifySheet s.finishEdit.activeSheet (c.edit s.selection) = _
  rw [workbook_finishEdit, activeSheet_finishEdit]

theorem activeSheet_run : (s.run c).activeSheet = s.activeSheet :=
  (activeSheet_commit _).trans s.activeSheet_finishEdit

theorem gesture_run : (s.run c).gesture = s.gesture := (gesture_commit _).trans s.gesture_finishEdit

theorem clipboard_run : (s.run c).clipboard = s.clipboard := (clipboard_commit _).trans s.clipboard_finishEdit

theorem selection_run : (s.run c).selection =
    (c.reselect s.selection).clampTo (s.run c).sheet.rows.count (s.run c).sheet.cols.count := by
  change (c.reselect s.finishEdit.selection).clampTo (s.run c).sheet.rows.count (s.run c).sheet.cols.count = _
  rw [selection_finishEdit]

end Command

/-- The text that copying offers to the clipboard: the selection as it is shown. -/
def selectedText (s : Session γ σ) : String := s.sheet.copyText s.selection.range

theorem selectedText_finishEdit (s : Session γ σ) : s.finishEdit.selectedText = s.selectedText := by
  rw [selectedText, sheet_finishEdit, selection_finishEdit, selectedText]

/-- In the active sheet the cells of a range have become empty, with their formatting left as it was, and nothing else in
the document has changed. -/
structure Empties (r : Range) (s t : Session γ σ) : Prop where
  activeSheet : t.activeSheet = s.activeSheet
  sheetCount : t.workbook.sheetCount = s.workbook.sheetCount
  others : ∀ i, i ≠ s.activeSheet → t.workbook.sheet? i = s.workbook.sheet? i
  layout : t.sheet = { s.sheet with grid := t.sheet.grid }
  inside : ∀ p, r.contains p = true → t.sheet.grid.get? p = ((s.sheet.cell p).withValue "").stored
  outside : ∀ p, r.contains p = false → t.sheet.grid.get? p = s.sheet.grid.get? p

theorem empties_clearRange (sited : s.Sited) (r : Range) (activeSheet : t.activeSheet = s.activeSheet)
    (workbook : t.workbook = s.workbook.modifySheet s.activeSheet (·.clearRange r)) : Empties r s t := by
  have sheet : t.sheet = s.sheet.clearRange r := by
    rw [← sheet_modifySheet sited (·.clearRange r), sheet, activeSheet, workbook]
    rfl
  refine ⟨activeSheet, ?_, fun i other => ?_, ?_, fun p inside => ?_, fun p outside => ?_⟩
  · rw [workbook]
    exact List.length_modify _ _ _
  · rw [workbook]
    exact Workbook.sheet?_modifySheet_ne (Ne.symm other) _ _
  · rw [sheet]
    exact (s.sheet.writes_clearRange r).rest
  · rw [sheet, Sheet.get?_clearRange inside]
  · rw [sheet, Sheet.get?_clearRange_of_outside outside]

section Clipboard

variable [Clipboard γ]

theorem copy_eq (s : Session γ σ) : s.copy = ((Clipboard.write s.selectedText s.clipboard).1.isOk,
    { s.finishEdit with clipboard := (Clipboard.write s.selectedText s.clipboard).2 }) := by
  rw [← selectedText_finishEdit, ← clipboard_finishEdit]
  rfl

theorem cut_of_refused (refused : s.copy.1 = false) : s.cut = s.copy.2 := by
  change (if s.copy.1 then s.copy.2.run .clear else s.copy.2) = _
  rw [refused]
  rfl

theorem cut_of_copied (copied : s.copy.1 = true) : s.cut = s.copy.2.run .clear := by
  change (if s.copy.1 then s.copy.2.run .clear else s.copy.2) = _
  rw [copied]
  rfl

theorem paste_of_refused (refused : (Clipboard.read s.clipboard).1.isOk = false) :
    s.paste = { s.finishEdit with clipboard := (Clipboard.read s.clipboard).2 } := by
  rw [paste, clipboard_finishEdit]
  dsimp only
  split
  next => rfl
  next read =>
    rw [read] at refused
    cases refused

end Clipboard

/-- What comes of the session when the clipboard takes what is cut. -/
theorem cut_of_taken [Clipboard γ] (sited : s.Sited) (taken : s.copy.1 = true) :
    Empties s.selection.range s s.cut ∧ s.cut.clipboard = s.copy.2.clipboard ∧ s.cut.gesture = s.gesture ∧
      s.cut.selection = s.selection.clampTo s.sheet.rows.count s.sheet.cols.count := by
  have copied := congrArg Prod.snd s.copy_eq
  have empties : Empties s.selection.range s s.cut := by
    apply empties_clearRange sited
    · rw [cut_of_copied taken, activeSheet_run, copied, activeSheet_finishEdit]
    · rw [cut_of_copied taken, workbook_run, copied, workbook_finishEdit, activeSheet_finishEdit, selection_finishEdit]
      rfl
  have rows : s.cut.sheet.rows = s.sheet.rows := by rw [empties.layout]
  have cols : s.cut.sheet.cols = s.sheet.cols := by rw [empties.layout]
  refine ⟨empties, ?_, ?_, ?_⟩
  · rw [cut_of_copied taken, clipboard_run]
  · rw [cut_of_copied taken, gesture_run, copied, gesture_finishEdit]
  · rw [← rows, ← cols, cut_of_copied taken, selection_run, copied, selection_finishEdit]
    rfl

section Run

variable [Clipboard γ] [Archive σ] {first : Session γ σ}

/-- After any run and with any clipboard: where the clipboard refuses, copying, cutting and pasting do no more than close the
open edit. Where it takes the text, the selection as it was shown before, a cut empties the values of the selection and
changes nothing else in the document. -/
theorem clipboard_answers (begins : Begins (fun _ => True) first) (actions : List Action) :
    let s := performAll actions first
    let written := Clipboard.write (s.sheet.copyText s.selection.range) s.clipboard
    let read := Clipboard.read s.clipboard
    (∀ e, written.1 = .error e → s.copy = (false, { s.finishEdit with clipboard := written.2 }) ∧
        s.cut = { s.finishEdit with clipboard := written.2 }) ∧
      (∀ e, read.1 = .error e → s.paste = { s.finishEdit with clipboard := read.2 }) ∧
      (written.1 = .ok () → s.cut.clipboard = written.2 ∧ Empties s.selection.range s s.cut ∧
        s.cut.gesture = s.gesture ∧ s.cut.selection = s.selection.clampTo s.sheet.rows.count s.sheet.cols.count) := by
  intro s written read
  have copied : s.copy = (written.1.isOk, { s.finishEdit with clipboard := written.2 }) := s.copy_eq
  refine ⟨fun e refused => ?_, fun e refused => ?_, fun taken => ?_⟩
  · rw [refused] at copied
    refine ⟨copied, (cut_of_refused ?_).trans ?_⟩
    · rw [copied]
      rfl
    · rw [copied]
  · apply paste_of_refused
    change read.1.isOk = false
    rw [refused]
    rfl
  · rw [taken] at copied
    have sound : Sound (fun _ => True) s := sound_performAll Sheet.lasting_any begins actions
    obtain ⟨empties, clipboard, gesture, selection⟩ := cut_of_taken sound.sited (congrArg Prod.fst copied)
    rw [copied] at clipboard
    exact ⟨clipboard, empties, gesture, selection⟩

/-- A session over an empty document, with a clipboard that refuses everything. -/
def refusing : Session MemoryClipboard MemoryArchive := .start "doc" .default {} { deny := true } {}

/-- Two cells are filled and selected, and the upper one is being typed over. -/
def overtyped : List Action :=
  [.typeChar 'a', .confirmAndMove 1 0, .typeChar 'b', .selectCell ⟨0, 0⟩, .extendSelection 1 0, .typeChar 'c']

theorem clipboard_answers_overtyped :
    Begins (fun _ => True) refusing ∧ (performAll overtyped refusing).cut = (performAll overtyped refusing).finishEdit ∧
      Begins (fun _ => True) fresh ∧ (performAll overtyped fresh).cut.clipboard.text = "c\nb" ∧
      Empties ⟨0, 0, 1, 0⟩ (performAll overtyped fresh) (performAll overtyped fresh).cut := by
  have begins : Begins (fun _ => True) refusing := .start (.singleton trivial) _ _ _ _
  have refused := (clipboard_answers begins overtyped).1 .denied rfl
  have taken := (clipboard_answers (begins_fresh trivial) overtyped).2.2 rfl
  have shown : (performAll overtyped fresh).sheet.copyText (performAll overtyped fresh).selection.range = "c\nb" := by
    decide +kernel
  have range : (performAll overtyped fresh).selection.range = ⟨0, 0, 1, 0⟩ := by decide +kernel
  refine ⟨begins, refused.2, begins_fresh trivial, ?_, range ▸ taken.2.1⟩
  rw [taken.1, ← shown]
  rfl

end Run

end Session

end Spreadsheet
