import Mathlib.Logic.Relation
import Spreadsheet.Proofs.Sheet.Bounds
import Spreadsheet.Proofs.Sheet.Regular
import Spreadsheet.Session.Action

/-! What actions on a session are made of. Most go through a few kinds of change one after another, and what each kind
of change keeps is kept by all those actions. The others arm or release a gesture, go to another sheet or save, and are
looked at one by one. -/
namespace Spreadsheet

/-- Does the gesture change cells or sizes, while it goes on or when it is released? -/
def Gesture.Acts : Gesture → Prop
  | .filling _ _ => True
  | .resizing _ _ => True
  | _ => False

/-- Edits lead from the first sheet to the second. -/
def Sheet.Becomes (s t : Sheet) : Prop := ∃ edits, applyAll edits s = t

theorem Sheet.Becomes.apply (s : Sheet) (e : Edit) : s.Becomes (e.apply s) := ⟨[e], rfl⟩

theorem Workbook.modifySheet_eq (i : Nat) (f : Sheet → Sheet) (w : Workbook) :
    w.modifySheet i f = w.modifySheet i fun _ => f ((w.sheet? i).getD .default) := by
  rw [modifySheet, modifySheet]
  congr 1
  apply List.ext_getElem?
  intro j
  rw [List.getElem?_modify, List.getElem?_modify]
  by_cases same : i = j
  · subst same
    cases found : w.sheets[i]? <;> simp [sheet?, found]
  · simp [same]

namespace Session

variable {γ σ : Type} {s t : Session γ σ}

/-- The active sheet is one of the workbook. -/
def Sited (s : Session γ σ) : Prop := s.activeSheet < s.workbook.sheetCount

/-- The selection lies inside the active sheet. -/
def Inside (s : Session γ σ) : Prop := s.selection.Within s.sheet

instance (s : Session γ σ) : Decidable s.Inside := inferInstanceAs (Decidable (s.selection.Within s.sheet))

/-- The document, its history and what saving it goes by are the same. -/
structure SameDocument (s t : Session γ σ) : Prop where
  workbook : t.workbook = s.workbook
  activeSheet : t.activeSheet = s.activeSheet
  history : t.history = s.history
  autosave : t.autosave = s.autosave
  archive : t.archive = s.archive
  docId : t.docId = s.docId

/-- The kinds of change: looking elsewhere, writing without a snapshot, recording, revising the active sheet, renaming
a sheet, and going to another snapshot. -/
inductive Change (s : Session γ σ) : Session γ σ → Prop
  | look {t : Session γ σ} (same : SameDocument s t) (inside : s.Inside → t.Inside)
      (gesture : t.gesture.Acts → s.gesture.Acts) : Change s t
  | write (i : Nat) (edit : Sheet.Edit) (bounds : edit.KeepsBounds) :
      Change s (touch { s with workbook := s.workbook.modifySheet i edit.apply })
  | commit : Change s s.commit
  | revise {sheet : Sheet} {selection : Selection} (edited : s.sheet.Becomes sheet)
      (within : s.Sited → sheet.Spacious → selection.Within sheet) :
      Change s (commit { s with workbook := s.workbook.modifySheet s.activeSheet fun _ => sheet, selection })
  | rename (i : Nat) (name : String) :
      Change s (commit { s with workbook := s.workbook.modifySheet i fun sheet => { sheet with name } })
  | restore {sheets : List Sheet} {history : History (List Sheet)}
      (moved : s.history.undo = (some sheets, history) ∨ s.history.redo = (some sheets, history)) :
      Change s (restore sheets { s with history })

abbrev Changes : Session γ σ → Session γ σ → Prop := Relation.ReflTransGen Change

theorem Inside.spacious (inside : s.Inside) : s.sheet.Spacious := Sheet.spacious_of_inBounds inside.1

theorem Sited.sheet?_eq (sited : s.Sited) : s.workbook.sheet? s.activeSheet = some s.sheet := by
  have found : s.workbook.sheet? s.activeSheet = some (s.workbook.sheets.get ⟨s.activeSheet, sited⟩) :=
    List.getElem?_eq_getElem sited
  rw [sheet, found]
  rfl

theorem sheet_modifySheet (sited : s.Sited) (f : Sheet → Sheet) : (s.modifySheet f).sheet = f s.sheet := by
  have inside : s.activeSheet < s.workbook.sheets.length := sited
  simp [sheet, modifySheet, Workbook.modifySheet, Workbook.sheet?, inside]

@[simp] theorem workbook_commit (s : Session γ σ) : s.commit.workbook = s.workbook := by
  unfold commit
  split <;> rfl

@[simp] theorem activeSheet_commit (s : Session γ σ) : s.commit.activeSheet = s.activeSheet := by
  unfold commit
  split <;> rfl

@[simp] theorem selection_commit (s : Session γ σ) : s.commit.selection = s.selection := by
  unfold commit
  split <;> rfl

@[simp] theorem gesture_commit (s : Session γ σ) : s.commit.gesture = s.gesture := by
  unfold commit
  split <;> rfl

@[simp] theorem edit_commit (s : Session γ σ) : s.commit.edit = s.edit := by
  unfold commit
  split <;> rfl

@[simp] theorem sheet_commit (s : Session γ σ) : s.commit.sheet = s.sheet := by
  rw [sheet, sheet, workbook_commit, activeSheet_commit]

@[simp] theorem workbook_finishEdit (s : Session γ σ) : s.finishEdit.workbook = s.workbook := by
  unfold finishEdit
  split
  · rw [workbook_commit]
  · rfl

@[simp] theorem activeSheet_finishEdit (s : Session γ σ) : s.finishEdit.activeSheet = s.activeSheet := by
  unfold finishEdit
  split
  · rw [activeSheet_commit]
  · rfl

@[simp] theorem gesture_finishEdit (s : Session γ σ) : s.finishEdit.gesture = s.gesture := by
  unfold finishEdit
  split
  · rw [gesture_commit]
  · rfl

/-- The session with its edit closed and its sheets recorded, from where undo and redo go. -/
def settled (s : Session γ σ) : Session γ σ := s.finishEdit.commit

section Travel

variable {step : History (List Sheet) → Option (List Sheet) × History (List Sheet)} {h : History (List Sheet)}

theorem travel_of_some {sheets : List Sheet} (found : step s.settled.history = (some sheets, h)) :
    s.travel step = (true, restore sheets { s.settled with history := h }) := by
  have found : step s.finishEdit.commit.history = (some sheets, h) := found
  simp only [travel, found]
  rfl

theorem travel_of_none (stuck : step s.settled.history = (none, h)) : s.travel step = (false, s.settled) := by
  have stuck : step s.finishEdit.commit.history = (none, h) := stuck
  simp only [travel, stuck]
  rfl

/-- Undo and redo stay where the history has nowhere to go, and are at the sheets it gives where it has. -/
theorem travel_cases (step : History (List Sheet) → Option (List Sheet) × History (List Sheet)) (s : Session γ σ) :
    s.travel step = (false, s.settled) ∨ ∃ sheets h, step s.settled.history = (some sheets, h) ∧
      s.travel step = (true, restore sheets { s.settled with history := h }) := by
  cases moved : step s.settled.history with
  | mk found h =>
    cases found with
    | none => exact .inl (travel_of_none moved)
    | some sheets => exact .inr ⟨sheets, h, rfl, travel_of_some moved⟩

end Travel

theorem change_selection {selection : Selection} (inside : s.Inside → selection.Within s.sheet) :
    Change s { s with selection } :=
  .look ⟨rfl, rfl, rfl, rfl, rfl, rfl⟩ inside id

theorem change_edit (edit : Option OpenEdit) : Change s { s with edit } :=
  .look ⟨rfl, rfl, rfl, rfl, rfl, rfl⟩ id id

theorem changes_finishEdit (s : Session γ σ) : Changes s s.finishEdit := by
  unfold finishEdit
  split
  · exact (Relation.ReflTransGen.single (change_edit none)).tail .commit
  · exact .refl

theorem changes_travel {step : History (List Sheet) → Option (List Sheet) × History (List Sheet)}
    (known : step = History.undo ∨ step = History.redo) (s : Session γ σ) : Changes s (s.travel step).2 := by
  have recorded : Changes s s.settled := s.changes_finishEdit.tail .commit
  rcases s.travel_cases step with stays | ⟨_, _, moved, goes⟩
  · rw [stays]
    exact recorded
  · rw [goes]
    rcases known with rfl | rfl
    · exact recorded.tail (.restore (.inl moved))
    · exact recorded.tail (.restore (.inr moved))

theorem changes_writeBuffer (s : Session γ σ) : Changes s s.writeBuffer := by
  unfold writeBuffer
  split
  next => exact .refl
  next e _ => exact .single (.write e.sheet (.setValue e.position e.buffer) fun _ => ⟨rfl, rfl⟩)

theorem changes_startEdit (s : Session γ σ) (seed : Option String) : Changes s (s.startEdit seed) := by
  unfold startEdit
  split
  next => exact .refl
  next =>
    dsimp only
    split
    · exact .single (change_edit _)
    · exact (Relation.ReflTransGen.single (change_edit _)).trans (changes_writeBuffer _)

theorem changes_setBuffer (s : Session γ σ) (f : String → String) : Changes s (s.setBuffer f) :=
  .single (change_edit _)

theorem changes_setEditText (s : Session γ σ) (text : String) : Changes s (s.setEditText text) :=
  (s.changes_startEdit none).trans ((changes_setBuffer _ _).trans (changes_writeBuffer _))

theorem changes_typeChar (s : Session γ σ) (c : Char) : Changes s (s.typeChar c) :=
  (s.changes_startEdit _).trans ((changes_setBuffer _ _).trans (changes_writeBuffer _))

theorem changes_backspace (s : Session γ σ) : Changes s s.backspace :=
  (s.changes_setBuffer _).trans (changes_writeBuffer _)

theorem changes_cancelEdit (s : Session γ σ) : Changes s s.cancelEdit := by
  unfold cancelEdit
  split
  next => exact .refl
  next e _ =>
    exact (Relation.ReflTransGen.single (change_edit none)).tail
      (.write e.sheet (.setValue e.position e.previous) fun _ => ⟨rfl, rfl⟩)

theorem change_select (s : Session γ σ) {p : Position} (inside : s.Inside → s.sheet.inBounds p = true) :
    Change s (s.select p) :=
  change_selection fun within => ⟨inside within, inside within⟩

theorem change_extendTo (s : Session γ σ) {p : Position} (inside : s.Inside → s.sheet.inBounds p = true) :
    Change s (s.extendTo p) :=
  change_selection fun within => ⟨within.1, inside within⟩

theorem change_moveSelection (s : Session γ σ) (dr dc : Int) : Change s (s.moveSelection dr dc) :=
  s.change_select fun inside => Sheet.inBounds_stepVisible inside.1 dr dc

theorem change_extendSelection (s : Session γ σ) (dr dc : Int) : Change s (s.extendSelection dr dc) :=
  s.change_extendTo fun inside => Sheet.inBounds_stepVisible inside.2 dr dc

theorem changes_confirmAndMove (s : Session γ σ) (dr dc : Int) : Changes s (s.confirmAndMove dr dc) :=
  s.changes_finishEdit.tail (change_moveSelection _ dr dc)

theorem changes_selectCell (s : Session γ σ) (p : Position) : Changes s (s.selectCell p) :=
  s.changes_finishEdit.tail (change_select _ fun inside => inside.spacious.inBounds_clampPosition p)

theorem change_selectAll (s : Session γ σ) : Change s s.selectAll :=
  change_selection fun inside => by
    have ⟨rows, cols⟩ := inside.spacious
    refine ⟨Sheet.inBounds_iff.2 ⟨rows, cols⟩, Sheet.inBounds_iff.2 ⟨?_, ?_⟩⟩
    · exact Nat.sub_one_lt_of_lt rows
    · exact Nat.sub_one_lt_of_lt cols

theorem changes_mouseDown (s : Session γ σ) (p : Position) (shift : Bool) : Changes s (s.mouseDown p shift) := by
  apply s.changes_finishEdit.tail
  have clamped (inside : s.finishEdit.Inside) := inside.spacious.inBounds_clampPosition p
  cases shift with
  | false => exact .look ⟨rfl, rfl, rfl, rfl, rfl, rfl⟩ (fun inside => ⟨clamped inside, clamped inside⟩) False.elim
  | true => exact .look ⟨rfl, rfl, rfl, rfl, rfl, rfl⟩ (fun inside => ⟨inside.1, clamped inside⟩) False.elim

theorem changes_mouseEnter (s : Session γ σ) (p : Position) : Changes s (s.mouseEnter p) := by
  unfold mouseEnter
  dsimp only
  split
  next filling => exact .single (.look ⟨rfl, rfl, rfl, rfl, rfl, rfl⟩ id fun _ => by rw [filling]; trivial)
  next => exact .single (change_extendTo _ fun inside => inside.spacious.inBounds_clampPosition p)
  next => exact .refl

theorem changes_resizeDrag (s : Session γ σ) (size : Nat) : Changes s (s.resizeDrag size) := by
  unfold resizeDrag
  split
  next axis index _ =>
    refine .single (.write s.activeSheet (.setSize axis index size) fun _ => ?_)
    cases axis <;> exact ⟨rfl, rfl⟩
  next => exact .refl

theorem change_revise {selection : Selection} {f : Sheet → Sheet} (edited : s.sheet.Becomes (f s.sheet))
    (within : s.Sited → (f s.sheet).Spacious → selection.Within (f s.sheet)) :
    Change s (commit { s with workbook := s.workbook.modifySheet s.activeSheet f, selection }) := by
  rw [Workbook.modifySheet_eq]
  exact .revise edited within

theorem becomes_edit (c : Command) (selection : Selection) (s : Sheet) : s.Becomes (c.edit selection s) := by
  cases c with
  | clear => exact .apply s (.clearRange _)
  | insertBefore axis => exact .apply s (.insertLine axis _)
  | insertAfter axis => exact .apply s (.insertLine axis _)
  | delete axis => exact .apply s (.deleteLine axis _)
  | hide axis => exact .apply s (.hide axis _ _)
  | unhide axis => exact .apply s (.unhide axis _ _)
  | merge => exact .apply s (.merge _)
  | unmerge => exact .apply s (.unmerge _)
  | freeze axis count => exact .apply s (.freeze axis count)
  | freezeHere => exact ⟨[.freeze .row _, .freeze .col _], rfl⟩
  | toggleStyle style => exact .apply s (.toggleStyle _ style)
  | setFormat format => exact .apply s (.setFormat _ format)
  | setAlignment align => exact .apply s (.setAlignment _ align)
  | setBackground color => exact .apply s (.setBackground _ color)
  | setTextColor color => exact .apply s (.setTextColor _ color)
  | setFontSize size => exact .apply s (.setFontSize _ size)
  | setBorders borders => exact .apply s (.setBorders _ borders)
  | clearFormatting => exact .apply s (.clearFormatting _)
  | autofit col => exact .apply s (.setSize .col col _)
  | sort col direction => exact .apply s (.sort col direction)
  | setFilter col allowed => exact .apply s (.setFilter col allowed)
  | clearFilter col => exact .apply s (.clearFilter col)
  | clearAllFilters => exact .apply s .clearAllFilters
  | toggleFilter => exact .apply s (.setFilterEnabled _)

theorem changes_run (s : Session γ σ) (c : Command) : Changes s (s.run c) := by
  apply s.changes_finishEdit.trans
  unfold run
  generalize s.finishEdit = s
  have revised : Change s (s.modifySheet (c.edit s.selection)).clampSelection.commit := by
    refine change_revise (becomes_edit c s.selection s.sheet) ?_
    intro sited spacious
    have sheet := sheet_modifySheet sited (c.edit s.selection)
    rw [sheet]
    exact spacious.within_clampTo s.selection
  exact (Relation.ReflTransGen.single revised).tail (change_selection fun inside => inside.spacious.within_clampTo _)

section Clipboard

variable [Clipboard γ]

theorem changes_copy (s : Session γ σ) : Changes s s.copy.2 :=
  s.changes_finishEdit.tail (.look ⟨rfl, rfl, rfl, rfl, rfl, rfl⟩ id id)

theorem changes_cut (s : Session γ σ) : Changes s s.cut := by
  apply s.changes_copy.trans
  unfold cut
  dsimp only
  split
  · exact changes_run _ _
  · exact .refl

theorem changes_paste (s : Session γ σ) : Changes s s.paste := by
  apply s.changes_finishEdit.trans
  unfold paste
  generalize s.finishEdit = s
  have read (clipboard : γ) : Changes s { s with clipboard } := .single (.look ⟨rfl, rfl, rfl, rfl, rfl, rfl⟩ id id)
  dsimp only
  split
  · exact read _
  · split
    next written sheet pasted =>
      apply (read _).tail
      have edited : s.sheet.Becomes sheet := by
        have applied := Sheet.Becomes.apply s.sheet (.pasteText s.selection.active ‹String› s.settings.pastePolicy)
        rwa [Sheet.Edit.apply, show s.sheet.pasteText _ _ _ = _ from pasted] at applied
      exact .revise edited fun _ _ => Sheet.within_pasteRows pasted
    next => exact read _

end Clipboard

theorem changes_renameSheet (s : Session γ σ) (index : Nat) (name : String) :
    Changes s (s.renameSheet index name).2 := by
  apply s.changes_finishEdit.trans
  unfold renameSheet
  generalize s.finishEdit = s
  dsimp only
  rcases s.workbook.renameSheet_cases index name with renamed | ⟨outcome, accepted, renamed⟩
  · rw [renamed]
  · rw [renamed]
    cases outcome with
    | rejected => exact absurd rfl accepted
    | renamed | duplicate => exact .single (.rename index _)

theorem changes_importCsv (s : Session γ σ) (content : String) : Changes s (s.importCsv content) := by
  apply s.changes_finishEdit.trans
  unfold importCsv
  generalize s.finishEdit = s
  dsimp only
  split
  next covered sheet imported =>
    have edited : s.sheet.Becomes sheet := by
      have applied := Sheet.Becomes.apply s.sheet (.importCsv content)
      rwa [Sheet.Edit.apply, imported] at applied
    exact .single (.revise edited fun _ spacious => Sheet.within_importCsv spacious imported)
  next => exact .refl

theorem changes_editKey (s : Session γ σ) (k : Key) (shift : Bool) : Changes s (s.editKey k shift).2 := by
  cases k with
  | enter | tab => exact s.changes_confirmAndMove _ _
  | escape => exact s.changes_cancelEdit
  | backspace => exact s.changes_backspace
  | char c =>
    unfold editKey
    dsimp only
    split
    · exact .refl
    · exact s.changes_typeChar c
  | delete | up | down | left | right | f2 => exact .refl

theorem changes_arrow (s : Session γ σ) (dr dc : Int) (shift : Bool) : Changes s (s.arrow dr dc shift).2 := by
  cases shift with
  | false => exact .single (s.change_moveSelection dr dc)
  | true => exact .single (s.change_extendSelection dr dc)

theorem changes_gridKey (s : Session γ σ) (k : Key) (shift : Bool) : Changes s (s.gridKey k shift).2 := by
  cases k with
  | up | down | left | right => exact s.changes_arrow _ _ shift
  | enter | tab => exact .single (s.change_moveSelection _ _)
  | escape => exact .single (s.change_select fun inside => inside.1)
  | delete | backspace => exact s.changes_run .clear
  | f2 => exact s.changes_startEdit none
  | char c =>
    unfold gridKey
    dsimp only
    split
    · exact .refl
    · exact s.changes_startEdit _

theorem changes_shortcut [Clipboard γ] (s : Session γ σ) (c : Char) (shift : Bool) :
    Changes s (s.shortcut c shift).2 := by
  unfold shortcut
  split
  · exact .refl
  · split
    next =>
      cases shift with
      | false => exact s.changes_travel (.inl rfl)
      | true => exact s.changes_travel (.inr rfl)
    next => exact s.changes_travel (.inr rfl)
    next => exact s.changes_copy
    next => exact s.changes_cut
    next => exact s.changes_paste
    next => exact .single s.change_selectAll
    all_goals first | exact s.changes_run _ | exact .refl

theorem changes_press [Clipboard γ] (s : Session γ σ) (k : Key) (m : Modifiers) : Changes s (s.press k m).2 := by
  unfold press
  split
  · split
    · exact s.changes_shortcut _ _
    · exact .refl
  · split
    · exact s.changes_editKey k _
    · exact s.changes_gridKey k _

/-- The release of the pointer fills from one cell to another, or does nothing. -/
theorem mouseUp_cases (s : Session γ σ) :
    (∃ origin target, s.gesture = .filling origin target ∧ origin ≠ target ∧
      s.mouseUp = commit
        { s with
          workbook := s.workbook.modifySheet s.activeSheet fun _ => (s.sheet.autofill origin target).2
          gesture := .idle
          selection := ⟨origin, target⟩ }) ∨
      ((∀ origin target, s.gesture = .filling origin target → origin = target) ∧
        s.mouseUp = { s with gesture := .idle }) := by
  unfold mouseUp
  dsimp only
  split
  next origin target filling =>
    split
    next filled => exact .inl ⟨origin, target, filling, (Sheet.autofill_fst origin target s.sheet).1 filled, rfl⟩
    next unfilled =>
      refine .inr ⟨?_, rfl⟩
      intro origin' target' filling'
      obtain ⟨rfl, rfl⟩ := Gesture.filling.inj (filling.symm.trans filling')
      rwa [Sheet.autofill_fst, Decidable.not_not] at unfilled
  next other => exact .inr ⟨fun origin target filling => absurd filling (other origin target), rfl⟩

theorem deleteSheet_cases (s : Session γ σ) (i : Nat) :
    ((s.workbook.sheetCount ≤ 1 ∨ s.workbook.sheetCount ≤ i) ∧ s.deleteSheet i = (false, s.finishEdit)) ∨
      (1 < s.workbook.sheetCount ∧ i < s.workbook.sheetCount ∧ ∃ active,
        (s.activeSheet < s.workbook.sheetCount → active < s.workbook.sheetCount - 1) ∧
          (i ≠ s.activeSheet → deleteIndex i s.activeSheet = some active) ∧
          s.deleteSheet i = (true, commit (clampSelection
            { s.finishEdit with workbook := ⟨s.workbook.sheets.eraseIdx i⟩, activeSheet := active }))) := by
  unfold deleteSheet
  dsimp only
  rcases s.finishEdit.workbook.deleteSheet_cases i with ⟨kept, same⟩ | ⟨more, inside, deleted⟩
  · rw [same]
    rw [workbook_finishEdit] at kept
    exact .inl ⟨kept, rfl⟩
  · rw [deleted]
    rw [workbook_finishEdit] at more inside
    have count : (s.workbook.sheets.eraseIdx i).length = s.workbook.sheetCount - 1 := List.length_eraseIdx_of_lt inside
    refine .inr ⟨more, inside, _, ?_, ?_, by rw [workbook_finishEdit]⟩
    all_goals
      simp only [workbook_finishEdit, activeSheet_finishEdit, Bool.or_eq_true, decide_eq_true_eq,
        Workbook.sheetCount] at *
      rw [count]
    · intro sited
      split <;> omega
    · intro other
      rw [deleteIndex]
      rcases Nat.lt_or_gt_of_ne other with behind | before
      · rw [if_neg (by omega), if_neg (by omega), if_pos (.inl behind)]
      · rw [if_pos before, if_neg (by omega)]

theorem switchSheet_cases (s : Session γ σ) (i : Nat) :
    (i < s.workbook.sheetCount ∧
      s.switchSheet i = (true, { s.finishEdit with activeSheet := i, selection := {} })) ∨
      (s.workbook.sheetCount ≤ i ∧ s.switchSheet i = (false, s)) := by
  unfold switchSheet
  split
  next inside => exact .inl ⟨inside, rfl⟩
  next outside => exact .inr ⟨Nat.le_of_not_lt outside, rfl⟩

theorem perform_save_eq [Clipboard γ] [Archive σ] (s : Session γ σ) {a : Action}
    (saves : a = .maybeSave ∨ a = .saveNow) : ∃ autosave archive, (s.perform a).2 = { s with autosave, archive } := by
  rcases saves with rfl | rfl
  · change ∃ autosave archive, s.maybeSave.2 = _
    unfold maybeSave
    dsimp only
    split <;> exact ⟨_, _, rfl⟩
  · change ∃ autosave archive, s.saveNow = _
    unfold saveNow
    split <;> exact ⟨_, _, rfl⟩

/-- The actions that are made of the kinds of change. -/
def isPlain : Action → Bool
  | .mouseUp | .fillHandleDown | .resizeHandleDown _ _ => false
  | .addSheet | .deleteSheet _ | .switchSheet _ => false
  | .maybeSave | .saveNow => false
  | _ => true

/-- The two sides are equal by definition, too, but that takes long to see. -/
theorem perform_renameSheet_snd [Clipboard γ] [Archive σ] (s : Session γ σ) (index : Nat) (name : String) :
    (s.perform (.renameSheet index name)).2 = (s.renameSheet index name).2 := by
  rw [perform, answering]

theorem changes_perform [Clipboard γ] [Archive σ] (s : Session γ σ) {a : Action} (plain : isPlain a = true) :
    Changes s (s.perform a).2 := by
  cases a with
  | press k m => exact s.changes_press k m
  | startEdit seed => exact s.changes_startEdit seed
  | setEditText text => exact s.changes_setEditText text
  | typeChar c => exact s.changes_typeChar c
  | backspace => exact s.changes_backspace
  | confirmEdit => exact s.changes_finishEdit
  | confirmAndMove dr dc => exact s.changes_confirmAndMove dr dc
  | cancelEdit => exact s.changes_cancelEdit
  | selectCell p => exact s.changes_selectCell p
  | selectAll => exact .single s.change_selectAll
  | moveSelection dr dc => exact .single (s.change_moveSelection dr dc)
  | extendSelection dr dc => exact .single (s.change_extendSelection dr dc)
  | mouseDown p shift => exact s.changes_mouseDown p shift
  | mouseEnter p => exact s.changes_mouseEnter p
  | resizeDrag size => exact s.changes_resizeDrag size
  | run c => exact s.changes_run c
  | copy => exact s.changes_copy
  | cut => exact s.changes_cut
  | paste => exact s.changes_paste
  | renameSheet index name =>
    rw [perform_renameSheet_snd]
    exact s.changes_renameSheet index name
  | importCsv content => exact s.changes_importCsv content
  | importCsvFile content => exact s.changes_importCsv _
  | undo => exact s.changes_travel (.inl rfl)
  | redo => exact s.changes_travel (.inr rfl)
  | setTitle | advance => exact .single (.look ⟨rfl, rfl, rfl, rfl, rfl, rfl⟩ id id)
  | mouseUp | fillHandleDown | resizeHandleDown => cases plain
  | addSheet | deleteSheet | switchSheet | maybeSave | saveNow => cases plain

end Session

end Spreadsheet
