import Spreadsheet.Proofs.Session.Gesture
import Spreadsheet.Proofs.Session.Undo
import Spreadsheet.Proofs.Sheet.Values

/-! Typing into the active cell. However an edit is opened and whatever is typed, all that changes is the value of one
cell, which is the text typed so far, and nothing is recorded. Cancelling puts the value from before back; confirming
records the sheets once, if the text is another one. -/
namespace Spreadsheet

namespace Action

/-- The actions that open an edit where none is open. -/
def opens : Action → Bool
  | .startEdit _ | .setEditText _ | .typeChar _ => true
  | .press (.char c) m => !m.isCommand && !Text.isControl c
  | .press .f2 m => !m.isCommand
  | _ => false

/-- The actions that change the text of an open edit. -/
def types : Action → Bool
  | .setEditText _ | .typeChar _ | .backspace => true
  | .press (.char c) m => !m.isCommand && !Text.isControl c
  | .press .backspace m => !m.isCommand
  | _ => false

/-- The actions that keep what was typed, and those that put the text from before back. -/
def confirms : Action → Bool
  | .confirmEdit | .confirmAndMove _ _ => true
  | .press .enter m | .press .tab m => !m.isCommand
  | _ => false

def cancels : Action → Bool
  | .cancelEdit => true
  | .press .escape m => !m.isCommand
  | _ => false

end Action

namespace Workbook

theorem modifySheet_modifySheet (i : Nat) (f g : Sheet → Sheet) (w : Workbook) :
    (w.modifySheet i f).modifySheet i g = w.modifySheet i fun s => g (f s) :=
  congrArg Workbook.mk (List.modify_modify_eq f g i w.sheets)

theorem modifySheet_of_same {i : Nat} {f : Sheet → Sheet} {w : Workbook}
    (same : ∀ s, w.sheet? i = some s → f s = s) : w.modifySheet i f = w := by
  refine congrArg Workbook.mk (List.ext_getElem? fun j => ?_)
  rw [List.getElem?_modify]
  by_cases at_i : i = j
  · subst at_i
    cases found : w.sheets[i]? with
    | none => rfl
    | some s => simp [same s found]
  · simp [at_i]

end Workbook

theorem Sheet.lasting_visible : Lasting fun s => s.grid.NoBlank where
  stable := stable_visible
  rename visible _ := visible
  regular regular := regular.visible

namespace Session

variable {γ σ : Type} {s t : Session γ σ} {text : String}

/-- The edit that typing goes on with: the open one, or else one of the active cell that has its text still. -/
def editing (s : Session γ σ) : OpenEdit :=
  s.edit.getD ⟨s.activeSheet, s.editTarget, s.sheet.raw s.editTarget, s.sheet.raw s.editTarget⟩

/-- The session with that text typed. -/
def typed (text : String) (s : Session γ σ) : Session γ σ :=
  touch
    { s with
      edit := some { s.editing with buffer := text }
      workbook := s.workbook.modifySheet s.editing.sheet (·.setValue s.editing.position text) }

theorem editing_of_none (closed : s.edit = none) :
    s.editing = ⟨s.activeSheet, s.editTarget, s.sheet.raw s.editTarget, s.sheet.raw s.editTarget⟩ := by
  rw [editing, closed]
  rfl

theorem editing_of_some {e : OpenEdit} (opened : s.edit = some e) : s.editing = e := by
  rw [editing, opened]
  rfl

theorem startEdit_of_some {e : OpenEdit} (opened : s.edit = some e) (seed : Option String) : s.startEdit seed = s :=
  if_pos (by rw [opened]; rfl)

theorem startEdit_of_none (closed : s.edit = none) (seed : Option String) :
    s.startEdit seed = if seed.getD s.editing.previous = s.editing.previous then { s with edit := some s.editing }
      else s.typed (seed.getD s.editing.previous) := by
  rw [startEdit, if_neg (by simp [closed]), typed, editing_of_none closed]
  dsimp only
  split
  next same => rw [same]
  next => rfl

theorem typed_typed (s : Session γ σ) (first second : String) : (s.typed first).typed second = s.typed second := by
  have editing : (s.typed first).editing = { s.editing with buffer := first } := rfl
  rw [typed, editing, typed, touch, touch]
  simp only [Workbook.modifySheet_modifySheet, Sheet.setValue_setValue]
  rfl

theorem writeBuffer_setBuffer {e : OpenEdit} (opened : s.edit = some e) (f : String → String) :
    (s.setBuffer f).writeBuffer = s.typed (f e.buffer) := by
  have edit : (s.setBuffer f).edit = some { e with buffer := f e.buffer } := by
    rw [setBuffer, opened]
    rfl
  rw [writeBuffer, edit, typed, editing_of_some opened]
  simp only [setBuffer, opened]

theorem backspace_eq {e : OpenEdit} (opened : s.edit = some e) : s.backspace = s.typed (dropLastChar e.buffer) :=
  writeBuffer_setBuffer opened dropLastChar

theorem setEditText_eq (s : Session γ σ) (text : String) : s.setEditText text = s.typed text := by
  rw [setEditText]
  cases found : s.edit with
  | some e => rw [startEdit_of_some found, writeBuffer_setBuffer found]
  | none =>
    rw [startEdit_of_none found, if_pos (by rfl)]
    exact writeBuffer_setBuffer rfl _

theorem typeChar_eq (s : Session γ σ) (c : Char) : s.typeChar c = s.typed ((s.edit.elim "" OpenEdit.buffer).push c) := by
  rw [typeChar]
  cases found : s.edit with
  | some e =>
    rw [startEdit_of_some found, writeBuffer_setBuffer found]
    rfl
  | none =>
    rw [startEdit_of_none found]
    split
    next same =>
      -- the cell is empty, so that opening the edit wrote nothing
      have empty : s.editing.buffer = "" := by
        rw [editing_of_none found] at same ⊢
        exact same.symm
      rw [writeBuffer_setBuffer rfl, empty]
      rfl
    next =>
      rw [writeBuffer_setBuffer rfl, typed_typed]
      rfl

section Perform

variable [Clipboard γ]

theorem press_of_some {e : OpenEdit} (opened : s.edit = some e) (k : Key) {m : Modifiers} (plain : m.isCommand = false) :
    s.press k m = s.editKey k m.shift := by
  rw [press.eq_def, plain, opened]
  rfl

variable [Archive σ] {a : Action}

theorem perform_opens (closed : s.edit = none) (opens : a.opens = true) :
    (s.perform a).2 = { s with edit := some s.editing } ∨ ∃ text, (s.perform a).2 = s.typed text := by
  have started (seed : Option String) :
      s.startEdit seed = { s with edit := some s.editing } ∨ ∃ text, s.startEdit seed = s.typed text := by
    rw [startEdit_of_none closed]
    split
    · exact .inl rfl
    · exact .inr ⟨_, rfl⟩
  cases a with
  | startEdit seed => exact started seed
  | setEditText text => exact .inr ⟨text, s.setEditText_eq text⟩
  | typeChar c => exact .inr ⟨_, s.typeChar_eq c⟩
  | press k m =>
    have pressed (plain : m.isCommand = false) : s.press k m = s.gridKey k m.shift := by
      rw [press.eq_def, plain, closed]
      rfl
    cases k with
    | char c =>
      simp only [Action.opens, Bool.and_eq_true, Bool.not_eq_true'] at opens
      change (s.press _ m).2 = _ ∨ ∃ _, (s.press _ m).2 = _
      rw [pressed opens.1, gridKey, opens.2]
      exact started _
    | f2 =>
      simp only [Action.opens, Bool.not_eq_true'] at opens
      change (s.press _ m).2 = _ ∨ ∃ _, (s.press _ m).2 = _
      rw [pressed opens]
      exact started none
    | _ => cases opens
  | _ => cases opens

theorem perform_types {e : OpenEdit} (opened : s.edit = some e) (types : a.types = true) :
    ∃ text, (s.perform a).2 = s.typed text := by
  cases a with
  | setEditText text => exact ⟨text, s.setEditText_eq text⟩
  | typeChar c => exact ⟨_, s.typeChar_eq c⟩
  | backspace => exact ⟨_, backspace_eq opened⟩
  | press k m =>
    cases k with
    | char c =>
      simp only [Action.types, Bool.and_eq_true, Bool.not_eq_true'] at types
      change ∃ _, (s.press _ m).2 = _
      rw [press_of_some opened _ types.1, editKey, types.2]
      exact ⟨_, s.typeChar_eq c⟩
    | backspace =>
      simp only [Action.types, Bool.not_eq_true'] at types
      change ∃ _, (s.press _ m).2 = _
      rw [press_of_some opened _ types]
      exact ⟨_, backspace_eq opened⟩
    | _ => cases types
  | _ => cases types

theorem perform_confirms {e : OpenEdit} (opened : s.edit = some e) (confirms : a.confirms = true) :
    ∃ selection, (s.perform a).2 = { s.finishEdit with selection } := by
  cases a with
  | confirmEdit => exact ⟨_, rfl⟩
  | confirmAndMove dr dc => exact ⟨_, rfl⟩
  | press k m =>
    cases k with
    | enter | tab =>
      simp only [Action.confirms, Bool.not_eq_true'] at confirms
      change ∃ _, (s.press _ m).2 = _
      rw [press_of_some opened _ confirms]
      exact ⟨_, rfl⟩
    | _ => cases confirms
  | _ => cases confirms

theorem perform_cancels {e : OpenEdit} (opened : s.edit = some e) (cancels : a.cancels = true) :
    (s.perform a).2 = s.cancelEdit := by
  cases a with
  | cancelEdit => rfl
  | press k m =>
    cases k with
    | escape =>
      simp only [Action.cancels, Bool.not_eq_true'] at cancels
      change (s.press _ m).2 = _
      rw [press_of_some opened _ cancels]
      rfl
    | _ => cases cancels
  | _ => cases cancels

end Perform

theorem modifySheet_raw (visible : s.sheet.grid.NoBlank) (p : Position) :
    s.workbook.modifySheet s.activeSheet (·.setValue p (s.sheet.raw p)) = s.workbook := by
  apply Workbook.modifySheet_of_same
  intro sheet found
  have active : s.sheet = sheet := by
    rw [Session.sheet, found]
    rfl
  rw [← active]
  exact Sheet.setValue_raw visible p

/-- The sheets of the second session are those of the first, but for the value of one cell of the active sheet. -/
structure DiffersAt (p : Position) (value : String) (s t : Session γ σ) : Prop where
  activeSheet : t.activeSheet = s.activeSheet
  sheetCount : t.workbook.sheetCount = s.workbook.sheetCount
  others : ∀ i, i ≠ s.activeSheet → t.workbook.sheet? i = s.workbook.sheet? i
  layout : { t.sheet with grid := s.sheet.grid } = s.sheet
  cells : ∀ q, q ≠ p → t.sheet.grid.get? q = s.sheet.grid.get? q
  cell : t.sheet.cell p = (s.sheet.cell p).withValue value

/-- What has come of the first session once an edit is open and that text is typed. -/
structure Typing (s t : Session γ σ) (text : String) : Prop where
  edit : t.edit = some { s.editing with buffer := text }
  history : t.history = s.history
  activeSheet : t.activeSheet = s.activeSheet
  workbook : t.workbook = s.workbook.modifySheet s.editing.sheet (·.setValue s.editing.position text)

theorem typing_typed (s : Session γ σ) (text : String) : Typing s (s.typed text) text := ⟨rfl, rfl, rfl, rfl⟩

namespace Typing

theorem typed {first second : String} (typing : Typing s t first) : Typing s (t.typed second) second := by
  have editing := editing_of_some typing.edit
  refine ⟨?_, typing.history, typing.activeSheet, ?_⟩
  · rw [Session.typed, editing]
    rfl
  · rw [Session.typed, editing, touch]
    dsimp only
    rw [typing.workbook, Workbook.modifySheet_modifySheet]
    simp only [Sheet.setValue_setValue]

section Closed

variable (closed : s.edit = none)
include closed

theorem differsAt (sited : s.Sited) (typing : Typing s t text) : DiffersAt s.editTarget text s t := by
  obtain ⟨_, _, activeSheet, workbook⟩ := typing
  rw [editing_of_none closed] at workbook
  have sheet : t.sheet = s.sheet.setValue s.editTarget text := by
    rw [← sheet_modifySheet sited (·.setValue s.editTarget text), sheet, activeSheet, workbook]
    rfl
  refine ⟨activeSheet, ?_, ?_, ?_, ?_, ?_⟩
  · rw [workbook]
    exact List.length_modify _ _ _
  · intro i other
    rw [workbook]
    exact Workbook.sheet?_modifySheet_ne (Ne.symm other) _ _
  · rw [sheet]
    rfl
  · intro q other
    rw [sheet]
    exact (Grid.get?_set _ _ _ _).trans (if_neg other)
  · rw [sheet]
    exact (Grid.get_setValue _ _ _ _).trans (if_pos rfl)

/-- The sheets are those from before exactly as long as the text is. -/
theorem sheets_eq_iff (sited : s.Sited) (visible : s.sheet.grid.NoBlank) (typing : Typing s t text) :
    t.workbook.sheets = s.workbook.sheets ↔ text = s.sheet.raw s.editTarget := by
  have differs := typing.differsAt closed sited
  constructor
  · intro same
    have sheet : t.sheet = s.sheet := by
      rw [Session.sheet, Session.sheet, Workbook.sheet?, Workbook.sheet?, same, typing.activeSheet]
    have cell := congrArg Cell.value differs.cell
    rw [sheet] at cell
    rw [Sheet.raw, Grid.raw_eq]
    exact cell.symm
  · rintro rfl
    have workbook := typing.workbook
    rw [editing_of_none closed] at workbook
    rw [workbook, modifySheet_raw visible]

theorem cancelEdit (visible : s.sheet.grid.NoBlank) (typing : Typing s t text) :
    t.cancelEdit.edit = none ∧ t.cancelEdit.workbook.sheets = s.workbook.sheets ∧ t.cancelEdit.history = s.history := by
  have back : t.workbook.modifySheet s.activeSheet (·.setValue s.editTarget (s.sheet.raw s.editTarget)) = s.workbook := by
    rw [typing.workbook, editing_of_none closed, Workbook.modifySheet_modifySheet]
    simp only [Sheet.setValue_setValue]
    exact modifySheet_raw visible _
  rw [Session.cancelEdit, typing.edit, editing_of_none closed]
  exact ⟨rfl, congrArg Workbook.sheets back, typing.history⟩

theorem finishEdit (sound : s.history.Sound (Sheets fun s => s.grid.NoBlank)) (sited : s.Sited)
    (visible : s.sheet.grid.NoBlank) (recorded : s.IsRecorded) (typing : Typing s t text) :
    t.finishEdit.edit = none ∧ t.finishEdit.workbook.sheets = t.workbook.sheets ∧
      (text = s.sheet.raw s.editTarget → t.finishEdit.history = s.history) ∧
      (text ≠ s.sheet.raw s.editTarget → s.history.Advances t.workbook.sheets t.finishEdit.history) := by
  have history : t.finishEdit.history = (commit { t with edit := none }).history :=
    congrArg Session.history (if_pos (by rw [typing.edit]; rfl))
  have same := typing.sheets_eq_iff closed sited visible
  have commits : Commits s (commit { t with edit := none }) := .commit rfl typing.history
  have recorded' := commits.history
  rw [workbook_commit] at recorded'
  refine ⟨edit_finishEdit t, congrArg Workbook.sheets (workbook_finishEdit t), ?_, ?_⟩
  · intro kept
    rw [history, recorded', if_pos]
    rw [recorded.current, same.2 kept]
  · intro changed
    rw [history, recorded', if_neg]
    · exact History.advances_push sound _
    · rw [recorded.current]
      exact fun equal => changed (same.1 (Option.some.inj equal).symm)

end Closed

end Typing

section Run

variable [Clipboard γ] [Archive σ] {first : Session γ σ}

theorem exists_typing (visible : s.sheet.grid.NoBlank) (closed : s.edit = none) {opening : Action}
    (opens : opening.opens = true) {typing : List Action} (types : ∀ a ∈ typing, a.types = true) :
    ∃ text, Typing s (performAll typing (s.perform opening).2) text := by
  have opened : ∃ text, Typing s (s.perform opening).2 text := by
    rcases perform_opens closed opens with opened | ⟨text, typed⟩
    · rw [opened]
      refine ⟨s.sheet.raw s.editTarget, ?_, rfl, rfl, ?_⟩
      · rw [editing_of_none closed]
      · rw [editing_of_none closed]
        exact (modifySheet_raw visible _).symm
    · rw [typed]
      exact ⟨text, s.typing_typed text⟩
  refine List.foldlRecOn (motive := fun t => ∃ text, Typing s t text) typing _ opened ?_
  intro t open_edit a among
  obtain ⟨text, typing⟩ := open_edit
  obtain ⟨text', typed⟩ := perform_types typing.edit (types a among)
  rw [typed]
  exact ⟨text', typing.typed⟩

/-- From a settled session on, opening an edit and typing change the value of one cell into the text typed so far, and
the history not at all; after it cancelling gives the sheets from before, and confirming records the sheets once if
they are others, and not at all if they are the same. -/
theorem typing_atomic (begins : Begins (fun sheet => sheet.grid.NoBlank) first) (actions : List Action)
    (closed : (performAll actions first).edit = none) (recorded : (performAll actions first).IsRecorded)
    {opening : Action} (opens : opening.opens = true) {typing : List Action}
    (types : ∀ a ∈ typing, a.types = true) :
    let s := performAll actions first
    let t := performAll typing (s.perform opening).2
    ∃ text, t.edit = some ⟨s.activeSheet, s.editTarget, s.sheet.raw s.editTarget, text⟩ ∧
      t.history = s.history ∧ DiffersAt s.editTarget text s t ∧
      (∀ a, a.cancels = true → (t.perform a).2.edit = none ∧
        (t.perform a).2.workbook.sheets = s.workbook.sheets ∧ (t.perform a).2.history = s.history) ∧
      ∀ a, a.confirms = true → (t.perform a).2.edit = none ∧
        (t.perform a).2.workbook.sheets = t.workbook.sheets ∧
        (text = s.sheet.raw s.editTarget → (t.perform a).2.history = s.history) ∧
        (text ≠ s.sheet.raw s.editTarget → s.history.Advances t.workbook.sheets (t.perform a).2.history) := by
  intro s t
  have sound : Sound (fun sheet => sheet.grid.NoBlank) s := sound_performAll Sheet.lasting_visible begins actions
  obtain ⟨text, typing⟩ := exists_typing sound.sheet closed opens types
  refine ⟨text, ?_, typing.history, typing.differsAt closed sound.sited, ?_, ?_⟩
  · rw [typing.edit, editing_of_none closed]
  · intro a cancels
    rw [perform_cancels typing.edit cancels]
    exact typing.cancelEdit closed sound.sheet
  · intro a confirms
    obtain ⟨selection, confirmed⟩ := perform_confirms typing.edit confirms
    rw [confirmed]
    exact typing.finishEdit closed sound.history sound.sited sound.sheet recorded

/-- Four cells are merged and made bold, and the last of them is selected. -/
def merged : List Action :=
  [.mouseDown ⟨0, 0⟩ false, .mouseEnter ⟨1, 1⟩, .mouseUp, .run .merge, .run (.toggleStyle .bold), .selectCell ⟨1, 1⟩]

theorem typing_atomic_merged :
    Begins (fun sheet => sheet.grid.NoBlank) fresh ∧ (performAll merged fresh).edit = none ∧
      (performAll merged fresh).IsRecorded ∧ (performAll merged fresh).editTarget = ⟨0, 0⟩ ∧
      let t := performAll [.typeChar 'b', .backspace] ((performAll merged fresh).perform (.press (.char 'a') {})).2
      t.edit = some ⟨0, ⟨0, 0⟩, "", "a"⟩ ∧
        (performAll merged fresh).history.Advances t.workbook.sheets (t.perform (.press .tab {})).2.history := by
  have begins : Begins (fun sheet => sheet.grid.NoBlank) fresh := begins_fresh Grid.noBlank_empty
  have closed : (performAll merged fresh).edit = none := by decide +kernel
  have recorded : (performAll merged fresh).IsRecorded := by decide +kernel
  have target : (performAll merged fresh).editTarget = ⟨0, 0⟩ := by decide +kernel
  have edit : (performAll [.typeChar 'b', .backspace]
      ((performAll merged fresh).perform (.press (.char 'a') {})).2).edit = some ⟨0, ⟨0, 0⟩, "", "a"⟩ := by decide +kernel
  have raw : (performAll merged fresh).sheet.raw (performAll merged fresh).editTarget = "" := by decide +kernel
  have opens : (Action.press (.char 'a') {}).opens = true := by decide
  have types : ∀ a ∈ [Action.typeChar 'b', .backspace], a.types = true := by decide
  obtain ⟨text, edit', _, _, _, confirmed⟩ := typing_atomic begins merged closed recorded opens types
  have same : text = "a" := congrArg OpenEdit.buffer (Option.some.inj (edit'.symm.trans edit))
  have changed : text ≠ (performAll merged fresh).sheet.raw (performAll merged fresh).editTarget := by
    rw [raw, same]
    decide
  exact ⟨begins, closed, recorded, target, edit, (confirmed (.press .tab {}) rfl).2.2.2 changed⟩

end Run

end Session

end Spreadsheet
