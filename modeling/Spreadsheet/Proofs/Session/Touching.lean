import Spreadsheet.Proofs.Session.Clipboard
import Spreadsheet.Proofs.Session.OpenEdit

/-! Which actions put the pending save off. Those that move the history do, by closing the open edit or by what they do
then, and those that write into cells and lines without a snapshot; all others leave the save as it is. A key stands for
another action, or at most selects the active cell. -/
namespace Spreadsheet.Session

variable {γ σ : Type} {s t u : Session γ σ}

/-- The save is put off or left as it is, while the clock stands still. -/
structure Defers (on : Bool) (s t : Session γ σ) : Prop where
  autosave : t.autosave = if on then s.autosave.schedule s.now else s.autosave
  now : t.now = s.now

/-- The history has moved: a snapshot was recorded, or another one gone to. -/
def moves (s t : Session γ σ) : Bool := t.history ≠ s.history

namespace Defers

variable {on off : Bool}

theorem of_same (autosave : t.autosave = s.autosave) (now : t.now = s.now) : Defers false s t := ⟨autosave, now⟩

theorem touch (autosave : t.autosave = s.autosave) (now : t.now = s.now) : Defers true s t.touch := by
  refine ⟨?_, now⟩
  rw [Session.touch, autosave, now]
  rfl

theorem congr (defers : Defers on s t) (autosave : u.autosave = t.autosave) (now : u.now = t.now) : Defers on s u :=
  ⟨autosave.trans defers.autosave, now.trans defers.now⟩

/-- Putting the save off twice at one time is putting it off once. -/
theorem trans (first : Defers on s t) (second : Defers off t u) : Defers (on || off) s u := by
  refine ⟨?_, second.now.trans first.now⟩
  rw [second.autosave, first.autosave, first.now]
  cases on <;> cases off <;> rfl

theorem kept (history : t.history = s.history) (autosave : t.autosave = s.autosave) (now : t.now = s.now) :
    Defers (s.moves t) s t := by
  have still : s.moves t = false := decide_eq_false (not_not_intro history)
  rw [still]
  exact of_same autosave now

theorem commit {P : List Sheet → Prop} (sound : s.history.Sound P) (history : t.history = s.history)
    (autosave : t.autosave = s.autosave) (now : t.now = s.now) : Defers (s.moves t.commit) s t.commit := by
  rw [← history] at sound
  by_cases recorded : t.IsRecorded
  · rw [commit_of_isRecorded recorded]
    exact kept history autosave now
  · have moved : s.moves t.commit = true := by
      rw [moves, decide_eq_true_iff, ← history]
      exact mt (history_commit_iff sound).1 recorded
    have pushed : t.commit = Session.touch { t with history := t.history.push t.workbook.sheets } := if_neg recorded
    rw [moved, pushed]
    exact touch autosave now

/-- What follows without a trace in the history leaves the save as it was put. -/
theorem looks (defers : Defers (s.moves t) s t) (history : u.history = t.history) (autosave : u.autosave = t.autosave)
    (now : u.now = t.now) : Defers (s.moves u) s u := by
  have same : s.moves u = s.moves t := by rw [moves, moves, history]
  rw [same]
  exact defers.congr autosave now

end Defers

/-- The history that undo and redo go by answers with the one it moves to. -/
def Strides (step : History (List Sheet) → Option (List Sheet) × History (List Sheet)) : Prop :=
  ∀ h sheets h', step h = (some sheets, h') → h' ≠ h

theorem strides_undo : Strides History.undo := by
  intro h sheets h' undone same
  subst same
  unfold History.undo at undone
  split at undone
  next earlier =>
    have index := congrArg (fun r => r.2.index) undone
    have earlier : 0 < h'.index := of_decide_eq_true earlier
    dsimp only at index
    omega
  next => cases undone

theorem strides_redo : Strides History.redo := by
  intro h sheets h' redone same
  subst same
  unfold History.redo at redone
  split at redone
  next =>
    have index := congrArg (fun r => r.2.index) redone
    dsimp only at index
    omega
  next => cases redone

theorem run_finishEdit (s : Session γ σ) (c : Command) : s.finishEdit.run c = s.run c := by
  have closed : s.finishEdit.finishEdit = s.finishEdit := finishEdit_of_none (edit_finishEdit s)
  rw [run, closed, run]

theorem defers_run_of_none {P : List Sheet → Prop} (sound : s.history.Sound P) (closed : s.edit = none) (c : Command) :
    Defers (s.moves (s.run c)) s (s.run c) := by
  have edited : Defers _ s (s.modifySheet (c.edit s.selection)).clampSelection.commit := .commit sound rfl rfl rfl
  rw [run, finishEdit_of_none closed]
  exact edited.looks rfl rfl rfl

section Sound

variable (sound : Sound (fun _ => True) s)
include sound

theorem defers_finishEdit : Defers (s.moves s.finishEdit) s s.finishEdit := by
  unfold finishEdit
  split
  · exact .commit sound.history rfl rfl rfl
  · exact .kept rfl rfl rfl

theorem defers_settled : Defers (s.moves s.settled) s s.settled := by
  cases closed : s.edit with
  | none =>
    rw [settled, finishEdit_of_none closed]
    exact .commit sound.history rfl rfl rfl
  | some e =>
    -- closing the edit has recorded the sheets already
    have finished : s.finishEdit = commit { s with edit := none } := if_pos (by rw [closed]; rfl)
    have unedited : Sound (fun _ => True) { s with edit := none } := ⟨sound.sheets, sound.history, sound.sited⟩
    have same : s.settled = s.finishEdit := by
      rw [settled, finished]
      exact commit_of_isRecorded unedited.isRecorded_commit
    rw [same]
    exact defers_finishEdit sound

theorem defers_travel {step : History (List Sheet) → Option (List Sheet) × History (List Sheet)} (strides : Strides step) :
    Defers (s.moves s.settled || s.settled.moves (s.travel step).2) s (s.travel step).2 := by
  apply (defers_settled sound).trans
  rcases s.travel_cases step with stays | ⟨sheets, h, moved, goes⟩
  · rw [stays]
    exact .kept rfl rfl rfl
  · rw [goes]
    have gone : s.settled.moves (restore sheets { s.settled with history := h }) = true :=
      decide_eq_true (strides _ _ _ moved)
    rw [gone]
    exact .touch rfl rfl

/-- The edit is closed first; what follows puts the save off if it moves the history. -/
theorem defers_closing (after : s.finishEdit.history.Sound (Sheets fun _ => True) →
    Defers (s.finishEdit.moves t) s.finishEdit t) : Defers (s.moves s.finishEdit || s.finishEdit.moves t) s t :=
  (defers_finishEdit sound).trans (after (sound.finishEdit Sheet.lasting_any).history)

theorem defers_mouseUp : Defers (s.moves s.mouseUp) s s.mouseUp := by
  rcases s.mouseUp_cases with ⟨_, _, _, _, released⟩ | ⟨_, released⟩
  · rw [released]
    exact .commit sound.history rfl rfl rfl
  · rw [released]
    exact .kept rfl rfl rfl

theorem defers_switchSheet (i : Nat) : Defers (s.moves (s.switchSheet i).2) s (s.switchSheet i).2 := by
  rcases s.switchSheet_cases i with ⟨_, switched⟩ | ⟨_, same⟩
  · rw [switched]
    exact (defers_finishEdit sound).looks rfl rfl rfl
  · rw [same]
    exact .kept rfl rfl rfl

theorem defers_run (c : Command) : Defers (s.moves s.finishEdit || s.finishEdit.moves (s.run c)) s (s.run c) := by
  refine defers_closing sound fun recorded => ?_
  rw [← run_finishEdit]
  exact defers_run_of_none recorded (edit_finishEdit s) c

theorem defers_addSheet : Defers (s.moves s.finishEdit || s.finishEdit.moves s.addSheet.2) s s.addSheet.2 :=
  defers_closing sound fun recorded => .commit recorded rfl rfl rfl

theorem defers_renameSheet (i : Nat) (name : String) :
    Defers (s.moves s.finishEdit || s.finishEdit.moves (s.renameSheet i name).2) s (s.renameSheet i name).2 := by
  refine defers_closing sound fun recorded => ?_
  unfold renameSheet
  dsimp only
  split
  · exact .kept rfl rfl rfl
  · exact .commit recorded rfl rfl rfl

theorem defers_deleteSheet (i : Nat) :
    Defers (s.moves s.finishEdit || s.finishEdit.moves (s.deleteSheet i).2) s (s.deleteSheet i).2 := by
  refine defers_closing sound fun recorded => ?_
  rcases s.deleteSheet_cases i with ⟨_, kept⟩ | ⟨_, _, _, _, _, deleted⟩
  · rw [kept]
    exact .kept rfl rfl rfl
  · rw [deleted]
    exact .commit recorded rfl rfl rfl

theorem defers_importCsv (content : String) :
    Defers (s.moves s.finishEdit || s.finishEdit.moves (s.importCsv content)) s (s.importCsv content) := by
  refine defers_closing sound fun recorded => ?_
  unfold importCsv
  dsimp only
  split
  · exact .commit recorded rfl rfl rfl
  · exact .kept rfl rfl rfl

section Clipboard

variable [Clipboard γ]

theorem defers_copy : Defers (s.moves s.copy.2) s s.copy.2 := (defers_finishEdit sound).looks rfl rfl rfl

theorem defers_cut : Defers (s.moves s.finishEdit || s.finishEdit.moves s.cut) s s.cut := by
  refine defers_closing sound fun recorded => ?_
  cases copied : s.copy.1 with
  | false =>
    rw [cut_of_refused copied]
    exact .kept rfl rfl rfl
  | true =>
    have cleared := defers_run_of_none (s := s.copy.2) recorded (edit_copy s) .clear
    rw [cut_of_copied copied]
    exact ⟨cleared.autosave, cleared.now⟩

theorem defers_paste : Defers (s.moves s.finishEdit || s.finishEdit.moves s.paste) s s.paste := by
  refine defers_closing sound fun recorded => ?_
  unfold paste
  dsimp only
  split
  · exact .kept rfl rfl rfl
  · split
    · exact .commit recorded rfl rfl rfl
    · exact .kept rfl rfl rfl

end Clipboard

end Sound

theorem defers_typed (s : Session γ σ) (text : String) : Defers true s (s.typed text) := .touch rfl rfl

theorem defers_startEdit (s : Session γ σ) (seed : Option String) :
    Defers (s.edit.isNone && seed.any (· ≠ s.sheet.raw s.editTarget)) s (s.startEdit seed) := by
  cases opened : s.edit with
  | some e =>
    rw [startEdit_of_some opened]
    exact .of_same rfl rfl
  | none =>
    have previous : s.editing.previous = s.sheet.raw s.editTarget := congrArg OpenEdit.previous (editing_of_none opened)
    rw [startEdit_of_none opened, previous]
    cases seed with
    | none =>
      rw [Option.getD_none, if_pos rfl]
      exact .of_same rfl rfl
    | some text =>
      by_cases same : text = s.sheet.raw s.editTarget
      · simp only [Option.getD_some, same, if_true, Option.any_some, ne_eq, not_true, decide_false, Bool.and_false]
        exact .of_same rfl rfl
      · simp only [Option.getD_some, same, if_false, Option.any_some, ne_eq, not_false_iff, decide_true, Option.isNone_none,
          Bool.and_true]
        exact s.defers_typed text

theorem defers_backspace (s : Session γ σ) : Defers s.edit.isSome s s.backspace := by
  cases opened : s.edit with
  | some e =>
    rw [backspace_eq opened]
    exact s.defers_typed _
  | none =>
    rw [backspace, setBuffer, writeBuffer, opened]
    exact .of_same rfl rfl

theorem defers_cancelEdit (s : Session γ σ) : Defers s.edit.isSome s s.cancelEdit := by
  cases opened : s.edit with
  | some e =>
    rw [cancelEdit, opened]
    exact .touch rfl rfl
  | none =>
    rw [cancelEdit, opened]
    exact .of_same rfl rfl

/-- Is a line being resized? -/
def isResizing (s : Session γ σ) : Bool := s.gesture matches .resizing _ _

theorem defers_resizeDrag (s : Session γ σ) (size : Nat) : Defers s.isResizing s (s.resizeDrag size) := by
  rw [isResizing, resizeDrag]
  cases s.gesture with
  | resizing axis index => exact .touch rfl rfl
  | idle | selecting | filling => exact .of_same rfl rfl

theorem defers_mouseEnter (s : Session γ σ) (p : Position) : Defers (s.moves (s.mouseEnter p)) s (s.mouseEnter p) := by
  unfold mouseEnter
  dsimp only
  split <;> exact .kept rfl rfl rfl

/-- The action that a key stands for as a shortcut. -/
def shortcutAction (c : Char) (shift : Bool) : Option Action :=
  match c with
  | 'z' => some (if shift then .redo else .undo)
  | 'y' => some .redo
  | 'c' => some .copy
  | 'x' => some .cut
  | 'v' => some .paste
  | 'a' => some .selectAll
  | 'b' => some (.run (.toggleStyle .bold))
  | 'i' => some (.run (.toggleStyle .italic))
  | 'u' => some (.run (.toggleStyle .underline))
  | _ => none

def editAction (k : Key) (shift : Bool) : Option Action :=
  match k with
  | .enter => some (.confirmAndMove (stride shift) 0)
  | .tab => some (.confirmAndMove 0 (stride shift))
  | .escape => some .cancelEdit
  | .backspace => some .backspace
  | .char c => if Text.isControl c then none else some (.typeChar c)
  | _ => none

def arrowAction (dr dc : Int) (shift : Bool) : Option Action :=
  some (if shift then .extendSelection dr dc else .moveSelection dr dc)

def gridAction (k : Key) (shift : Bool) : Option Action :=
  match k with
  | .up => arrowAction (-1) 0 shift
  | .down => arrowAction 1 0 shift
  | .left => arrowAction 0 (-1) shift
  | .right => arrowAction 0 1 shift
  | .enter => some (.moveSelection (stride shift) 0)
  | .tab => some (.moveSelection 0 (stride shift))
  | .f2 => some (.startEdit none)
  | .delete => some (.run .clear)
  | .backspace => some (.run .clear)
  | .escape => none
  | .char c => if Text.isControl c then none else some (.startEdit (some (String.singleton c)))

/-- The action that a key stands for, none if it is left to others or only selects the active cell again. -/
def keyAction (k : Key) (m : Modifiers) (s : Session γ σ) : Option Action :=
  if m.isCommand then
    match k with
    | .char c => if s.edit.isSome && c.toLower ∈ textShortcuts then none else shortcutAction c.toLower m.shift
    | _ => none
  else if s.edit.isSome then editAction k m.shift
  else gridAction k m.shift

/-- A session does what the action does; with no action, it selects something at most. -/
def Does [Clipboard γ] [Archive σ] (s : Session γ σ) : Option Action → Session γ σ → Prop
  | some a, t => t = (s.perform a).2
  | none, t => ∃ selection, t = { s with selection }

section Keys

variable [Clipboard γ] [Archive σ] (s : Session γ σ)

theorem does_shortcut (c : Char) (shift : Bool) :
    Does s (if s.edit.isSome && c ∈ textShortcuts then none else shortcutAction c shift) (s.shortcut c shift).2 := by
  unfold shortcut
  split
  · exact ⟨_, rfl⟩
  · split
    next => cases shift <;> rfl
    all_goals try first | rfl | exact ⟨_, rfl⟩
    -- left is a letter that is no shortcut
    unfold shortcutAction
    split
    all_goals first | contradiction | exact ⟨_, rfl⟩

theorem does_editKey (k : Key) (shift : Bool) : Does s (editAction k shift) (s.editKey k shift).2 := by
  cases k with
  | enter | tab | escape | backspace => rfl
  | char c =>
    unfold editAction editKey
    dsimp only
    split
    · exact ⟨_, rfl⟩
    · rfl
  | delete | up | down | left | right | f2 => exact ⟨_, rfl⟩

theorem does_gridKey (k : Key) (shift : Bool) : Does s (gridAction k shift) (s.gridKey k shift).2 := by
  cases k with
  | up | down | left | right => cases shift <;> rfl
  | enter | tab | f2 | delete | backspace => rfl
  | escape => exact ⟨_, rfl⟩
  | char c =>
    unfold gridAction gridKey
    dsimp only
    split
    · exact ⟨_, rfl⟩
    · rfl

theorem does_press (k : Key) (m : Modifiers) : Does s (keyAction k m s) (s.press k m).2 := by
  unfold keyAction press
  split
  · cases k with
    | char c => exact s.does_shortcut _ _
    | _ => exact ⟨_, rfl⟩
  · split
    · exact s.does_editKey k _
    · exact s.does_gridKey k _

end Keys

/-- Keys stand neither for keys nor for saving. -/
def isDirect : Action → Bool
  | .press _ _ | .maybeSave | .saveNow => false
  | _ => true

theorem isDirect_keyAction {k : Key} {m : Modifiers} {a : Action} (stands : keyAction k m s = some a) :
    isDirect a = true := by
  revert stands
  unfold keyAction shortcutAction editAction gridAction arrowAction
  repeat' split
  all_goals
    intro stands
    cases stands
    try split
    all_goals rfl

section Perform

variable [Clipboard γ] [Archive σ]

/-- Does the action put the save off? Typing, taking back what was typed and resizing do, and else whatever moves the
history, by closing the open edit, by recording pending changes or by what is done then. -/
def putsOff (a : Action) (s : Session γ σ) : Bool :=
  match a with
  | .startEdit seed => s.edit.isNone && seed.any (· ≠ s.sheet.raw s.editTarget)
  | .setEditText _ | .typeChar _ => true
  | .backspace | .cancelEdit => s.edit.isSome
  | .resizeDrag _ => s.isResizing
  | .run _ | .cut | .paste | .addSheet | .renameSheet _ _ | .deleteSheet _ | .importCsv _ | .importCsvFile _ =>
    s.moves s.finishEdit || s.finishEdit.moves (s.perform a).2
  | .undo | .redo => s.moves s.settled || s.settled.moves (s.perform a).2
  | _ => s.moves (s.perform a).2

/-- Is the action a touch? A key is one if the action that it stands for is. -/
def touches (a : Action) (s : Session γ σ) : Bool :=
  match a with
  | .press k m => (keyAction k m s).any (putsOff · s)
  | a => putsOff a s

theorem autosave_putsOff (sound : Sound (fun _ => True) s) {a : Action} (direct : isDirect a = true) :
    (s.perform a).2.autosave = if s.putsOff a then s.autosave.schedule s.now else s.autosave := by
  have still (selection : Selection) (title : String) (now : Nat) :
      Session.autosave { s with selection, title, now } =
        if s.moves { s with selection, title, now } then s.autosave.schedule s.now else s.autosave := by
    simp [moves]
  have closing (selection : Selection) (gesture : Gesture) :=
    ((defers_finishEdit sound).looks (u := { s.finishEdit with selection, gesture }) rfl rfl rfl).autosave
  cases a with
  | press | maybeSave | saveNow => cases direct
  | startEdit seed => exact (s.defers_startEdit seed).autosave
  | setEditText text =>
    rw [perform, setEditText_eq]
    exact (s.defers_typed text).autosave
  | typeChar c =>
    rw [perform, typeChar_eq]
    exact (s.defers_typed _).autosave
  | backspace => exact s.defers_backspace.autosave
  | cancelEdit => exact s.defers_cancelEdit.autosave
  | resizeDrag size => exact (s.defers_resizeDrag size).autosave
  | run c => exact (defers_run sound c).autosave
  | cut => exact (defers_cut sound).autosave
  | paste => exact (defers_paste sound).autosave
  | addSheet => exact (defers_addSheet sound).autosave
  | renameSheet i name =>
    rw [putsOff, perform_renameSheet_snd]
    exact (defers_renameSheet sound i name).autosave
  | deleteSheet i => exact (defers_deleteSheet sound i).autosave
  | importCsv content => exact (defers_importCsv sound content).autosave
  | importCsvFile content => exact (defers_importCsv sound _).autosave
  | undo => exact (defers_travel sound strides_undo).autosave
  | redo => exact (defers_travel sound strides_redo).autosave
  | confirmEdit => exact (defers_finishEdit sound).autosave
  | confirmAndMove | selectCell | fillHandleDown | resizeHandleDown => exact closing _ _
  | mouseDown p shift => cases shift <;> exact closing _ _
  | copy => exact (defers_copy sound).autosave
  | mouseUp => exact (defers_mouseUp sound).autosave
  | switchSheet i => exact (defers_switchSheet sound i).autosave
  | mouseEnter p => exact (s.defers_mouseEnter p).autosave
  | selectAll | moveSelection | extendSelection | setTitle | advance => exact still _ _ _

/-- All actions but saves put the save off if they are touches, and else leave it alone. -/
theorem autosave_perform (sound : Sound (fun _ => True) s) {a : Action} (silent : mayWrite a = false) :
    (s.perform a).2.autosave = if s.touches a then s.autosave.schedule s.now else s.autosave := by
  by_cases direct : isDirect a = true
  · have same : s.touches a = s.putsOff a := by
      cases a with
      | press => cases direct
      | _ => rfl
    rw [same]
    exact autosave_putsOff sound direct
  · cases a with
    | press k m =>
      have does := s.does_press k m
      change (s.press k m).2.autosave = if (keyAction k m s).any (putsOff · s) then _ else _
      cases stands : keyAction k m s with
      | none =>
        rw [stands] at does
        obtain ⟨selection, same⟩ := does
        rw [same]
        rfl
      | some a =>
        rw [stands] at does
        rw [show (s.press k m).2 = (s.perform a).2 from does]
        exact autosave_putsOff sound (isDirect_keyAction stands)
    | maybeSave | saveNow => cases silent
    | _ => exact absurd rfl direct

end Perform

end Spreadsheet.Session
