import Spreadsheet.Proofs.Session.Typing

/-! What becomes of an open edit. An action closes it, leaves it and its cell alone, or types; then nothing was recorded,
and the cell holds the text typed so far. The one action that does none of these is the release of a fill: it writes and
records with the edit still open. -/
namespace Spreadsheet

/-- The second edit is of the same cell as the first, and puts the same text back. -/
structure OpenEdit.Continues (e e' : OpenEdit) : Prop where
  sheet : e'.sheet = e.sheet
  position : e'.position = e.position
  previous : e'.previous = e.previous

theorem OpenEdit.continues_self (e : OpenEdit) : e.Continues e := ⟨rfl, rfl, rfl⟩

namespace Session

variable {γ σ : Type} {s t : Session γ σ} {e : OpenEdit}

/-- The edited cell is one of the active sheet and holds the text typed so far. -/
structure Shows (s : Session γ σ) (e : OpenEdit) : Prop where
  sheet : e.sheet = s.activeSheet
  raw : s.sheet.raw e.position = e.buffer

def Mirrors (s : Session γ σ) : Prop := ∀ e, s.edit = some e → s.Shows e

/-- An edit that stays open is the same one, nothing is recorded meanwhile, and its cell holds its text. -/
def Respects (s t : Session γ σ) : Prop :=
  ∀ e e', s.edit = some e → t.edit = some e' → e.Continues e' ∧ t.history = s.history ∧ t.Shows e'

/-- What an action does about the open edit: it closes it, leaves it and all cells alone, opens one, or types. -/
inductive Course (s : Session γ σ) : Session γ σ → Prop
  | closed {t : Session γ σ} (edit : t.edit = none) : Course s t
  | kept {t : Session γ σ} (edit : t.edit = s.edit) (history : t.history = s.history)
      (activeSheet : t.activeSheet = s.activeSheet) (raw : t.sheet.raw = s.sheet.raw) : Course s t
  | opened : Course s { s with edit := some s.editing }
  | typed (text : String) : Course s (s.typed text)

theorem Course.refl (s : Session γ σ) : Course s s := .kept rfl rfl rfl rfl

theorem shows_editing (mirrors : s.Mirrors) : s.Shows s.editing := by
  cases found : s.edit with
  | some e =>
    rw [editing_of_some found]
    exact mirrors e found
  | none =>
    rw [editing_of_none found]
    exact ⟨rfl, rfl⟩

theorem shows_typed (sited : s.Sited) (mirrors : s.Mirrors) (text : String) :
    (s.typed text).Shows { s.editing with buffer := text } := by
  have active := (shows_editing mirrors).sheet
  refine ⟨active, ?_⟩
  have sheet : (s.typed text).sheet = s.sheet.setValue s.editing.position text := by
    rw [← sheet_modifySheet sited (·.setValue s.editing.position text), sheet, sheet, typed, touch, modifySheet, active]
  rw [sheet, Sheet.raw_setValue, if_pos rfl]

theorem Course.mirrors (sited : s.Sited) (mirrors : s.Mirrors) (course : Course s t) : t.Mirrors := by
  intro e after
  cases course with
  | closed edit => cases edit.symm.trans after
  | kept edit history activeSheet raw =>
    obtain ⟨active, text⟩ := mirrors e (edit.symm.trans after)
    exact ⟨active.trans activeSheet.symm, (congrFun raw _).trans text⟩
  | opened =>
    obtain rfl := Option.some.inj after
    have shown := shows_editing mirrors
    exact ⟨shown.sheet, shown.raw⟩
  | typed text =>
    obtain rfl := Option.some.inj after
    exact shows_typed sited mirrors text

theorem Course.respects (sited : s.Sited) (mirrors : s.Mirrors) (course : Course s t) : Respects s t := by
  intro e e' before after
  have there := course.mirrors sited mirrors e' after
  cases course with
  | closed edit => cases edit.symm.trans after
  | kept edit history _ _ =>
    obtain rfl := Option.some.inj (before.symm.trans (edit.symm.trans after))
    exact ⟨e.continues_self, history, there⟩
  | opened =>
    obtain rfl := Option.some.inj after
    obtain rfl : s.editing = e := editing_of_some before
    exact ⟨s.editing.continues_self, rfl, there⟩
  | typed text =>
    obtain rfl := Option.some.inj after
    obtain rfl : s.editing = e := editing_of_some before
    exact ⟨⟨rfl, rfl, rfl⟩, rfl, there⟩

theorem course_startEdit (s : Session γ σ) (seed : Option String) : Course s (s.startEdit seed) := by
  cases found : s.edit with
  | some e =>
    rw [startEdit_of_some found]
    exact .refl s
  | none =>
    rw [startEdit_of_none found]
    split
    · exact .opened
    · exact .typed _

theorem course_setEditText (s : Session γ σ) (text : String) : Course s (s.setEditText text) := by
  rw [setEditText_eq]
  exact .typed text

theorem course_typeChar (s : Session γ σ) (c : Char) : Course s (s.typeChar c) := by
  rw [typeChar_eq]
  exact .typed _

theorem course_backspace (s : Session γ σ) : Course s s.backspace := by
  cases found : s.edit with
  | some e =>
    rw [backspace_eq found]
    exact .typed _
  | none =>
    have nothing : (s.setBuffer dropLastChar).edit = none := by
      rw [setBuffer, found]
      rfl
    rw [backspace, writeBuffer, nothing]
    exact .kept (nothing.trans found.symm) rfl rfl rfl

theorem course_cancelEdit (s : Session γ σ) : Course s s.cancelEdit := by
  unfold cancelEdit
  split
  · exact .refl s
  · exact .closed rfl

theorem course_select (s : Session γ σ) (selection : Selection) : Course s { s with selection } := .kept rfl rfl rfl rfl

theorem edit_confirmAndMove (s : Session γ σ) (dr dc : Int) : (s.confirmAndMove dr dc).edit = none := by
  rw [confirmAndMove, moveSelection, select]
  exact edit_finishEdit s

theorem course_mouseEnter (s : Session γ σ) (p : Position) : Course s (s.mouseEnter p) := by
  unfold mouseEnter
  dsimp only
  split
  · exact .kept rfl rfl rfl rfl
  · exact s.course_select _
  · exact .refl s

theorem course_resizeDrag (sited : s.Sited) (size : Nat) : Course s (s.resizeDrag size) := by
  unfold resizeDrag
  split
  next axis index _ =>
    refine .kept rfl rfl rfl ?_
    have sheet : (s.modifySheet (·.setSize axis index size)).sheet = s.sheet.setSize axis index size :=
      sheet_modifySheet sited _
    change (s.modifySheet (·.setSize axis index size)).sheet.raw = s.sheet.raw
    rw [sheet]
    cases axis <;> rfl
  next => exact .refl s

theorem edit_run (s : Session γ σ) (c : Command) : (s.run c).edit = none := (edit_commit _).trans (edit_finishEdit s)

theorem edit_travel (step : History (List Sheet) → Option (List Sheet) × History (List Sheet)) (s : Session γ σ) :
    (s.travel step).2.edit = none := by
  rcases s.travel_cases step with stays | ⟨_, _, _, goes⟩
  · rw [stays]
    exact edit_settled s
  · rw [goes]
    exact edit_settled s

theorem edit_addSheet (s : Session γ σ) : s.addSheet.2.edit = none := (edit_commit _).trans (edit_finishEdit s)

theorem edit_renameSheet (s : Session γ σ) (i : Nat) (name : String) : (s.renameSheet i name).2.edit = none := by
  unfold renameSheet
  dsimp only
  split
  · exact edit_finishEdit s
  · exact (edit_commit _).trans (edit_finishEdit s)

theorem edit_deleteSheet (s : Session γ σ) (i : Nat) : (s.deleteSheet i).2.edit = none := by
  rcases s.deleteSheet_cases i with ⟨_, kept⟩ | ⟨_, _, active, _, _, deleted⟩
  · rw [kept]
    exact edit_finishEdit s
  · rw [deleted]
    exact (edit_commit _).trans (edit_finishEdit s)

theorem edit_importCsv (s : Session γ σ) (content : String) : (s.importCsv content).edit = none := by
  unfold importCsv
  dsimp only
  split
  · exact (edit_commit _).trans (edit_finishEdit s)
  · exact edit_finishEdit s

theorem course_switchSheet (s : Session γ σ) (i : Nat) : Course s (s.switchSheet i).2 := by
  rcases s.switchSheet_cases i with ⟨_, switched⟩ | ⟨_, same⟩
  · rw [switched]
    exact .closed (edit_finishEdit s)
  · rw [same]
    exact .refl s

theorem course_editKey (s : Session γ σ) (k : Key) (shift : Bool) : Course s (s.editKey k shift).2 := by
  cases k with
  | enter | tab => exact .closed (s.edit_confirmAndMove _ _)
  | escape => exact s.course_cancelEdit
  | backspace => exact s.course_backspace
  | char c =>
    unfold editKey
    dsimp only
    split
    · exact .refl s
    · exact s.course_typeChar c
  | delete | up | down | left | right | f2 => exact .refl s

theorem course_gridKey (s : Session γ σ) (k : Key) (shift : Bool) : Course s (s.gridKey k shift).2 := by
  cases k with
  | up | down | left | right => cases shift <;> exact s.course_select _
  | enter | tab | escape => exact s.course_select _
  | delete | backspace => exact .closed (edit_run s _)
  | f2 => exact s.course_startEdit none
  | char c =>
    unfold gridKey
    dsimp only
    split
    · exact .refl s
    · exact s.course_startEdit _

section Clipboard

variable [Clipboard γ]

theorem edit_copy (s : Session γ σ) : s.copy.2.edit = none := edit_finishEdit s

theorem edit_cut (s : Session γ σ) : s.cut.edit = none := by
  unfold cut
  dsimp only
  split
  · exact edit_run _ _
  · exact edit_copy s

theorem edit_paste (s : Session γ σ) : s.paste.edit = none := by
  unfold paste
  dsimp only
  split
  · exact edit_finishEdit s
  · split
    · exact (edit_commit _).trans (edit_finishEdit s)
    · exact edit_finishEdit s

theorem course_shortcut (s : Session γ σ) (c : Char) (shift : Bool) : Course s (s.shortcut c shift).2 := by
  unfold shortcut
  split
  · exact .refl s
  · split
    next =>
      cases shift with
      | false => exact .closed (edit_travel _ s)
      | true => exact .closed (edit_travel _ s)
    next => exact .closed (edit_travel _ s)
    next => exact .closed (edit_copy s)
    next => exact .closed (edit_cut s)
    next => exact .closed (edit_paste s)
    next => exact s.course_select _
    all_goals first | exact .closed (edit_run s _) | exact .refl s

theorem course_press (s : Session γ σ) (k : Key) (m : Modifiers) : Course s (s.press k m).2 := by
  unfold press
  split
  · split
    · exact s.course_shortcut _ _
    · exact .refl s
  · split
    · exact s.course_editKey k _
    · exact s.course_gridKey k _

theorem course_perform [Archive σ] (sited : s.Sited) {a : Action} (other : a ≠ .mouseUp) : Course s (s.perform a).2 := by
  have saved := s.perform_save_eq (a := a)
  cases a with
  | press k m => exact s.course_press k m
  | startEdit seed => exact s.course_startEdit seed
  | setEditText text => exact s.course_setEditText text
  | typeChar c => exact s.course_typeChar c
  | backspace => exact s.course_backspace
  | confirmEdit | selectCell => exact .closed (edit_finishEdit s)
  | confirmAndMove dr dc => exact .closed (s.edit_confirmAndMove dr dc)
  | cancelEdit => exact s.course_cancelEdit
  | selectAll | moveSelection | extendSelection => exact s.course_select _
  | mouseDown p shift => cases shift <;> exact .closed (edit_finishEdit s)
  | mouseEnter p => exact s.course_mouseEnter p
  | mouseUp => exact absurd rfl other
  | fillHandleDown | resizeHandleDown => exact .closed (edit_finishEdit s)
  | resizeDrag size => exact course_resizeDrag sited size
  | run c => exact .closed (edit_run s c)
  | copy => exact .closed (edit_copy s)
  | cut => exact .closed (edit_cut s)
  | paste => exact .closed (edit_paste s)
  | addSheet => exact .closed (edit_addSheet s)
  | renameSheet i name =>
    rw [perform_renameSheet_snd]
    exact .closed (edit_renameSheet s i name)
  | deleteSheet i => exact .closed (edit_deleteSheet s i)
  | switchSheet i => exact s.course_switchSheet i
  | importCsv content => exact .closed (edit_importCsv s content)
  | importCsvFile content => exact .closed (edit_importCsv s _)
  | undo | redo => exact .closed (edit_travel _ s)
  | setTitle | advance => exact .kept rfl rfl rfl rfl
  | maybeSave | saveNow =>
    obtain ⟨_, _, same⟩ := saved (by simp)
    rw [same]
    exact .kept rfl rfl rfl rfl

end Clipboard

/-- A fill is released over an open edit, and it is recorded, or writes another text into the edited cell. -/
def Intrudes (a : Action) (s : Session γ σ) : Prop :=
  a = .mouseUp ∧ ∃ e origin target, s.edit = some e ∧ s.gesture = .filling origin target ∧ origin ≠ target ∧
    (s.history.current? ≠ some (s.workbook.modifySheet s.activeSheet fun _ => (s.sheet.autofill origin target).2).sheets ∨
      (s.sheet.autofill origin target).2.raw e.position ≠ e.buffer)

theorem edit_mouseUp (s : Session γ σ) : s.mouseUp.edit = s.edit := by
  rcases s.mouseUp_cases with ⟨_, _, _, _, released⟩ | ⟨_, released⟩
  · rw [released]
    exact edit_commit _
  · rw [released]

theorem history_commit_iff {P : List Sheet → Prop} (sound : s.history.Sound P) :
    s.commit.history = s.history ↔ s.IsRecorded := by
  constructor
  · intro same
    by_contra unrecorded
    have pushed : s.commit.history = s.history.push s.workbook.sheets := congrArg Session.history (if_neg unrecorded)
    have current := (History.advances_push sound s.workbook.sheets).current?_eq
    rw [← pushed, same] at current
    exact unrecorded current
  · exact fun recorded => congrArg Session.history (commit_of_isRecorded recorded)

theorem respects_mouseUp_iff {Q : Sheet → Prop} (sound : Sound Q s) (mirrors : s.Mirrors) :
    Respects s s.mouseUp ↔ ¬Intrudes .mouseUp s := by
  rcases s.mouseUp_cases with ⟨origin, target, filling, differ, released⟩ | ⟨still, released⟩
  · have edit := s.edit_mouseUp
    have active : s.mouseUp.activeSheet = s.activeSheet := by
      rw [released]
      exact activeSheet_commit _
    have sheet : s.mouseUp.sheet = (s.sheet.autofill origin target).2 := by
      rw [released, sheet_commit]
      exact sheet_modifySheet sound.sited fun _ => (s.sheet.autofill origin target).2
    have history : s.mouseUp.history = s.history ↔ s.history.current? =
        some (s.workbook.modifySheet s.activeSheet fun _ => (s.sheet.autofill origin target).2).sheets := by
      rw [released]
      exact history_commit_iff sound.history
    constructor
    · rintro respects ⟨_, e, origin', target', opened, filling', _, disturbs⟩
      obtain ⟨rfl, rfl⟩ := Gesture.filling.inj (filling.symm.trans filling')
      obtain ⟨_, kept, shows⟩ := respects e e opened (edit.trans opened)
      rcases disturbs with recorded | written
      · exact recorded (history.1 kept)
      · exact written (sheet ▸ shows.raw)
    · intro stays e e' before after
      obtain rfl := Option.some.inj (before.symm.trans (edit.symm.trans after))
      have intrudes (disturbs : _ ∨ _) : Intrudes .mouseUp s := ⟨rfl, e, origin, target, before, filling, differ, disturbs⟩
      refine ⟨e.continues_self, ?_, (mirrors e before).sheet.trans active.symm, ?_⟩
      · by_contra recorded
        exact stays (intrudes (.inl (mt history.2 recorded)))
      · by_contra written
        rw [sheet] at written
        exact stays (intrudes (.inr written))
  · rw [released]
    refine iff_of_true ?_ ?_
    · exact Course.respects sound.sited mirrors (.kept rfl rfl rfl rfl)
    · rintro ⟨_, e, origin, target, _, filling, differ, _⟩
      exact differ (still origin target filling)

section Run

variable [Clipboard γ] [Archive σ] {first : Session γ σ}

/-- All along a run an edit that stays open keeps the history and its cell to itself, exactly if no fill intrudes. -/
theorem respects_run_iff (begins : Begins (fun _ => True) first) (actions : List Action) :
    (∀ before a, before ++ [a] <+: actions → Respects (performAll before first) (performAll (before ++ [a]) first)) ↔
      ∀ before a, before ++ [a] <+: actions → ¬Intrudes a (performAll before first) := by
  have closed : first.edit = none := by cases begins <;> rfl
  have mirrors : first.Mirrors := fun e opened => nomatch closed.symm.trans opened
  have kept (s : Session γ σ) (a : Action) (sound : Sound (fun _ => True) s) : Sound (fun _ => True) (s.perform a).2 :=
    sound.perform Sheet.lasting_any a
  have breaks (s : Session γ σ) (a : Action) (sound : Sound (fun _ => True) s) (mirrors : s.Mirrors) :
      Respects s (s.perform a).2 ↔ ¬Intrudes a s := by
    by_cases released : a = .mouseUp
    · subst released
      exact respects_mouseUp_iff sound mirrors
    · have course := course_perform sound.sited released
      exact iff_of_true (course.respects sound.sited mirrors) fun intrudes => released intrudes.1
  have next (s : Session γ σ) (a : Action) (sound : Sound (fun _ => True) s) (mirrors : s.Mirrors)
      (respects : Respects s (s.perform a).2) : (s.perform a).2.Mirrors := by
    by_cases released : a = .mouseUp
    · subst released
      exact fun e after => (respects e e (s.edit_mouseUp.symm.trans after) after).2.2
    · exact (course_perform sound.sited released).mirrors sound.sited mirrors
  exact Run.forall_step_iff kept next breaks (sound_begins Sheet.lasting_any begins) mirrors actions

/-- A fill begins and is dragged down, and a letter is typed where it began. -/
def typedOver : List Action := [.fillHandleDown, .mouseEnter ⟨1, 0⟩, .typeChar 'x']

theorem intrudes_typedOver : Begins (fun _ => True) fresh ∧ Intrudes .mouseUp (performAll typedOver fresh) ∧
    ¬∀ before a, before ++ [a] <+: typedOver ++ [.mouseUp] →
      Respects (performAll before fresh) (performAll (before ++ [a]) fresh) := by
  have begins : Begins (fun _ => True) fresh := begins_fresh trivial
  have intrudes : Intrudes .mouseUp (performAll typedOver fresh) :=
    ⟨rfl, ⟨0, ⟨0, 0⟩, "", "x"⟩, ⟨0, 0⟩, ⟨1, 0⟩, by decide +kernel, by decide +kernel, by decide, .inl (by decide +kernel)⟩
  exact ⟨begins, intrudes, fun all =>
    (respects_run_iff begins _).1 all typedOver .mouseUp List.prefix_rfl intrudes⟩

/-- The released fill records the letter while its edit is still open. -/
theorem not_respects_typedOver :
    Begins (fun _ => True) fresh ∧ ¬Respects (performAll typedOver fresh) (performAll (typedOver ++ [.mouseUp]) fresh) := by
  refine ⟨begins_fresh trivial, fun respects => ?_⟩
  have recorded : (performAll (typedOver ++ [.mouseUp]) fresh).history ≠ (performAll typedOver fresh).history := by
    decide +kernel
  exact recorded (respects ⟨0, ⟨0, 0⟩, "", "x"⟩ ⟨0, ⟨0, 0⟩, "", "x"⟩ (by decide +kernel) (by decide +kernel)).2.1

end Run

end Session

end Spreadsheet
