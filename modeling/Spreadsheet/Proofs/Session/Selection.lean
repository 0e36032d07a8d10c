import Spreadsheet.Proofs.Session.Sound

/-! Selections inside the active sheet. Every step keeps the selection there, except for the release of a fill: it selects
from the cell where the fill began to the one that was reached, whatever has become of the sheet since. -/
namespace Spreadsheet

theorem Workbook.bounds_modifySheet {f : Sheet → Sheet}
    (bounds : ∀ s, (f s).rows.count = s.rows.count ∧ (f s).cols.count = s.cols.count) (i j : Nat) (w : Workbook) :
    (((w.modifySheet i f).sheet? j).getD .default).rows.count = ((w.sheet? j).getD .default).rows.count ∧
      (((w.modifySheet i f).sheet? j).getD .default).cols.count = ((w.sheet? j).getD .default).cols.count := by
  rw [sheet?, modifySheet, List.getElem?_modify, sheet?]
  cases w.sheets[j]? with
  | none => exact ⟨rfl, rfl⟩
  | some s =>
    by_cases same : i = j
    · simpa [same] using bounds s
    · simp [same]

namespace Session

variable {γ σ : Type} {s t : Session γ σ}

theorem Inside.modify {i : Nat} {f : Sheet → Sheet} (inside : s.Inside)
    (bounds : ∀ s, (f s).rows.count = s.rows.count ∧ (f s).cols.count = s.cols.count)
    (workbook : t.workbook = s.workbook.modifySheet i f) (activeSheet : t.activeSheet = s.activeSheet)
    (selection : t.selection = s.selection) : t.Inside := by
  obtain ⟨rows, cols⟩ := Workbook.bounds_modifySheet bounds i s.activeSheet s.workbook
  rw [Inside, Selection.Within] at inside ⊢
  rw [selection]
  simp only [Sheet.inBounds_iff, sheet, workbook, activeSheet, rows, cols] at inside ⊢
  exact inside

theorem inside_commit_iff : s.commit.Inside ↔ s.Inside := by
  rw [Inside, Inside, selection_commit, sheet_commit]

theorem inside_clampSelection (spacious : s.sheet.Spacious) : s.clampSelection.Inside :=
  spacious.within_clampTo s.selection

theorem inside_change (sound : Sound Sheet.Spacious s) (inside : s.Inside) (change : Change s t) : t.Inside := by
  cases change with
  | look same inside' _ => exact inside' inside
  | write i edit bounds => exact inside.modify bounds rfl rfl rfl
  | commit => exact inside_commit_iff.2 inside
  | @revise _ selection edited within =>
    obtain ⟨edits, rfl⟩ := edited
    have spacious : (Sheet.applyAll edits s.sheet).Spacious :=
      Sheet.stable_spacious.applyAll sound.sheet fun _ _ => trivial
    rw [inside_commit_iff]
    change selection.Within (s.modifySheet fun _ => Sheet.applyAll edits s.sheet).sheet
    rw [sheet_modifySheet sound.sited]
    exact within sound.sited spacious
  | rename i name =>
    refine inside_commit_iff.2 (inside.modify (f := fun sheet => { sheet with name }) ?_ rfl rfl rfl)
    exact fun _ => ⟨rfl, rfl⟩
  | @restore sheets history moved =>
    have there : Sound Sheet.Spacious (restore sheets { s with history }) :=
      sound.change Sheet.lasting_spacious (.restore moved)
    exact inside_clampSelection there.sheet

theorem inside_changes (sound : Sound Sheet.Spacious s) (inside : s.Inside) (changes : Changes s t) : t.Inside := by
  induction changes with
  | refl => exact inside
  | tail before change ih => exact inside_change (sound.changes Sheet.lasting_spacious before) ih change

/-- The pointer is released where a fill has led, and the selection leaves the sheet. -/
def Overshoots (a : Action) (s : Session γ σ) : Prop :=
  a = .mouseUp ∧ ∃ origin target, s.gesture = .filling origin target ∧ origin ≠ target ∧
    ¬(Selection.mk origin target).Within s.sheet

theorem inside_mouseUp_iff (sited : s.Sited) (inside : s.Inside) : s.mouseUp.Inside ↔ ¬Overshoots .mouseUp s := by
  rcases s.mouseUp_cases with ⟨origin, target, filling, differ, released⟩ | ⟨still, released⟩
  · have within : s.mouseUp.Inside ↔ (Selection.mk origin target).Within s.sheet := by
      -- filling changes neither number, so that it is the same to be inside before and after
      obtain ⟨rows, cols⟩ := Sheet.bounds_autofill origin target s.sheet
      rw [released, inside_commit_iff, Inside]
      change (Selection.mk origin target).Within (s.modifySheet fun _ => (s.sheet.autofill origin target).2).sheet ↔ _
      rw [sheet_modifySheet sited, Selection.Within, Selection.Within]
      simp only [Sheet.inBounds_iff, rows, cols]
    rw [within]
    constructor
    · rintro within ⟨_, origin', target', filling', _, outside⟩
      obtain ⟨rfl, rfl⟩ := Gesture.filling.inj (filling.symm.trans filling')
      exact outside within
    · intro stays
      by_contra outside
      exact stays ⟨rfl, origin, target, filling, differ, outside⟩
  · rw [released]
    refine iff_of_true inside ?_
    rintro ⟨_, origin, target, filling, differ, _⟩
    exact differ (still origin target filling)

section Step

variable [Clipboard γ] [Archive σ] (sound : Sound Sheet.Spacious s) (inside : s.Inside)
include sound inside

theorem inside_perform {a : Action} (other : a ≠ .mouseUp) : (s.perform a).2.Inside := by
  cases plain : isPlain a with
  | true => exact inside_changes sound inside (s.changes_perform plain)
  | false =>
    have finished : s.finishEdit.Inside := inside_changes sound inside s.changes_finishEdit
    have there := sound.perform Sheet.lasting_spacious a
    have saved := s.perform_save_eq (a := a)
    cases a with
    | mouseUp => exact absurd rfl other
    | fillHandleDown => exact ⟨finished.1, finished.1⟩
    | resizeHandleDown => exact finished
    | addSheet =>
      have first : (s.perform .addSheet).2.selection = {} := selection_commit _
      rw [Inside, first]
      exact there.sheet.within_origin
    | deleteSheet i =>
      change Sound Sheet.Spacious (s.deleteSheet i).2 at there
      change (s.deleteSheet i).2.Inside
      rcases s.deleteSheet_cases i with ⟨_, kept⟩ | ⟨_, _, active, _, _, deleted⟩
      · rw [kept]
        exact finished
      · rw [deleted] at there ⊢
        have spacious := there.sheet
        rw [sheet_commit] at spacious
        exact inside_commit_iff.2 (inside_clampSelection spacious)
    | switchSheet i =>
      change Sound Sheet.Spacious (s.switchSheet i).2 at there
      change (s.switchSheet i).2.Inside
      rcases s.switchSheet_cases i with ⟨_, switched⟩ | ⟨_, same⟩
      · rw [switched] at there ⊢
        exact there.sheet.within_origin
      · rw [same]
        exact inside
    | maybeSave | saveNow =>
      obtain ⟨_, _, same⟩ := saved (by simp)
      rw [same]
      exact inside
    | _ => cases plain

end Step

/-- All workbooks of a run fit. -/
def FitsAlong [Clipboard γ] [Archive σ] (actions : List Action) (first : Session γ σ) : Prop :=
  ∀ before, before <+: actions → (performAll before first).workbook.Fits

instance [Clipboard γ] [Archive σ] (actions : List Action) (first : Session γ σ) : Decidable (FitsAlong actions first) :=
  inferInstanceAs (Decidable (∀ before, before <+: actions → (performAll before first).workbook.Fits))

/-- All along a run the selection lies inside the active sheet, exactly if no fill is released outside of it. This is about
runs whose workbooks fit, where no bound of a sheet has run out of words. -/
theorem inside_run_iff [Clipboard γ] [Archive σ] {first : Session γ σ} (begins : Begins Sheet.Spacious first)
    {actions : List Action} : FitsAlong actions first →
    ((∀ before, before <+: actions → (performAll before first).Inside) ↔
      ∀ before a, before ++ [a] <+: actions → ¬Overshoots a (performAll before first)) := by
  intro _
  have sound := sound_begins Sheet.lasting_spacious begins
  have inside : first.Inside := by
    cases begins <;> exact sound.sheet.within_origin
  have kept (s : Session γ σ) (a : Action) (sound : Sound Sheet.Spacious s) : Sound Sheet.Spacious (s.perform a).2 :=
    sound.perform Sheet.lasting_spacious a
  have breaks (s : Session γ σ) (a : Action) (sound : Sound Sheet.Spacious s) (inside : s.Inside) :
      (s.perform a).2.Inside ↔ ¬Overshoots a s := by
    by_cases released : a = .mouseUp
    · subst released
      exact inside_mouseUp_iff sound.sited inside
    · exact iff_of_true (inside_perform sound inside released) fun overshoots => released overshoots.1
  exact Run.forall_prefix_iff kept breaks sound inside actions

/-- A fill begins in the last row and is dragged up, and then a row is deleted. -/
def shrunk : List Action := [.selectCell ⟨49, 0⟩, .fillHandleDown, .mouseEnter ⟨48, 0⟩, .run (.delete .row)]

theorem overshoots_shrunk : (Begins Sheet.Spacious fresh ∧ FitsAlong (shrunk ++ [.mouseUp]) fresh) ∧
    Overshoots .mouseUp (performAll shrunk fresh) ∧
    ¬∀ before, before <+: shrunk ++ [.mouseUp] → (performAll before fresh).Inside := by
  have begins : Begins Sheet.Spacious fresh := begins_fresh (Sheet.spacious_ofSize _ _ _)
  have fits : FitsAlong (shrunk ++ [.mouseUp]) fresh := by decide +kernel
  have overshoots : Overshoots .mouseUp (performAll shrunk fresh) :=
    ⟨rfl, ⟨49, 0⟩, ⟨48, 0⟩, by decide +kernel, by decide, by decide +kernel⟩
  exact ⟨⟨begins, fits⟩, overshoots,
    fun all => (inside_run_iff begins fits).1 all shrunk .mouseUp List.prefix_rfl overshoots⟩

/-- The released fill selects the row that is gone. -/
theorem not_inside_shrunk :
    Begins Sheet.Spacious fresh ∧ ¬(performAll (shrunk ++ [.mouseUp]) fresh).Inside :=
  ⟨begins_fresh (Sheet.spacious_ofSize _ _ _), by decide +kernel⟩

end Session

end Spreadsheet
