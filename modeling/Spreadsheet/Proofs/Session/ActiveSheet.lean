import Spreadsheet.Proofs.Session.OpenEdit

/-! The active sheet. All along a run it is one of the workbook's sheets, an open edit is on it, every snapshot has a
sheet, and one snapshot is current; deleting another sheet leaves the same one active, at the place it has moved to. -/
namespace Spreadsheet

theorem deleteIndex_of_ne {i j : Nat} (other : i ≠ j) : deleteIndex i j = some (if i < j then j - 1 else j) := by
  rw [deleteIndex, if_neg (Ne.symm other)]
  rcases Nat.lt_or_gt_of_ne other with before | behind
  · rw [if_neg (Nat.not_lt_of_gt before), if_pos before]
  · rw [if_pos behind, if_neg (Nat.not_lt_of_gt behind)]

theorem getElem?_eraseIdx_of_ne {α : Type} (l : List α) {i j : Nat} (other : i ≠ j) :
    (l.eraseIdx i)[if i < j then j - 1 else j]? = l[j]? := by
  rw [List.getElem?_eraseIdx]
  rcases Nat.lt_or_gt_of_ne other with before | behind
  · rw [if_pos before, if_neg (by omega), Nat.sub_add_cancel (Nat.zero_lt_of_lt before)]
  · rw [if_neg (Nat.not_lt_of_gt behind), if_pos behind]

namespace Session

variable {γ σ : Type} {s t : Session γ σ}

/-- An open edit is on the active sheet. -/
def Anchored (s : Session γ σ) : Prop := ∀ e, s.edit = some e → e.sheet = s.activeSheet

theorem Anchored.editing (anchored : s.Anchored) : s.editing.sheet = s.activeSheet := by
  cases found : s.edit with
  | some e =>
    rw [editing_of_some found]
    exact anchored e found
  | none => rw [editing_of_none found]

theorem Course.anchored (anchored : s.Anchored) (course : Course s t) : t.Anchored := by
  intro e after
  cases course with
  | closed edit => cases edit.symm.trans after
  | kept edit _ activeSheet _ => exact (anchored e (edit.symm.trans after)).trans activeSheet.symm
  | opened | typed =>
    obtain rfl := Option.some.inj after
    exact anchored.editing

theorem anchored_mouseUp (anchored : s.Anchored) : s.mouseUp.Anchored := by
  have active : s.mouseUp.activeSheet = s.activeSheet := by
    rcases s.mouseUp_cases with ⟨_, _, _, _, released⟩ | ⟨_, released⟩
    · rw [released]
      exact activeSheet_commit _
    · rw [released]
  intro e after
  rw [active]
  exact anchored e (s.edit_mouseUp.symm.trans after)

theorem anchored_perform [Clipboard γ] [Archive σ] (sited : s.Sited) (anchored : s.Anchored) (a : Action) :
    (s.perform a).2.Anchored := by
  by_cases released : a = .mouseUp
  · subst released
    exact anchored_mouseUp anchored
  · exact (course_perform sited released).anchored anchored

theorem deleteSheet_of_ne (sited : s.Sited) {i : Nat} (other : i ≠ s.activeSheet)
    (deleted : (s.deleteSheet i).1 = true) :
    (s.deleteSheet i).2.workbook.sheets = s.workbook.sheets.eraseIdx i ∧
      (s.deleteSheet i).2.activeSheet = (if i < s.activeSheet then s.activeSheet - 1 else s.activeSheet) ∧
      (s.deleteSheet i).2.sheet = s.sheet := by
  rcases s.deleteSheet_cases i with ⟨_, kept⟩ | ⟨_, _, active, _, follows, removed⟩
  · rw [kept] at deleted
    cases deleted
  · obtain rfl := Option.some.inj ((follows other).symm.trans (deleteIndex_of_ne other))
    rw [removed, workbook_commit, activeSheet_commit, sheet_commit]
    refine ⟨rfl, rfl, ?_⟩
    have found := (getElem?_eraseIdx_of_ne s.workbook.sheets other).trans sited.sheet?_eq
    exact congrArg (Option.getD · .default) found

section Run

variable [Clipboard γ] [Archive σ] {first : Session γ σ}

theorem anchored_performAll (begins : Begins (fun _ => True) first) (actions : List Action) :
    (performAll actions first).Anchored := by
  have closed : first.edit = none := by cases begins <;> rfl
  have kept (s : Session γ σ) (a : Action) (both : Sound (fun _ => True) s ∧ s.Anchored) :
      Sound (fun _ => True) (s.perform a).2 ∧ (s.perform a).2.Anchored :=
    ⟨both.1.perform Sheet.lasting_any a, anchored_perform both.1.sited both.2 a⟩
  have anchored : first.Anchored := fun e opened => nomatch closed.symm.trans opened
  exact (Run.keeps kept ⟨sound_begins Sheet.lasting_any begins, anchored⟩ actions).2

/-- After every run there is an active sheet, which an open edit is on, and a current snapshot, every one with a sheet;
and a deletion of another sheet leaves the active sheet active. -/
theorem activeSheet_performAll (begins : Begins (fun _ => True) first) (actions : List Action) :
    let s := performAll actions first
    (s.workbook.sheets ≠ [] ∧ s.activeSheet < s.workbook.sheetCount ∧
      s.workbook.sheet? s.activeSheet = some s.sheet) ∧
      ((∀ sheets ∈ s.history.entries, sheets ≠ []) ∧ ∃ sheets, s.history.current? = some sheets) ∧
      (∀ e, s.edit = some e → e.sheet = s.activeSheet) ∧
      ∀ i, i ≠ s.activeSheet → (s.deleteSheet i).1 = true →
        (s.deleteSheet i).2.workbook.sheets = s.workbook.sheets.eraseIdx i ∧
          (s.deleteSheet i).2.activeSheet = (if i < s.activeSheet then s.activeSheet - 1 else s.activeSheet) ∧
          (s.deleteSheet i).2.sheet = s.sheet := by
  intro s
  have sound : Sound (fun _ => True) s := sound_performAll Sheet.lasting_any begins actions
  obtain ⟨sheets, current, _⟩ := sound.history.exists_current
  refine ⟨⟨sound.sheets.1, sound.sited, sound.sited.sheet?_eq⟩, ⟨?_, sheets, current⟩,
    anchored_performAll begins actions, fun _ => deleteSheet_of_ne sound.sited⟩
  exact fun sheets inside => (sound.history.kept sheets inside).1

/-- Two sheets are added, a deletion of the last one is undone, and a letter is typed on it. -/
def juggled : List Action := [.addSheet, .addSheet, .deleteSheet 2, .undo, .switchSheet 2, .typeChar 'x']

theorem activeSheet_performAll_juggled :
    Begins (fun _ => True) fresh ∧ 0 ≠ (performAll juggled fresh).activeSheet ∧
      ((performAll juggled fresh).deleteSheet 0).1 = true ∧
      ((performAll juggled fresh).deleteSheet 0).2.activeSheet = 1 ∧
      ((performAll juggled fresh).deleteSheet 0).2.sheet = (performAll juggled fresh).sheet := by
  have begins : Begins (fun _ => True) fresh := begins_fresh trivial
  have other : 0 ≠ (performAll juggled fresh).activeSheet := by decide +kernel
  have deleted : ((performAll juggled fresh).deleteSheet 0).1 = true := by decide +kernel
  obtain ⟨_, active, sheet⟩ := (activeSheet_performAll begins juggled).2.2.2 0 other deleted
  exact ⟨begins, other, deleted, active.trans (by decide +kernel), sheet⟩

end Run

end Session

end Spreadsheet
