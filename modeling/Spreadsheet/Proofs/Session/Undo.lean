import Spreadsheet.Proofs.Session.Autosave
import Spreadsheet.Proofs.Session.Sound

/-! Undo and redo. Once its edit is closed and its sheets are recorded, a session stands at a snapshot of its history;
undo and redo go to the snapshots beside it without changing any, and so take each other back. A command that changes
the sheets adds the one snapshot that undo takes back. -/
namespace Spreadsheet

/-- The actions that change the document and record it: commands, exchange with the clipboard and with texts, the
management of sheets, and the release of the pointer. -/
def Action.isCommand : Action → Bool
  | .run _ | .cut | .paste | .importCsv _ | .importCsvFile _ => true
  | .addSheet | .renameSheet _ _ | .deleteSheet _ => true
  | .mouseUp => true
  | _ => false

namespace Session

variable {γ σ : Type} {s t : Session γ σ} {h : History (List Sheet)}

/-- The session has that history once it is settled, and so stands at its current snapshot. -/
structure Stands (h : History (List Sheet)) (s : Session γ σ) : Prop where
  sound : Sound (fun _ => True) s
  history : s.settled.history = h

/-- A step taken a number of times, if it succeeds each time. -/
def repeated (step : Session γ σ → Bool × Session γ σ) : Nat → Session γ σ → Option (Session γ σ)
  | 0, s => some s
  | k + 1, s => if (step s).1 then repeated step k (step s).2 else none

theorem edit_finishEdit (s : Session γ σ) : s.finishEdit.edit = none := by
  unfold finishEdit
  split
  next => rw [edit_commit]
  next closed => simpa using closed

theorem finishEdit_of_none (closed : s.edit = none) : s.finishEdit = s := if_neg (by simp [closed])

theorem IsRecorded.current (recorded : s.IsRecorded) : s.history.current? = some s.workbook.sheets := recorded

theorem commit_of_isRecorded (recorded : s.IsRecorded) : s.commit = s := if_pos recorded

theorem edit_settled (s : Session γ σ) : s.settled.edit = none := by rw [settled, edit_commit, edit_finishEdit]

theorem settled_of_isRecorded (closed : s.edit = none) (recorded : s.IsRecorded) : s.settled = s := by
  rw [settled, finishEdit_of_none closed, commit_of_isRecorded recorded]

theorem Sound.isRecorded_commit {Q : Sheet → Prop} (sound : Sound Q s) : s.commit.IsRecorded := by
  unfold Session.commit
  split
  next recorded => exact recorded
  next => exact (History.advances_push sound.history s.workbook.sheets).current?_eq

theorem sheets_restore {sheets : List Sheet} (inhabited : sheets ≠ []) (s : Session γ σ) :
    (s.restore sheets).workbook.sheets = sheets :=
  congrArg Workbook.sheets (if_neg (by simpa using inhabited))

theorem settled_restore {sheets : List Sheet} (inhabited : sheets ≠ []) (closed : s.edit = none)
    (current : s.history.current? = some sheets) : (s.restore sheets).settled = s.restore sheets := by
  have recorded : (s.restore sheets).IsRecorded := by
    rw [IsRecorded, sheets_restore inhabited]
    exact current
  exact settled_of_isRecorded closed recorded

namespace Stands

theorem settled (sound : Sound (fun _ => True) s) : Stands s.settled.history s := ⟨sound, rfl⟩

variable (stands : Stands h s)
include stands

theorem sound_settled : Sound (fun _ => True) s.settled := (stands.sound.finishEdit Sheet.lasting_any).commit

theorem sound_history : h.Sound (Sheets fun _ => True) := stands.history ▸ stands.sound_settled.history

theorem current : h.current? = some s.workbook.sheets := by
  have recorded := (stands.sound.finishEdit Sheet.lasting_any).isRecorded_commit
  rw [IsRecorded, workbook_commit, workbook_finishEdit] at recorded
  rw [← stands.history]
  exact recorded

theorem travel {step : History (List Sheet) → Option (List Sheet) × History (List Sheet)} {i : Nat}
    (inside : i < h.entries.length) (moved : step h = ((h.goTo i).current?, h.goTo i)) :
    (s.travel step).1 = true ∧ Stands (h.goTo i) (s.travel step).2 := by
  obtain ⟨sheets, current, kinds⟩ := (stands.sound_history.goTo inside).exists_current
  have there : Sound (fun _ => True) { s.settled with history := h.goTo i } :=
    ⟨stands.sound_settled.sheets, stands.sound_history.goTo inside, stands.sound_settled.sited⟩
  rw [current, ← stands.history] at moved
  rw [travel_of_some moved, stands.history]
  -- what was restored is the snapshot there, so that settling again leaves it alone
  have calm : (restore sheets { s.settled with history := h.goTo i }).settled = _ :=
    settled_restore kinds.1 (edit_settled s) current
  exact ⟨rfl, there.restore kinds, congrArg Session.history calm⟩

theorem undo (earlier : 0 < h.index) : s.undo.1 = true ∧ Stands (h.goTo (h.index - 1)) s.undo.2 := by
  have shown := stands.sound_history.shown
  exact stands.travel (by omega) (History.undo_eq earlier)

theorem redo (later : h.index + 1 < h.entries.length) : s.redo.1 = true ∧ Stands (h.goTo (h.index + 1)) s.redo.2 :=
  stands.travel later (History.redo_eq later)

theorem index_pos (undone : s.undo.1 = true) : 0 < h.index := by
  by_contra first
  have stuck : s.settled.history.undo = (none, h) := by rw [stands.history, History.undo_eq_none (by omega)]
  rw [Session.undo, travel_of_none stuck] at undone
  cases undone

omit stands in
theorem repeated_undo {k : Nat} (stands : Stands h s) (undone : repeated Session.undo k s = some t) :
    k ≤ h.index ∧ Stands (h.goTo (h.index - k)) t := by
  induction k generalizing h s with
  | zero =>
    obtain rfl := Option.some.inj undone
    exact ⟨Nat.zero_le _, stands⟩
  | succ k ih =>
    rw [repeated] at undone
    split at undone
    next once =>
      have earlier := stands.index_pos once
      obtain ⟨within, there⟩ := ih (stands.undo earlier).2 undone
      rw [History.index_goTo] at within there
      rw [History.goTo_goTo, Nat.sub_sub, Nat.add_comm 1 k] at there
      exact ⟨by omega, there⟩
    next => cases undone

omit stands in
theorem repeated_redo {i k : Nat} (stands : Stands (h.goTo i) s) (inside : i + k < h.entries.length) :
    ∃ u, repeated Session.redo k s = some u ∧ Stands (h.goTo (i + k)) u := by
  induction k generalizing i s with
  | zero => exact ⟨s, rfl, stands⟩
  | succ k ih =>
    have later : (h.goTo i).index + 1 < (h.goTo i).entries.length := by
      rw [History.index_goTo, History.entries_goTo]
      omega
    obtain ⟨redone, next⟩ := stands.redo later
    rw [History.index_goTo, History.goTo_goTo] at next
    obtain ⟨u, others, there⟩ := ih next (by omega)
    rw [Nat.add_assoc, Nat.add_comm 1 k] at there
    exact ⟨u, (if_pos redone).trans others, there⟩

end Stands

/-- What a command leaves of a session: no open edit, and in the history the sheets, unless they are the snapshot that
was current before. -/
structure Commits (s t : Session γ σ) : Prop where
  edit : t.edit = none
  history : t.history =
    if s.history.current? = some t.workbook.sheets then s.history else s.history.push t.workbook.sheets

namespace Commits

theorem commit (edit : t.edit = none) (history : t.history = s.history) : Commits s t.commit := by
  refine ⟨by rw [edit_commit, edit], ?_⟩
  rw [workbook_commit, Session.commit, history]
  split
  · exact history
  · rfl

variable (closed : s.edit = none)
include closed

theorem same (recorded : s.IsRecorded) (edit : t.edit = s.edit) (workbook : t.workbook = s.workbook)
    (history : t.history = s.history) : Commits s t := by
  refine ⟨edit.trans closed, ?_⟩
  rw [workbook, if_pos recorded.current, history]

theorem run (c : Command) : Commits s (s.run c) := by
  rw [Session.run, finishEdit_of_none closed]
  have edited : Commits s (s.modifySheet (c.edit s.selection)).clampSelection.commit := commit closed rfl
  exact ⟨edited.edit, edited.history⟩

theorem addSheet : Commits s s.addSheet.2 := by
  rw [Session.addSheet, finishEdit_of_none closed]
  exact commit closed rfl

variable (recorded : s.IsRecorded)
include recorded

theorem mouseUp : Commits s s.mouseUp := by
  rcases s.mouseUp_cases with ⟨origin, target, _, _, released⟩ | ⟨_, released⟩
  · rw [released]
    exact commit closed rfl
  · rw [released]
    exact same closed recorded rfl rfl rfl

theorem deleteSheet (i : Nat) : Commits s (s.deleteSheet i).2 := by
  rcases s.deleteSheet_cases i with ⟨_, kept⟩ | ⟨_, _, active, _, _, deleted⟩
  · rw [kept, finishEdit_of_none closed]
    exact same closed recorded rfl rfl rfl
  · rw [deleted, finishEdit_of_none closed]
    exact commit closed rfl

theorem renameSheet (i : Nat) (name : String) : Commits s (s.renameSheet i name).2 := by
  rw [Session.renameSheet, finishEdit_of_none closed]
  split
  · exact same closed recorded rfl rfl rfl
  · exact commit closed rfl

theorem importCsv (content : String) : Commits s (s.importCsv content) := by
  rw [Session.importCsv, finishEdit_of_none closed]
  split
  · exact commit closed rfl
  · exact same closed recorded rfl rfl rfl

variable [Clipboard γ]

theorem cut : Commits s s.cut := by
  have copied : s.copy.2.edit = none ∧ s.copy.2.workbook = s.workbook ∧ s.copy.2.history = s.history := by
    rw [Session.copy, finishEdit_of_none closed]
    exact ⟨closed, rfl, rfl⟩
  obtain ⟨edit, workbook, history⟩ := copied
  change Commits s (if s.copy.1 then s.copy.2.run .clear else s.copy.2)
  split
  · have cleared := run edit .clear
    refine ⟨cleared.edit, ?_⟩
    rw [← history]
    exact cleared.history
  · exact same closed recorded (edit.trans closed.symm) workbook history

theorem paste : Commits s s.paste := by
  rw [Session.paste, finishEdit_of_none closed]
  dsimp only
  split
  · exact same closed recorded rfl rfl rfl
  · split
    · exact commit closed rfl
    · exact same closed recorded rfl rfl rfl

theorem perform [Archive σ] {a : Action} (command : a.isCommand = true) : Commits s (s.perform a).2 := by
  cases a with
  | run c => exact run closed c
  | cut => exact cut closed recorded
  | paste => exact paste closed recorded
  | addSheet => exact addSheet closed
  | renameSheet i name =>
    rw [perform_renameSheet_snd]
    exact renameSheet closed recorded i name
  | deleteSheet i => exact deleteSheet closed recorded i
  | importCsv content => exact importCsv closed recorded content
  | importCsvFile content => exact importCsv closed recorded _
  | mouseUp => exact mouseUp closed recorded
  | _ => cases command

end Commits

theorem undo_of_advances (sound : Sound (fun _ => True) s) (sound' : Sound (fun _ => True) t)
    (room : 2 ≤ s.history.limit) (recorded : s.IsRecorded) (closed : t.edit = none)
    (advances : s.history.Advances t.workbook.sheets t.history) :
    t.undo.1 = true ∧ t.undo.2.workbook.sheets = s.workbook.sheets := by
  have calm : t.settled = t := settled_of_isRecorded closed advances.current?_eq
  have stands : Stands t.history t := ⟨sound', congrArg Session.history calm⟩
  obtain ⟨earlier, before⟩ := advances.undo_eq sound.history room
  obtain ⟨undone, there⟩ := stands.undo earlier
  exact ⟨undone, Option.some.inj (there.current.symm.trans (before.trans recorded))⟩

section Run

variable [Clipboard γ] [Archive σ] {first : Session γ σ}

/-- After any run, an undo that succeeds changes the sheets and is taken back by a redo, and any number of undos that
succeed is taken back by as many redos. -/
theorem redo_undo (begins : Begins (fun _ => True) first) (actions : List Action) :
    let s := performAll actions first
    (s.undo.1 = true → s.undo.2.workbook.sheets ≠ s.workbook.sheets ∧
      s.undo.2.redo.1 = true ∧ s.undo.2.redo.2.workbook.sheets = s.workbook.sheets) ∧
    ∀ k t, repeated undo k s = some t → ∃ u, repeated redo k t = some u ∧ u.workbook.sheets = s.workbook.sheets := by
  intro s
  have stands := Stands.settled (sound_performAll Sheet.lasting_any begins actions)
  have shown := stands.sound_history.shown
  have back (k : Nat) (t : Session γ σ) (undone : repeated undo k s = some t) :
      ∃ u, repeated redo k t = some u ∧ u.workbook.sheets = s.workbook.sheets := by
    obtain ⟨within, there⟩ := stands.repeated_undo undone
    obtain ⟨u, redone, again⟩ := there.repeated_redo (k := k) (by omega)
    rw [Nat.sub_add_cancel within] at again
    exact ⟨u, redone, Option.some.inj (again.current.symm.trans stands.current)⟩
  refine ⟨fun undone => ⟨fun same => ?_, ?_⟩, back⟩
  · have earlier := stands.index_pos undone
    apply stands.sound_history.current?_ne earlier
    rw [(stands.undo earlier).2.current, stands.current, same]
  · obtain ⟨u, redone, sheets⟩ := back 1 s.undo.2 (if_pos undone)
    rw [repeated] at redone
    split at redone
    next once =>
      obtain rfl := Option.some.inj redone
      exact ⟨once, sheets⟩
    next => cases redone

/-- A column is dragged wider after a row was inserted and the insertion undone. -/
def dragged : List Action := [.run (.insertBefore .row), .undo, .resizeHandleDown .col 0, .resizeDrag 150]

theorem redo_undo_dragged :
    Begins (fun _ => True) fresh ∧ (performAll dragged fresh).undo.1 = true ∧
      (performAll dragged fresh).undo.2.redo.2.workbook.sheets = (performAll dragged fresh).workbook.sheets := by
  have undone : (performAll dragged fresh).undo.1 = true := by decide +kernel
  exact ⟨begins_fresh trivial, undone, ((redo_undo (begins_fresh trivial) dragged).1 undone).2.2⟩

/-- A command on a settled session changes neither sheets nor history, or adds the one snapshot that undo takes back. -/
theorem undo_command (begins : Begins (fun _ => True) first) (actions : List Action) {a : Action}
    (command : a.isCommand = true) (closed : (performAll actions first).edit = none)
    (recorded : (performAll actions first).IsRecorded) (room : 2 ≤ (performAll actions first).history.limit) :
    let s := performAll actions first
    let t := (s.perform a).2
    (t.workbook.sheets = s.workbook.sheets ∧ t.history = s.history) ∨
      (t.workbook.sheets ≠ s.workbook.sheets ∧ s.history.Advances t.workbook.sheets t.history ∧
        t.undo.1 = true ∧ t.undo.2.workbook.sheets = s.workbook.sheets) := by
  intro s t
  have sound : Sound (fun _ => True) s := sound_performAll Sheet.lasting_any begins actions
  have commits : Commits s t := Commits.perform closed recorded command
  by_cases changed : t.workbook.sheets = s.workbook.sheets
  · have history := commits.history
    rw [changed, if_pos recorded.current] at history
    exact .inl ⟨changed, history⟩
  · have new : s.history.current? ≠ some t.workbook.sheets := by
      rw [recorded.current]
      exact fun same => changed (Option.some.inj same).symm
    have advances : s.history.Advances t.workbook.sheets t.history := by
      rw [commits.history, if_neg new]
      exact History.advances_push sound.history _
    exact .inr ⟨changed, advances,
      undo_of_advances sound (sound.perform Sheet.lasting_any a) room recorded commits.edit advances⟩

/-- Two rows are inserted, so that the oldest snapshot is forgotten, and one insertion is undone. -/
def inserted : List Action := [.run (.insertBefore .row), .run (.insertBefore .row), .undo]

theorem undo_command_inserted :
    Begins (fun _ => True) fresh ∧ (performAll inserted fresh).edit = none ∧
      (performAll inserted fresh).IsRecorded ∧ 2 ≤ (performAll inserted fresh).history.limit ∧
      let t := ((performAll inserted fresh).perform (.run (.insertBefore .col))).2
      t.undo.1 = true ∧ t.undo.2.workbook.sheets = (performAll inserted fresh).workbook.sheets := by
  have closed : (performAll inserted fresh).edit = none := by decide +kernel
  have recorded : (performAll inserted fresh).IsRecorded := by decide +kernel
  have room : 2 ≤ (performAll inserted fresh).history.limit := by decide +kernel
  have changed : ((performAll inserted fresh).perform (.run (.insertBefore .col))).2.workbook.sheets ≠
      (performAll inserted fresh).workbook.sheets := by decide +kernel
  have undoable := undo_command (begins_fresh trivial) inserted (a := .run (.insertBefore .col)) rfl closed recorded room
  rcases undoable with ⟨same, _⟩ | ⟨_, _, back⟩
  · exact absurd same changed
  · exact ⟨begins_fresh trivial, closed, recorded, room, back⟩

end Run

end Session

end Spreadsheet
