import Spreadsheet.Proofs.Session.Sound

/-! The sheets that gestures act on. Dragging a border and releasing a fill change the active sheet; beside the session
runs the place of the sheet that was active when the gesture was armed. The two places are the same unless a step has
gone to another sheet with the gesture armed: undo and redo end it, adding, deleting and switching sheets do not. -/
namespace Spreadsheet

theorem Workbook.sheet?_modifySheet_ne {i j : Nat} (other : i ≠ j) (f : Sheet → Sheet) (w : Workbook) :
    (w.modifySheet i f).sheet? j = w.sheet? j := by
  rw [sheet?, modifySheet, List.getElem?_modify]
  simp [other, sheet?]

namespace Session

variable {γ σ : Type} {s t u : Session γ σ}

/-- All sheets are the same, but for the one at that place. -/
def OnlyAt (home : Option Nat) (s t : Session γ σ) : Prop :=
  ∀ i, home ≠ some i → t.workbook.sheet? i = s.workbook.sheet? i

/-- A gesture that acts afterwards did so before, and on the same place. -/
def Lingers (s t : Session γ σ) : Prop := t.gesture.Acts → s.gesture.Acts ∧ t.activeSheet = s.activeSheet

theorem Lingers.trans (first : Lingers s t) (second : Lingers t u) : Lingers s u := by
  intro acts
  obtain ⟨acts, same⟩ := second acts
  obtain ⟨acts, same'⟩ := first acts
  exact ⟨acts, same.trans same'⟩

theorem Lingers.of_same (gesture : t.gesture = s.gesture) (activeSheet : t.activeSheet = s.activeSheet) :
    Lingers s t := by
  intro acts
  rw [gesture] at acts
  exact ⟨acts, activeSheet⟩

theorem lingers_change (change : Change s t) : Lingers s t := by
  cases change with
  | look same _ gesture => exact fun acts => ⟨gesture acts, same.activeSheet⟩
  | write => exact .of_same rfl rfl
  | commit | revise | rename => exact .of_same (gesture_commit _) (activeSheet_commit _)
  | restore => exact False.elim

theorem lingers_changes (changes : Changes s t) : Lingers s t := by
  induction changes with
  | refl => exact .of_same rfl rfl
  | tail _ change ih => exact ih.trans (lingers_change change)

theorem lingers_mouseUp (s : Session γ σ) : Lingers s s.mouseUp := by
  intro acts
  rcases s.mouseUp_cases with ⟨_, _, _, _, released⟩ | ⟨_, released⟩
  · rw [released, gesture_commit] at acts
    exact False.elim acts
  · rw [released] at acts
    exact False.elim acts

theorem lingers_save [Clipboard γ] [Archive σ] (s : Session γ σ) {a : Action}
    (saves : a = .maybeSave ∨ a = .saveNow) : Lingers s (s.perform a).2 := by
  obtain ⟨_, _, same⟩ := s.perform_save_eq saves
  rw [same]
  exact .of_same rfl rfl

/-- The step goes to another sheet while the gesture acts. -/
def Strays (a : Action) (s : Session γ σ) : Prop :=
  s.gesture.Acts ∧ match a with
    | .addSheet => True
    | .switchSheet i => i < s.workbook.sheetCount ∧ i ≠ s.activeSheet
    | .deleteSheet i => i = s.activeSheet ∧ 1 < s.workbook.sheetCount
    | _ => False

end Session

/-- A session beside the place of the sheet on which the gesture was armed last, none once that sheet is deleted. -/
structure Aimed (γ σ : Type) where
  session : Session γ σ
  home : Option Nat

namespace Aimed

open Session

variable {γ σ : Type}

def ofSession (s : Session γ σ) : Aimed γ σ := ⟨s, none⟩

/-- The place of that sheet after an action. -/
def aim (a : Action) (w : Aimed γ σ) : Option Nat :=
  match a with
  | .fillHandleDown | .resizeHandleDown _ _ => some w.session.activeSheet
  | .deleteSheet i => if (w.session.deleteSheet i).1 then w.home.bind (deleteIndex i) else w.home
  | _ => w.home

/-- A gesture that acts is at the sheet on which it was armed. -/
def IsHome (w : Aimed γ σ) : Prop := w.session.gesture.Acts → w.home = some w.session.activeSheet

/-- Dragging and releasing change only the sheet on which the gesture was armed. -/
structure Spares (w : Aimed γ σ) : Prop where
  dragging : ∀ size, OnlyAt w.home w.session (w.session.resizeDrag size)
  releasing : OnlyAt w.home w.session w.session.mouseUp

theorem IsHome.spares {w : Aimed γ σ} (isHome : w.IsHome) : w.Spares := by
  have others (acts : w.session.gesture.Acts) {i : Nat} (other : w.home ≠ some i) : w.session.activeSheet ≠ i := by
    intro same
    rw [isHome acts, same] at other
    exact other rfl
  refine ⟨fun size i other => ?_, fun i other => ?_⟩
  · rw [resizeDrag]
    split
    next resizing => exact Workbook.sheet?_modifySheet_ne (others (by rw [resizing]; trivial) other) _ _
    next => rfl
  · rcases w.session.mouseUp_cases with ⟨origin, target, filling, _, released⟩ | ⟨_, released⟩
    · rw [released, workbook_commit]
      exact Workbook.sheet?_modifySheet_ne (others (by rw [filling]; trivial) other) _ _
    · rw [released]

variable [Clipboard γ] [Archive σ]

def step (w : Aimed γ σ) (a : Action) : Aimed γ σ := ⟨(w.session.perform a).2, w.aim a⟩

def run (w : Aimed γ σ) (actions : List Action) : Aimed γ σ := actions.foldl step w

section Step

variable {w : Aimed γ σ} (isHome : w.IsHome)
include isHome

theorem isHome_of_lingers {a : Action} (lingers : Lingers w.session (w.session.perform a).2) (aims : w.aim a = w.home) :
    (w.step a).IsHome := by
  intro acts
  obtain ⟨acted, same⟩ := lingers acts
  change w.aim a = some (w.session.perform a).2.activeSheet
  rw [aims, same]
  exact isHome acted

/-- Where the gesture goes on, it comes away if its sheet and the active one are at different places. -/
theorem isHome_step_of_gesture {a : Action} (gesture : (w.session.perform a).2.gesture = w.session.gesture)
    (aims : w.session.gesture.Acts → w.home = some w.session.activeSheet →
      (w.aim a = some (w.session.perform a).2.activeSheet ↔ ¬Strays a w.session)) :
    (w.step a).IsHome ↔ ¬Strays a w.session := by
  by_cases acts : w.session.gesture.Acts
  · rw [← aims acts (isHome acts)]
    exact ⟨fun after => after (gesture ▸ acts), fun same _ => same⟩
  · refine iff_of_true (fun acts' => absurd ?_ acts) fun strays => acts strays.1
    rw [← gesture]
    exact acts'

theorem isHome_switchSheet_iff (i : Nat) : (w.step (.switchSheet i)).IsHome ↔ ¬Strays (.switchSheet i) w.session := by
  have performed : (w.session.perform (.switchSheet i)).2 = (w.session.switchSheet i).2 := rfl
  rcases w.session.switchSheet_cases i with ⟨inside, switched⟩ | ⟨outside, same⟩
  · rw [switched] at performed
    refine isHome_step_of_gesture isHome (by rw [performed]; exact gesture_finishEdit _) fun acts home => ?_
    rw [performed, show w.aim (.switchSheet i) = w.home from rfl, home]
    constructor
    · rintro same ⟨_, _, other⟩
      exact other (Option.some.inj same).symm
    · intro stays
      by_contra other
      exact stays ⟨acts, inside, fun same => other (congrArg some same.symm)⟩
  · rw [same] at performed
    have lingers : Lingers w.session (w.session.perform (.switchSheet i)).2 := by
      rw [performed]
      exact .of_same rfl rfl
    exact iff_of_true (isHome_of_lingers isHome lingers rfl) fun strays => Nat.not_lt_of_le outside strays.2.1

theorem isHome_deleteSheet_iff (sited : w.session.Sited) (i : Nat) :
    (w.step (.deleteSheet i)).IsHome ↔ ¬Strays (.deleteSheet i) w.session := by
  have aim (answer : Bool) (known : (w.session.deleteSheet i).1 = answer) :
      w.aim (.deleteSheet i) = if answer then w.home.bind (deleteIndex i) else w.home := by
    rw [← known]
    rfl
  rcases w.session.deleteSheet_cases i with ⟨kept, same⟩ | ⟨more, inside, active, _, follows, deleted⟩
  · have lingers : Lingers w.session (w.session.perform (.deleteSheet i)).2 := by
      change Lingers w.session (w.session.deleteSheet i).2
      rw [same]
      exact .of_same (gesture_finishEdit _) (activeSheet_finishEdit _)
    refine iff_of_true (isHome_of_lingers isHome lingers (aim false (by rw [same]))) fun strays => ?_
    -- the active sheet is deleted unless it is the only one
    obtain ⟨_, rfl, more⟩ := strays
    have sited : w.session.activeSheet < w.session.workbook.sheetCount := sited
    omega
  · have performed : (w.session.perform (.deleteSheet i)).2 = (w.session.deleteSheet i).2 := rfl
    rw [deleted] at performed
    have gesture : (w.session.perform (.deleteSheet i)).2.gesture = w.session.gesture := by
      rw [performed, gesture_commit]
      exact gesture_finishEdit _
    refine isHome_step_of_gesture isHome gesture fun acts home => ?_
    rw [performed, activeSheet_commit, aim true (by rw [deleted]), if_pos rfl, home, Option.bind_some]
    by_cases gone : i = w.session.activeSheet
    · refine iff_of_false ?_ fun stays => stays ⟨acts, gone, more⟩
      rw [gone, deleteIndex, if_neg (Nat.lt_irrefl _), if_pos rfl]
      exact Option.some_ne_none _ ∘ Eq.symm
    · exact iff_of_true (follows gone) fun strays => gone strays.2.1

/-- From the sheet on which it was armed a gesture comes away exactly if the step strays. -/
theorem isHome_step_iff (sited : w.session.Sited) (a : Action) : (w.step a).IsHome ↔ ¬Strays a w.session := by
  cases plain : isPlain a with
  | true =>
    have lingers := lingers_changes (w.session.changes_perform plain)
    cases a with
    | mouseUp | fillHandleDown | resizeHandleDown => cases plain
    | addSheet | deleteSheet | switchSheet | maybeSave | saveNow => cases plain
    | _ => exact iff_of_true (isHome_of_lingers isHome lingers rfl) And.right
  | false =>
    have saved := lingers_save w.session (a := a)
    cases a with
    | mouseUp => exact iff_of_true (isHome_of_lingers isHome (lingers_mouseUp _) rfl) And.right
    | maybeSave | saveNow => exact iff_of_true (isHome_of_lingers isHome (saved (by simp)) rfl) And.right
    | fillHandleDown | resizeHandleDown =>
      exact iff_of_true (fun _ => congrArg some (activeSheet_finishEdit _).symm) And.right
    | addSheet =>
      refine isHome_step_of_gesture isHome ((gesture_commit _).trans (gesture_finishEdit _)) fun acts home => ?_
      refine iff_of_false ?_ fun stays => stays ⟨acts, trivial⟩
      change w.home ≠ some w.session.addSheet.2.activeSheet
      have last : w.session.addSheet.2.activeSheet = w.session.workbook.sheetCount :=
        (activeSheet_commit _).trans (congrArg Workbook.sheetCount (workbook_finishEdit _))
      rw [home, last]
      exact fun same => Nat.ne_of_lt sited (Option.some.inj same)
    | deleteSheet i => exact isHome_deleteSheet_iff isHome sited i
    | switchSheet i => exact isHome_switchSheet_iff isHome i
    | _ => cases plain

end Step

/-- All along a run gestures act on the sheet on which they were armed, exactly if no step strays; and where they do,
they leave all other sheets alone. -/
theorem spares_run_iff {first : Session γ σ} (begins : Begins (fun _ => True) first) (actions : List Action) :
    (∀ before, before <+: actions → ((ofSession first).run before).IsHome → ((ofSession first).run before).Spares) ∧
      ((∀ before, before <+: actions → ((ofSession first).run before).IsHome) ↔
        ∀ before a, before ++ [a] <+: actions → ¬Strays a ((ofSession first).run before).session) := by
  refine ⟨fun _ _ => IsHome.spares, ?_⟩
  have idle : (ofSession first).IsHome := by
    intro acts
    cases begins <;> exact False.elim acts
  have kept (w : Aimed γ σ) (a : Action) (sound : Session.Sound (fun _ => True) w.session) :
      Session.Sound (fun _ => True) (w.step a).session := sound.perform Sheet.lasting_any a
  have breaks (w : Aimed γ σ) (a : Action) (sound : Session.Sound (fun _ => True) w.session) (isHome : w.IsHome) :
      (w.step a).IsHome ↔ ¬Strays a w.session := isHome_step_iff isHome sound.sited a
  exact Run.forall_prefix_iff kept breaks (sound_begins Sheet.lasting_any begins) idle actions

/-- The border of a column is taken hold of, and a sheet is added. -/
def grasped : List Action := [.resizeHandleDown .col 0]

theorem strays_grasped : Begins (fun _ => True) fresh ∧ Strays .addSheet ((ofSession fresh).run grasped).session ∧
    ¬∀ before, before <+: grasped ++ [.addSheet] → ((ofSession fresh).run before).IsHome := by
  have begins : Begins (fun _ => True) fresh := begins_fresh trivial
  have strays : Strays .addSheet ((ofSession fresh).run grasped).session := ⟨trivial, trivial⟩
  exact ⟨begins, strays, fun all => (spares_run_iff begins _).2.1 all grasped .addSheet List.prefix_rfl strays⟩

/-- The drag goes on in the sheet that was added. -/
theorem not_spares_grasped :
    Begins (fun _ => True) fresh ∧ ¬((ofSession fresh).run (grasped ++ [.addSheet])).Spares := by
  have elsewhere : ((ofSession fresh).run (grasped ++ [.addSheet])).home ≠ some 1 := by decide
  have changed : (((ofSession fresh).run (grasped ++ [.addSheet])).session.resizeDrag 150).workbook.sheet? 1 ≠
      ((ofSession fresh).run (grasped ++ [.addSheet])).session.workbook.sheet? 1 := by decide +kernel
  exact ⟨begins_fresh trivial, fun spares => changed (spares.dragging 150 1 elsewhere)⟩

end Aimed

end Spreadsheet
