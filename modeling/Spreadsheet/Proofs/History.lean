import Mathlib.Data.List.Chain
import Spreadsheet.History

/-! Histories as they come up: the current entry exists, the limit is kept, and neighbours differ. Undoing and redoing
go one entry back or forth; recording an entry puts it behind the current one. -/
namespace Spreadsheet.History

variable {α : Type} {P : α → Prop} {h h' : History α} {x : α}

/-- The current entry exists, the limit is kept, all entries are of one kind, and neighbours differ. -/
structure Sound (P : α → Prop) (h : History α) : Prop where
  shown : h.index < h.entries.length
  bounded : h.entries.length ≤ h.limit
  kept : ∀ x ∈ h.entries, P x
  changing : h.entries.IsChain (· ≠ ·)

/-- The same entries, the current one elsewhere. -/
def goTo (i : Nat) (h : History α) : History α := { h with index := i }

/-- One entry more: it is current, and before it are those up to the one that was, as many of the newest as the limit
leaves room for. -/
def Advances (h : History α) (x : α) (h' : History α) : Prop :=
  ∃ past, past <:+ h.entries.take (h.index + 1) ∧ past.length = min (h.index + 1) (h.limit - 1) ∧
    h' = ⟨past ++ [x], past.length, h.limit⟩

theorem sound_start (holds : P x) (limit : Nat) : (start x limit).Sound P := by
  refine ⟨Nat.zero_lt_one, Nat.le_max_right _ _, ?_, List.isChain_singleton x⟩
  intro y inside
  rw [List.mem_singleton.1 inside]
  exact holds

theorem undo_eq (earlier : 0 < h.index) : h.undo = ((h.goTo (h.index - 1)).current?, h.goTo (h.index - 1)) :=
  if_pos (decide_eq_true earlier)

theorem redo_eq (later : h.index + 1 < h.entries.length) :
    h.redo = ((h.goTo (h.index + 1)).current?, h.goTo (h.index + 1)) :=
  if_pos (decide_eq_true later)

@[simp] theorem goTo_goTo (i j : Nat) (h : History α) : (h.goTo i).goTo j = h.goTo j := rfl

@[simp] theorem index_goTo (i : Nat) (h : History α) : (h.goTo i).index = i := rfl

@[simp] theorem entries_goTo (i : Nat) (h : History α) : (h.goTo i).entries = h.entries := rfl

theorem undo_eq_none (first : h.index = 0) : h.undo = (none, h) := if_neg (by simp [canUndo, first])

section

variable (sound : h.Sound P)
include sound

theorem Sound.goTo {i : Nat} (inside : i < h.entries.length) : (h.goTo i).Sound P :=
  ⟨inside, sound.bounded, sound.kept, sound.changing⟩

theorem Sound.exists_current : ∃ x, h.current? = some x ∧ P x := by
  have found : h.current? = some (h.entries.get ⟨h.index, sound.shown⟩) := List.getElem?_eq_getElem sound.shown
  exact ⟨_, found, sound.kept _ (List.get_mem _ _)⟩

theorem Sound.current?_ne (earlier : 0 < h.index) : (h.goTo (h.index - 1)).current? ≠ h.current? := by
  have inside := sound.shown
  have before : h.index - 1 < h.entries.length := by omega
  have different := List.isChain_iff_getElem.1 sound.changing (h.index - 1) (by omega)
  simp only [Nat.sub_add_cancel earlier] at different
  rw [current?, current?, List.getElem?_eq_getElem inside]
  exact fun same => different (Option.some.inj ((List.getElem?_eq_getElem before).symm.trans same))

/-- Undoing and redoing find an entry and make it current. -/
theorem Sound.moved (moved : h.undo = (some x, h') ∨ h.redo = (some x, h')) :
    h'.Sound P ∧ h'.current? = some x ∧ P x := by
  have there {i : Nat} (inside : i < h.entries.length) (found : ((h.goTo i).current?, h.goTo i) = (some x, h')) :
      h'.Sound P ∧ h'.current? = some x ∧ P x := by
    obtain ⟨current, rfl⟩ := Prod.mk.inj found
    obtain ⟨y, current', holds⟩ := (sound.goTo inside).exists_current
    obtain rfl := Option.some.inj (current.symm.trans current')
    exact ⟨sound.goTo inside, current, holds⟩
  have shown := sound.shown
  rcases moved with undone | redone
  · by_cases earlier : 0 < h.index
    · exact there (by omega) ((undo_eq earlier).symm.trans undone)
    · rw [undo_eq_none (by omega)] at undone
      cases undone
  · by_cases later : h.index + 1 < h.entries.length
    · exact there later ((redo_eq later).symm.trans redone)
    · rw [redo, if_neg (by simpa [canRedo] using later)] at redone
      cases redone

theorem getLast?_take : (h.entries.take (h.index + 1)).getLast? = h.current? := by
  rw [List.getLast?_take, if_neg (Nat.succ_ne_zero _), Nat.add_sub_cancel, current?,
    List.getElem?_eq_getElem sound.shown, Option.some_or]

theorem getLast?_of_suffix {past : List α} (newest : past <:+ h.entries.take (h.index + 1)) (nonempty : past ≠ []) :
    past.getLast? = h.current? := by
  obtain ⟨older, whole⟩ := newest
  rw [← getLast?_take sound, ← whole, List.getLast?_append_of_ne_nil older nonempty]

theorem advances_push (x : α) : h.Advances x (h.push x) := by
  have shown := sound.shown
  have bounded := sound.bounded
  have length : (h.entries.take (h.index + 1)).length = h.index + 1 := List.length_take_of_le shown
  refine ⟨(h.entries.take (h.index + 1)).drop (h.index + 2 - h.limit), List.drop_suffix _ _, ?_, ?_⟩
  · rw [List.length_drop, length]
    omega
  · rw [push, List.length_append, length, List.length_singleton, List.drop_append_of_le_length (by omega)]
    simp

end

namespace Advances

variable (advances : h.Advances x h')
include advances

theorem current?_eq : h'.current? = some x := by
  obtain ⟨past, _, _, rfl⟩ := advances
  exact List.getElem?_concat_length

theorem sound (sound : h.Sound P) (holds : P x) (new : h.current? ≠ some x) : h'.Sound P := by
  obtain ⟨past, newest, length, rfl⟩ := advances
  have shown := sound.shown
  have bounded := sound.bounded
  refine ⟨by simp, by simp; omega, ?_, ?_⟩
  · intro y inside
    rcases List.mem_append.1 inside with old | new
    · exact sound.kept y (List.mem_of_mem_take (newest.subset old))
    · rw [List.mem_singleton.1 new]
      exact holds
  · -- before the new entry is the one that was current, and it is another one
    refine List.isChain_append.2 ⟨(sound.changing.take _).suffix newest, List.isChain_singleton x, ?_⟩
    intro y last z head same
    obtain rfl : x = z := Option.some.inj head
    rw [getLast?_of_suffix sound newest (List.ne_nil_of_mem (List.mem_of_getLast? last)), same] at last
    exact new last

/-- With room for two entries, the one before the new one is the one that was current. -/
theorem undo_eq (sound : h.Sound P) (room : 2 ≤ h.limit) :
    0 < h'.index ∧ (h'.goTo (h'.index - 1)).current? = h.current? := by
  obtain ⟨past, newest, length, rfl⟩ := advances
  have nonempty : 0 < past.length := by omega
  refine ⟨nonempty, ?_⟩
  rw [← getLast?_of_suffix sound newest (List.ne_nil_of_length_pos nonempty), List.getLast?_eq_getElem?]
  exact List.getElem?_append_left (Nat.sub_one_lt_of_lt nonempty)

end Advances

end Spreadsheet.History
