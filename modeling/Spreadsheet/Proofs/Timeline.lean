import Mathlib.Data.List.DropRight
import Spreadsheet.History
import Spreadsheet.Proofs.Run

/-! Histories as timelines. A timeline is what came before, what is shown and what was undone, without an index. A history
holds these parts one behind the other, its index on the one that is shown; every operation answers alike on both and
leaves it so, and therefore every run of operations does. -/
namespace Spreadsheet

/-- The past with its newest entry last, the present, and the future with its nearest entry first. -/
structure Timeline (α : Type) where
  past : List α
  present : α
  future : List α
  deriving DecidableEq, Repr

namespace Timeline

variable {α : Type}

def start (initial : α) : Timeline α := ⟨[], initial, []⟩

/-- The present becomes past, of which as much is kept as the limit leaves room for; the future is forgotten. -/
def push (limit : Nat) (x : α) (t : Timeline α) : Timeline α := ⟨(t.past ++ [t.present]).rtake (limit - 1), x, []⟩

def undo (t : Timeline α) : Option α × Timeline α :=
  match t.past.getLast? with
  | none => (none, t)
  | some x => (some x, ⟨t.past.dropLast, x, t.present :: t.future⟩)

def redo (t : Timeline α) : Option α × Timeline α :=
  match t.future with
  | [] => (none, t)
  | x :: later => (some x, ⟨t.past ++ [t.present], x, later⟩)

end Timeline

namespace History

variable {α : Type}

inductive Operation (α : Type)
  | push (x : α)
  | undo
  | redo
  | reset (x : α)

/-- What an operation answers, and the history after it. -/
def perform : Operation α → History α → Option α × History α
  | .push x, h => (none, h.push x)
  | .undo, h => h.undo
  | .redo, h => h.redo
  | .reset x, h => (none, h.reset x)

end History

namespace Timeline

variable {α : Type}

def perform (limit : Nat) : History.Operation α → Timeline α → Option α × Timeline α
  | .push x, t => (none, t.push limit x)
  | .undo, t => t.undo
  | .redo, t => t.redo
  | .reset x, _ => (none, start x)

/-- The history holds past, present and future one behind the other, its index on the present. -/
structure Lies (limit : Nat) (t : Timeline α) (h : History α) : Prop where
  entries : h.entries = t.past ++ [t.present] ++ t.future
  index : h.index = t.past.length
  bounded : h.entries.length ≤ limit
  limit : h.limit = limit

namespace Lies

variable {limit : Nat} {t : Timeline α} {h : History α} (lies : t.Lies limit h)
include lies

theorem size_eq : h.size = t.past.length + 1 + t.future.length := by
  rw [History.size, lies.entries]
  simp only [List.length_append, List.length_singleton]

theorem index_lt : h.index < h.size := by
  rw [lies.size_eq, lies.index]
  omega

theorem current?_eq : h.current? = some t.present := by
  rw [History.current?, lies.entries, lies.index, List.getElem?_append_left (by simp)]
  exact List.getElem?_concat_length

theorem push (positive : 0 < limit) (x : α) : (t.push limit x).Lies limit (h.push x) := by
  have shown : h.entries.take (h.index + 1) = t.past ++ [t.present] := by
    rw [lies.entries, lies.index]
    exact List.take_left' (by simp)
  have size : (t.past ++ [t.present]).length = t.past.length + 1 := by simp
  have kept : (h.push x).entries = (t.past ++ [t.present]).rtake (limit - 1) ++ [x] := by
    -- the new entry always stays, so only older ones are dropped to make room for it
    have fewer : t.past.length + 1 + 1 - limit = t.past.length + 1 - (limit - 1) := by omega
    rw [History.push, shown, lies.limit, List.length_append, size, List.length_singleton, List.rtake, size, fewer]
    exact List.drop_append_of_le_length (by omega)
  refine ⟨by rw [kept]; simp [Timeline.push], ?_, ?_, lies.limit⟩
  · change (h.push x).entries.length - 1 = _
    rw [kept]
    simp [Timeline.push]
  · rw [kept, List.rtake]
    simp only [List.length_append, List.length_drop, size, List.length_singleton]
    omega

theorem undo : h.undo.1 = t.undo.1 ∧ t.undo.2.Lies limit h.undo.2 := by
  have index := lies.index
  obtain ⟨past, present, future⟩ := t
  rcases past.eq_nil_or_concat with rfl | ⟨past, x, rfl⟩
  · have first : h.canUndo = false := by simpa [History.canUndo] using index
    rw [History.undo, if_neg (by simp [first])]
    exact ⟨rfl, lies⟩
  · have earlier : h.canUndo = true := by simp [History.canUndo, index]
    have back : (Timeline.mk past x (present :: future)).Lies limit { h with index := h.index - 1 } := by
      refine ⟨?_, ?_, lies.bounded, lies.limit⟩
      · rw [lies.entries]
        simp
      · simp [index]
    have moved : Timeline.undo ⟨past.concat x, present, future⟩ = (some x, ⟨past, x, present :: future⟩) := by
      simp [Timeline.undo]
    rw [History.undo, if_pos earlier, moved]
    exact ⟨back.current?_eq, back⟩

theorem redo : h.redo.1 = t.redo.1 ∧ t.redo.2.Lies limit h.redo.2 := by
  have index := lies.index
  have size := lies.size_eq
  obtain ⟨past, present, future⟩ := t
  cases future with
  | nil =>
    have last : h.canRedo = false := by simpa [History.canRedo, History.size, index] using Nat.le_of_eq size
    rw [History.redo, if_neg (by simp [last])]
    exact ⟨rfl, lies⟩
  | cons x later =>
    have further : h.canRedo = true := by
      rw [History.size] at size
      simp [History.canRedo, index, size]
    have forth : (Timeline.mk (past ++ [present]) x later).Lies limit { h with index := h.index + 1 } := by
      refine ⟨?_, ?_, lies.bounded, lies.limit⟩
      · rw [lies.entries]
        simp
      · simp [index]
    rw [History.redo, if_pos further]
    exact ⟨forth.current?_eq, forth⟩

theorem perform (positive : 0 < limit) (o : History.Operation α) :
    (h.perform o).1 = (t.perform limit o).1 ∧ (t.perform limit o).2.Lies limit (h.perform o).2 := by
  cases o with
  | push x => exact ⟨rfl, lies.push positive x⟩
  | undo => exact lies.undo
  | redo => exact lies.redo
  | reset x => exact ⟨rfl, rfl, rfl, positive, lies.limit⟩

end Lies

theorem lies_start (initial : α) (limit : Nat) : (start initial).Lies (max limit 1) (History.start initial limit) :=
  ⟨rfl, rfl, Nat.le_max_right _ _, rfl⟩

end Timeline

namespace History

variable {α : Type}

/-- Every run of operations gives the answers that the timeline gives, and holds its parts one behind the other, the
index on the present; the number of entries stays within the limit, which is at least one. -/
theorem answers_timeline (initial : α) (limit : Nat) (operations : List (Operation α)) :
    let (answers, h) := Run.answers perform operations (start initial limit)
    let (answers', t) := Run.answers (Timeline.perform (max limit 1)) operations (Timeline.start initial)
    answers = answers' ∧ h.entries = t.past ++ [t.present] ++ t.future ∧ h.index = t.past.length ∧
      1 ≤ h.size ∧ h.size ≤ max limit 1 ∧ h.index < h.size ∧ h.current? = some t.present := by
  have positive : 0 < max limit 1 := Nat.le_max_right _ _
  obtain ⟨same, lies⟩ := Run.answers_alike (fun h t o lies => Timeline.Lies.perform lies positive o)
    (Timeline.lies_start initial limit) operations
  have size := lies.size_eq
  exact ⟨same, lies.entries, lies.index, by omega, lies.bounded, lies.index_lt, lies.current?_eq⟩

example : (Run.answers perform [.push 1, .push 2, .undo, .undo, .push 3, .redo] (start 0 2)).1 =
    [none, none, some 1, none, none, none] := rfl

end History

end Spreadsheet
