/-! Undo and redo over a bounded list of snapshots. The current snapshot is the one at the index; recording a
snapshot forgets those after it, and the oldest ones once there are more than the limit. -/
namespace Spreadsheet

structure History (α : Type) where
  entries : List α
  index : Nat
  limit : Nat
  deriving DecidableEq, Repr

namespace History

variable {α : Type}

def start (initial : α) (limit : Nat) : History α := ⟨[initial], 0, max limit 1⟩

/-- Forgets everything but a new first snapshot. -/
def reset (initial : α) (h : History α) : History α := ⟨[initial], 0, h.limit⟩

def push (x : α) (h : History α) : History α :=
  let extended := h.entries.take (h.index + 1) ++ [x]
  let kept := extended.drop (extended.length - h.limit)
  ⟨kept, kept.length - 1, h.limit⟩

def canUndo (h : History α) : Bool := 0 < h.index

def canRedo (h : History α) : Bool := h.index + 1 < h.entries.length

def current? (h : History α) : Option α := h.entries[h.index]?

def undo (h : History α) : Option α × History α :=
  if h.canUndo then
    let back := { h with index := h.index - 1 }
    (back.current?, back)
  else (none, h)

def redo (h : History α) : Option α × History α :=
  if h.canRedo then
    let forth := { h with index := h.index + 1 }
    (forth.current?, forth)
  else (none, h)

def size (h : History α) : Nat := h.entries.length

end History

end Spreadsheet
