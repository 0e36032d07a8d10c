import Spreadsheet.Proofs.Sheet.Regular

/-! Writing values into cells. What is written is found there and nowhere else, the formatting stays, a later value takes
the place of an earlier one, and writing the value that a cell has changes nothing. -/
namespace Spreadsheet

namespace Grid

theorem ext_get? {g h : Grid} (same : ∀ p, g.get? p = h.get? p) : g = h := by
  cases g
  cases h
  exact congrArg Grid.mk (Table.ext_get? same)

theorem get?_set (g : Grid) (p q : Position) (c : Cell) :
    (g.set p c).get? q = if q = p then (if c.isBlank then none else some c) else g.get? q := by
  rw [set]
  split
  · exact Table.get?_erase _ _ _
  · exact Table.get?_insert _ _ _ _

theorem get_set (g : Grid) (p q : Position) (c : Cell) : (g.set p c).get q = if q = p then c else g.get q := by
  rw [get, get?_set]
  split
  · split
    next blank => exact (beq_iff_eq.1 blank).symm
    next => rfl
  · rfl

theorem set_set (g : Grid) (p : Position) (c d : Cell) : (g.set p c).set p d = g.set p d := by
  apply ext_get?
  intro q
  simp only [get?_set]
  split <;> rfl

theorem set_get {g : Grid} (visible : g.NoBlank) (p : Position) : g.set p (g.get p) = g := by
  apply ext_get?
  intro q
  rw [get?_set]
  split
  next same =>
    subst same
    cases found : g.get? q with
    | none => simp [get, found, Cell.isBlank]
    | some c =>
      have solid : c ≠ Cell.blank := visible (q, c) (Table.mem_entries_iff.2 found)
      simp [get, found, Cell.isBlank, solid]
  next => rfl

theorem raw_eq (g : Grid) (p : Position) : g.raw p = (g.get p).value := by
  rw [raw, get]
  cases g.get? p <;> rfl

theorem get_setValue (g : Grid) (p q : Position) (value : String) :
    (g.setValue p value).get q = if q = p then (g.get p).withValue value else g.get q :=
  get_set g p q _

theorem raw_setValue (g : Grid) (p q : Position) (value : String) :
    (g.setValue p value).raw q = if q = p then value else g.raw q := by
  rw [raw_eq, get_setValue, raw_eq]
  split <;> rfl

theorem setValue_setValue (g : Grid) (p : Position) (first second : String) :
    (g.setValue p first).setValue p second = g.setValue p second := by
  have kept : ((g.setValue p first).get p).withValue second = (g.get p).withValue second := by
    rw [get_setValue, if_pos rfl]
    rfl
  change (g.setValue p first).set p (((g.setValue p first).get p).withValue second) = _
  rw [kept]
  exact set_set g p _ _

theorem setValue_raw {g : Grid} (visible : g.NoBlank) (p : Position) : g.setValue p (g.raw p) = g := by
  rw [raw_eq]
  exact set_get visible p

end Grid

namespace Sheet

theorem raw_setValue (s : Sheet) (p q : Position) (value : String) :
    (s.setValue p value).raw q = if q = p then value else s.raw q :=
  s.grid.raw_setValue p q value

theorem setValue_setValue (s : Sheet) (p : Position) (first second : String) :
    (s.setValue p first).setValue p second = s.setValue p second :=
  congrArg (fun grid => { s with grid }) (s.grid.setValue_setValue p first second)

theorem setValue_raw {s : Sheet} (visible : s.grid.NoBlank) (p : Position) : s.setValue p (s.raw p) = s :=
  congrArg (fun grid => { s with grid }) (Grid.setValue_raw visible p)

end Sheet

end Spreadsheet
