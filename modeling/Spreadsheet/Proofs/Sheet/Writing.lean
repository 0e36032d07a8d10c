import Spreadsheet.Proofs.Sheet.Capacity
import Spreadsheet.Proofs.Sheet.Values

/-! Changing listed cells one after another. Where what is listed for a cell agrees, and is not felt when it is done twice,
every listed cell is changed once and nothing else is; so doing all of it again changes nothing. -/
namespace Spreadsheet

/-- What a grid holds of a cell. -/
def Cell.stored (c : Cell) : Option Cell := if c.isBlank then none else some c

theorem Cell.getD_stored (c : Cell) : c.stored.getD .blank = c := by
  rw [stored]
  split
  next blank => exact (beq_iff_eq.1 blank).symm
  next => rfl

theorem Cell.eq_of_stored {c d : Cell} (kept : c.stored = some d) : d = c := by
  rw [stored] at kept
  split at kept
  next => cases kept
  next => exact (Option.some.inj kept).symm

namespace Grid

theorem get?_update_self (g : Grid) (p : Position) (f : Cell → Cell) : (g.update p f).get? p = (f (g.get p)).stored :=
  (get?_set g p p _).trans (if_pos rfl)

theorem get?_update_of_ne {p q : Position} (other : q ≠ p) (g : Grid) (f : Cell → Cell) :
    (g.update p f).get? q = g.get? q :=
  (get?_set g p q _).trans (if_neg other)

theorem get_update (g : Grid) (p q : Position) (f : Cell → Cell) :
    (g.update p f).get q = if q = p then f (g.get p) else g.get q :=
  get_set g p q _

end Grid

namespace Sheet

variable {ε : Type} (place : ε → Position) (change : ε → Cell → Cell)

def writeAll (es : List ε) (s : Sheet) : Sheet := es.foldl (fun t e => t.updateCell (place e) (change e)) s

/-- What is listed for a cell agrees, and is not felt when it is done twice. -/
structure Agreeing (es : List ε) : Prop where
  same : ∀ d ∈ es, ∀ e ∈ es, place d = place e → change d = change e
  once : ∀ e ∈ es, ∀ c, change e (change e c) = change e c

/-- Every listed cell is changed once, and nothing else is. -/
structure Writes (es : List ε) (s t : Sheet) : Prop where
  listed : ∀ e ∈ es, t.grid.get? (place e) = (change e (s.cell (place e))).stored
  others : ∀ p, (∀ e ∈ es, place e ≠ p) → t.grid.get? p = s.grid.get? p
  rest : t = { s with grid := t.grid }

variable {place change} {es : List ε} {e : ε} {s t u : Sheet} {p : Position}

theorem get?_writeAll_of_forall_ne (fresh : ∀ e ∈ es, place e ≠ p) (s : Sheet) :
    (writeAll place change es s).grid.get? p = s.grid.get? p := by
  induction es generalizing s with
  | nil => rfl
  | cons e es ih =>
    obtain ⟨other, fresh⟩ := List.forall_mem_cons.1 fresh
    exact (ih fresh (s.updateCell (place e) (change e))).trans (Grid.get?_update_of_ne other.symm _ _)

theorem get?_writeAll_of_mem (among : e ∈ es) (same : ∀ d ∈ es, place d = place e → change d = change e)
    (once : ∀ c, change e (change e c) = change e c) (s : Sheet) :
    (writeAll place change es s).grid.get? (place e) = (change e (s.cell (place e))).stored := by
  induction es generalizing s e with
  | nil => cases among
  | cons first es ih =>
    obtain ⟨here, same⟩ := List.forall_mem_cons.1 same
    by_cases later : ∃ d ∈ es, place d = place e
    · -- the cell may have been changed before, which is not felt
      obtain ⟨d, inside, again⟩ := later
      have agrees := same d inside again
      have changed := ih inside (fun c among there => (same c among (there.trans again)).trans agrees.symm)
        (agrees ▸ once) (s.updateCell (place first) (change first))
      rw [again, agrees] at changed
      refine changed.trans (congrArg Cell.stored ?_)
      rw [cell, updateCell, mapGrid, Grid.get_update]
      split
      next met => rw [here met.symm, ← met, once, cell]
      next => rfl
    · obtain rfl : e = first := (List.mem_cons.1 among).resolve_right fun inside => later ⟨e, inside, rfl⟩
      have fresh : ∀ d ∈ es, place d ≠ place e := fun d inside again => later ⟨d, inside, again⟩
      exact (get?_writeAll_of_forall_ne fresh _).trans (Grid.get?_update_self _ _ _)

theorem writes_writeAll (agreeing : Agreeing place change es) (s : Sheet) :
    Writes place change es s (writeAll place change es s) where
  listed e among := get?_writeAll_of_mem among (fun d inside => agreeing.same d inside e among) (agreeing.once e among) s
  others p fresh := get?_writeAll_of_forall_ne fresh s
  rest := by
    refine List.foldlRecOn es (motive := fun t : Sheet => t = { s with grid := t.grid }) _ rfl ?_
    intro t same e _
    rw [same]
    rfl

theorem Fits.cell (fits : s.Fits) (p : Position) : (s.cell p).Fits := by
  rw [Sheet.cell, Grid.get]
  cases found : s.grid.get? p with
  | none =>
    intro size absent
    cases absent
  | some c => exact (Table.forall_entries_iff.1 fits.grid p c found).2

namespace Writes

variable (writes : Writes place change es s t)
include writes

theorem cell (among : e ∈ es) : t.cell (place e) = change e (s.cell (place e)) := by
  rw [Sheet.cell, Grid.get, writes.listed e among, Cell.getD_stored]

theorem cell_of_forall_ne (fresh : ∀ e ∈ es, place e ≠ p) : t.cell p = s.cell p := by
  rw [Sheet.cell, Grid.get, writes.others p fresh]
  rfl

/-- Where cells are changed in place, a sheet that fits has words for the cells and for what becomes of them. -/
theorem fits (fits : s.Fits) (places : ∀ e ∈ es, (place e).Fits)
    (keeps : ∀ e ∈ es, ∀ c : Cell, c.Fits → (change e c).Fits) : t.Fits := by
  have grid : t.grid.Fits := by
    refine Table.forall_entries_iff.2 fun p c found => ?_
    by_cases listed : ∃ e ∈ es, place e = p
    · obtain ⟨e, among, rfl⟩ := listed
      rw [Cell.eq_of_stored ((writes.listed e among).symm.trans found)]
      exact ⟨places e among, keeps e among _ (fits.cell _)⟩
    · have same := writes.others p fun e among here => listed ⟨e, among, here⟩
      exact Table.forall_entries_iff.1 fits.grid p c (same.symm.trans found)
  rw [writes.rest]
  exact ⟨grid, fits.rows, fits.cols, fits.merges, fits.filters⟩

theorem unique (writes' : Writes place change es s u) : t = u := by
  have same : t.grid = u.grid := by
    apply Grid.ext_get?
    intro p
    by_cases found : ∃ e ∈ es, place e = p
    · obtain ⟨e, among, rfl⟩ := found
      exact (writes.listed e among).trans (writes'.listed e among).symm
    · have fresh : ∀ e ∈ es, place e ≠ p := fun e among here => found ⟨e, among, here⟩
      exact (writes.others p fresh).trans (writes'.others p fresh).symm
  rw [writes.rest, writes'.rest, same]

theorem again (agreeing : Agreeing place change es) : writeAll place change es t = t := by
  have writes' := writes_writeAll agreeing t
  refine unique (s := s) ⟨fun e among => ?_, fun p fresh => ?_, ?_⟩ writes
  · rw [writes'.listed e among, writes.cell among, agreeing.once e among]
  · exact (writes'.others p fresh).trans (writes.others p fresh)
  · rw [writes'.rest, writes.rest]

end Writes

section Entering

variable {entries : List (Position × String)} {value : String}

/-- The listed values are entered, and nothing else is changed. -/
abbrev Enters (entries : List (Position × String)) (s t : Sheet) : Prop :=
  Writes Prod.fst (fun e c => c.withValue e.2) entries s t

theorem Enters.get?_of_forall_ne (enters : Enters entries s t) (fresh : ∀ value, (p, value) ∉ entries) :
    t.grid.get? p = s.grid.get? p :=
  enters.others p fun e among here => fresh e.2 (here ▸ among)

theorem Enters.raw (enters : Enters entries s t) (among : (p, value) ∈ entries) : t.raw p = value := by
  rw [Sheet.raw, Grid.raw_eq, ← Sheet.cell, Writes.cell enters among]
  rfl

/-- Nothing but the value of a cell is changed. -/
theorem Enters.cell_eq (enters : Enters entries s t) (p : Position) : t.cell p = (s.cell p).withValue (t.raw p) := by
  by_cases listed : ∃ e ∈ entries, e.1 = p
  · obtain ⟨e, among, rfl⟩ := listed
    rw [Writes.cell enters among, Enters.raw enters among]
  · rw [Sheet.raw, Grid.raw_eq, ← Sheet.cell, Writes.cell_of_forall_ne enters fun e among here => listed ⟨e, among, here⟩]
    rfl

/-- No two values are listed for a cell. -/
def Unambiguous (entries : List (Position × String)) : Prop :=
  ∀ p value other, (p, value) ∈ entries → (p, other) ∈ entries → value = other

variable (unambiguous : Unambiguous entries)
include unambiguous

theorem Unambiguous.agreeing : Agreeing Prod.fst (fun e c => c.withValue e.2) entries where
  same := by
    rintro ⟨p, value⟩ among ⟨_, other⟩ among' rfl
    rw [unambiguous p value other among among']
  once _ _ _ := rfl

theorem enters_enter (s : Sheet) : Enters entries s (entries.foldl (fun t (p, field) => t.setValue p field) s) :=
  writes_writeAll unambiguous.agreeing s

/-- Entering the same values again changes nothing. -/
theorem Enters.again (enters : Enters entries s t) : entries.foldl (fun t (p, field) => t.setValue p field) t = t :=
  Writes.again enters unambiguous.agreeing

end Entering

end Sheet

end Spreadsheet
