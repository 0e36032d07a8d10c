import Spreadsheet.Proofs.Payload.Workbook
import Spreadsheet.Proofs.Sheet.Lines
import Spreadsheet.Proofs.Sheet.Sorting
import Spreadsheet.Proofs.Sheet.Values

/-! Grids as they come up: empty, read from a record, or changed. None of them holds a blank cell, so two of them are the
same grid when the same cell is read at every position. The grids of sheets come up in this way too, for every edit of a
sheet is made of changes to its grid, and where rows or columns are moved no two of them are moved to one. -/
namespace Spreadsheet

namespace Grid

/-- Every way of changing a grid, as data. -/
inductive Edit
  | set (p : Position) (c : Cell)
  | setValue (p : Position) (value : String)
  | update (p : Position) (change : Cell → Cell)
  | delete (p : Position)
  | remap (row col : Nat → Option Nat)

def Edit.apply (e : Edit) (g : Grid) : Grid :=
  match e with
  | set p c => g.set p c
  | setValue p value => g.setValue p value
  | update p change => g.update p change
  | delete p => g.delete p
  | remap row col => g.remap row col

/-- The place that two maps give a position, where both give one. -/
def place (row col : Nat → Option Nat) (p : Position) : Option Position := do return ⟨← row p.row, ← col p.col⟩

/-- Where cells are moved, no two that are stored go to one place. -/
def Edit.Spreads (g : Grid) : Edit → Prop
  | remap row col => ∀ p ∈ g.cells.keys, ∀ q ∈ g.cells.keys, ∀ r, place row col p = some r → place row col q = some r → p = q
  | _ => True

inductive Reachable : Grid → Prop
  | empty : Reachable {}
  | read {j : Json} {g : Grid} (read : ofJson? j = some g) : Reachable g
  | edit {g : Grid} (reachable : Reachable g) {e : Edit} (spreads : e.Spreads g) : Reachable (e.apply g)

theorem noBlank_delete {g : Grid} (visible : g.NoBlank) (p : Position) : (g.delete p).NoBlank :=
  fun e inside => visible e (Table.mem_of_mem_erase inside)

theorem noBlank_apply {g : Grid} (visible : g.NoBlank) (e : Edit) : (e.apply g).NoBlank := by
  cases e with
  | set p c => exact noBlank_set visible p c
  | setValue p value => exact noBlank_update visible p _
  | update p change => exact noBlank_update visible p change
  | delete p => exact noBlank_delete visible p
  | remap row col => exact noBlank_remap visible row col

theorem Reachable.noBlank {g : Grid} (reachable : g.Reachable) : g.NoBlank := by
  induction reachable with
  | empty => exact noBlank_empty
  | read read => exact noBlank_ofJson? read
  | edit _ _ ih => exact noBlank_apply ih _

/-- What is stored can be told from what is read, for a blank cell is never stored. -/
theorem NoBlank.get?_eq {g : Grid} (visible : g.NoBlank) (p : Position) :
    g.get? p = if g.get p = .blank then none else some (g.get p) := by
  cases found : g.get? p with
  | none => simp [get, found]
  | some c =>
    have solid : c ≠ Cell.blank := visible (p, c) (Table.mem_entries_iff.2 found)
    simp [get, found, solid]

theorem NoBlank.eq_iff {g h : Grid} (visible : g.NoBlank) (visible' : h.NoBlank) :
    g = h ↔ ∀ p, g.get p = h.get p := by
  constructor
  · rintro rfl p
    rfl
  · intro same
    apply ext_get?
    intro p
    rw [visible.get?_eq, visible'.get?_eq, same]

theorem place_eq_some_iff {row col : Nat → Option Nat} {p q : Position} :
    place row col p = some q ↔ row p.row = some q.row ∧ col p.col = some q.col := by
  obtain ⟨i, j⟩ := q
  cases toRow : row p.row <;> cases toCol : col p.col <;> simp [place, toRow, toCol]

section

variable {row col : Nat → Option Nat} (rows : ∀ i j k, row i = some k → row j = some k → i = j)
  (cols : ∀ i j k, col i = some k → col j = some k → i = j)
include rows cols

theorem place_apart (p q r : Position) (lands : place row col p = some r) (lands' : place row col q = some r) : p = q := by
  obtain ⟨toRow, toCol⟩ := place_eq_some_iff.1 lands
  obtain ⟨toRow', toCol'⟩ := place_eq_some_iff.1 lands'
  exact congrArg₂ Position.mk (rows _ _ _ toRow toRow') (cols _ _ _ toCol toCol')

theorem spreads_remap (g : Grid) : (Edit.remap row col).Spreads g := Table.spreads_of_apart (place_apart rows cols) g.cells

end

theorem some_apart (i j k : Nat) (lands : some i = some k) (lands' : some j = some k) : i = j :=
  (Option.some.inj lands).trans (Option.some.inj lands').symm

end Grid

namespace Sheet

theorem stable_gridReachable : Stable (fun _ => True) fun s => s.grid.Reachable where
  setCell reachable p c := reachable.edit (e := .set p c) trivial
  sort {s} reachable col direction :=
    reachable.edit (Grid.spreads_remap (s.sortedRow_injective col direction) Grid.some_apart s.grid)
  mapLines reachable axis _ _ := by cases axis <;> exact reachable
  insertLine {s} reachable axis place := by
    cases axis with
    | row => exact reachable.edit (Grid.spreads_remap (insertIndex_apart place) Grid.some_apart s.grid)
    | col => exact reachable.edit (Grid.spreads_remap Grid.some_apart (insertIndex_apart place) s.grid)
  deleteLine {s} reachable axis pivot := by
    cases axis with
    | row => exact reachable.edit (Grid.spreads_remap (deleteIndex_apart pivot) Grid.some_apart s.grid)
    | col => exact reachable.edit (Grid.spreads_remap Grid.some_apart (deleteIndex_apart pivot) s.grid)
  merge {s} reachable r _ := by
    rw [merge]
    split
    · exact reachable
    · refine List.foldlRecOn (motive := fun s : Sheet => s.grid.Reachable) (r.cells.filter (· ≠ r.origin)) _ reachable ?_
      exact fun _ reachable p _ => reachable.edit (e := .setValue p "") trivial
  unmerge reachable _ := reachable
  filter reachable _ _ := reachable

theorem Reachable.gridReachable {s : Sheet} (reachable : s.Reachable) : s.grid.Reachable := by
  induction reachable with
  | ofSize => exact .empty
  | read read =>
    obtain ⟨r, _, cells, _⟩ := exists_record read
    rcases Json.field_cases cells with empty | ⟨j, view⟩
    · rw [← empty]
      exact .empty
    · exact .read view
  | edit _ e ih => exact stable_gridReachable.apply ih e fun _ _ => trivial

end Sheet

namespace Grid

/-- No grid that comes up stores a blank cell, so two of them are equal just when they read the same everywhere; and the
grids of sheets that come up are such grids. -/
theorem canonical {g h : Grid} (reachable : g.Reachable) (reachable' : h.Reachable) {s t : Sheet} (made : s.Reachable)
    (made' : t.Reachable) :
    g.NoBlank ∧ (g = h ↔ ∀ p, g.get p = h.get p) ∧ s.grid.Reachable ∧ s.grid.NoBlank ∧
      (s.grid = t.grid ↔ ∀ p, s.cell p = t.cell p) := by
  have visible := made.gridReachable.noBlank
  have visible' := made'.gridReachable.noBlank
  exact ⟨reachable.noBlank, reachable.noBlank.eq_iff reachable'.noBlank, made.gridReachable, visible,
    visible.eq_iff visible'⟩

/-- A record with a blank cell in it. -/
def listing : Json :=
  .object [("1:1".toList, .object [("value".toList, .string ['x'])]), ("0:0".toList, .object [("value".toList, .string [])])]

/-- A grid with one cell that came from the row above, and another one that was bold for a while. -/
def restyled : Grid :=
  (((Grid.update {} ⟨2, 2⟩ fun c => { c with bold := true }).setValue ⟨0, 1⟩ "x").update ⟨2, 2⟩ fun c =>
    { c with bold := false }).remap (insertIndex 0) some

/-- The default sheet with cells that were bold for a while. -/
def toggled : Sheet := Sheet.applyAll [.toggleStyle ⟨3, 0, 4, 1⟩ .bold, .toggleStyle ⟨3, 0, 4, 1⟩ .bold] .default

theorem canonical_restyled : restyled.Reachable ∧ ofJson? listing = some restyled ∧ restyled.NoBlank ∧
    toggled.Reachable ∧ ∀ p, toggled.cell p = Sheet.default.cell p := by
  have reachable : restyled.Reachable := by
    refine .edit (e := .remap (insertIndex 0) some) ?_ (spreads_remap (insertIndex_apart 0) some_apart _)
    exact (((Reachable.empty.edit (e := .update ⟨2, 2⟩ fun c => { c with bold := true }) trivial).edit
      (e := .setValue ⟨0, 1⟩ "x") trivial).edit (e := .update ⟨2, 2⟩ fun c => { c with bold := false }) trivial)
  have read : ofJson? listing = some restyled := by decide +kernel
  have made : Sheet.default.Reachable := .ofSize _ _ _
  have made' : toggled.Reachable := made.applyAll _
  have same : toggled.grid = Sheet.default.grid := by decide +kernel
  obtain ⟨visible, _, _, _, agree⟩ := canonical reachable (.read read) made' made
  exact ⟨reachable, read, visible, made', agree.1 same⟩

end Grid

end Spreadsheet
