import Spreadsheet.Proofs.Payload.Canonical
import Spreadsheet.Proofs.Sheet.Commuting

/-! Cells moved by two maps of indices, one for their rows and one for their columns. Where no two of them go to one place,
each cell that has a place is found there and nowhere else, in whatever order the cells are moved. Lines are inserted and
deleted, and rows are sorted, by maps that send no two lines to one. -/
namespace Spreadsheet

namespace Grid

/-- Cells put one after another where the two maps send them. -/
def gather (row col : Nat → Option Nat) (l : List (Position × Cell)) : Grid :=
  ⟨l.foldl (fun t e => match place row col e.1 with
    | some q => t.insert q e.2
    | none => t) ∅⟩

/-- A cell is stored at the first position, and the maps keep it and send it to the second. -/
structure Sends (row col : Nat → Option Nat) (g : Grid) (p q : Position) : Prop where
  stored : p ∈ g.cells.keys
  row : row p.row = some q.row
  col : col p.col = some q.col

/-- The second grid has the cells of the first that are kept, each where the maps send it, and no others. -/
structure Remapped (row col : Nat → Option Nat) (g h : Grid) : Prop where
  found : ∀ p q, Sends row col g p q → h.get? q = g.get? p ∧ ∀ p', Sends row col g p' q → p' = p
  vacant : ∀ q, (∀ p, ¬Sends row col g p q) → h.get? q = none
  size : h.size = (g.cells.keys.filter fun p => (row p.row).isSome && (col p.col).isSome).length
  visible : h.NoBlank
  inAnyOrder : ∀ l, l.Perm g.cells.entries → gather row col l = h

/-- No two of these positions that the maps keep go to one. -/
def Separates (among : Position → Prop) (row col : Nat → Option Nat) : Prop :=
  ∀ p q r, among p → among q → place row col p = some r → place row col q = some r → p = q

variable {row col : Nat → Option Nat} {g : Grid} {p q : Position}

theorem sends_iff : Sends row col g p q ↔ p ∈ g.cells.keys ∧ place row col p = some q := by
  rw [place_eq_some_iff]
  exact ⟨fun ⟨stored, toRow, toCol⟩ => ⟨stored, toRow, toCol⟩, fun ⟨stored, toRow, toCol⟩ => ⟨stored, toRow, toCol⟩⟩

theorem isSome_place (row col : Nat → Option Nat) (p : Position) :
    (place row col p).isSome = ((row p.row).isSome && (col p.col).isSome) := by
  cases toRow : row p.row <;> cases toCol : col p.col <;> simp [place, toRow, toCol]

theorem gather_eq (row col : Nat → Option Nat) (l : List (Position × Cell)) :
    gather row col l = ⟨Table.ofList (l.filterMap fun e => (place row col e.1).map (·, e.2))⟩ := by
  rw [gather, Table.ofList, List.foldl_filterMap]
  congr 2
  funext t e
  cases place row col e.1 <;> rfl

section

variable (spreads : g.cells.Spreads (place row col))
include spreads

theorem get?_remap (sends : Sends row col g p q) : (g.remap row col).get? q = g.get? p := by
  obtain ⟨stored, lands⟩ := sends_iff.1 sends
  obtain ⟨⟨_, c⟩, inside, rfl⟩ := List.mem_map.1 stored
  have found : (q, c) ∈ (g.remap row col).cells.entries := spreads.mem_rekey_iff.2 ⟨_, lands, inside⟩
  exact (Table.mem_entries_iff.1 found).trans (Table.mem_entries_iff.1 inside).symm

theorem get?_remap_vacant (vacant : ∀ p, ¬Sends row col g p q) : (g.remap row col).get? q = none := by
  rw [Option.eq_none_iff_forall_ne_some]
  intro c found
  obtain ⟨p, lands, inside⟩ := spreads.mem_rekey_iff.1 (Table.mem_entries_iff.2 found)
  exact vacant p (sends_iff.2 ⟨List.mem_map_of_mem inside, lands⟩)

theorem size_remap :
    (g.remap row col).size = (g.cells.keys.filter fun p => (row p.row).isSome && (col p.col).isSome).length := by
  have kept : (g.remap row col).size = _ := spreads.perm_entries_rekey.length_eq
  simp only [kept, List.length_filterMap_eq_countP, Option.isSome_map, isSome_place, ← List.countP_eq_length_filter,
    Table.keys, List.countP_map]
  rfl

theorem gather_of_perm {l : List (Position × Cell)} (same : l.Perm g.cells.entries) : gather row col l = g.remap row col := by
  rw [gather_eq]
  exact congrArg Grid.mk (Table.ofList_of_perm ((same.filterMap _).trans spreads.perm_entries_rekey.symm))

theorem remapped_remap (visible : g.NoBlank) : Remapped row col g (g.remap row col) where
  found p q sends := by
    refine ⟨get?_remap spreads sends, fun p' sends' => ?_⟩
    obtain ⟨stored, lands⟩ := sends_iff.1 sends
    obtain ⟨stored', lands'⟩ := sends_iff.1 sends'
    exact spreads _ stored' _ stored q lands' lands
  vacant _ vacant := get?_remap_vacant spreads vacant
  size := size_remap spreads
  visible := noBlank_remap visible row col
  inAnyOrder _ same := gather_of_perm spreads same

end

end Grid

namespace LineEdit

/-- Where rows go when a line of the axis is inserted or deleted. -/
def rowIndex (axis : Axis) (d : LineEdit) : Nat → Option Nat :=
  match axis with
  | .row => d.index
  | .col => some

def colIndex (axis : Axis) (d : LineEdit) : Nat → Option Nat :=
  match axis with
  | .row => some
  | .col => d.index

theorem grid_apply (axis : Axis) (d : LineEdit) (s : Sheet) :
    (d.apply axis s).grid = s.grid.remap (d.rowIndex axis) (d.colIndex axis) := by
  cases d <;> cases axis <;> rfl

theorem separates (axis : Axis) (d : LineEdit) (among : Position → Prop) :
    Grid.Separates among (d.rowIndex axis) (d.colIndex axis) := by
  intro p q r _ _
  cases axis with
  | row => exact Grid.place_apart d.index_apart Grid.some_apart p q r
  | col => exact Grid.place_apart Grid.some_apart d.index_apart p q r

/-- If the position is kept, words name the place that it goes to. -/
def Lands (axis : Axis) (d : LineEdit) (p : Position) : Prop :=
  ∀ q, Grid.place (d.rowIndex axis) (d.colIndex axis) p = some q → q.Fits

/-- The cells of a sheet that fits go to cells of the one that is left, which fits as well. -/
theorem lands_of_hasRoom {axis : Axis} {d : LineEdit} {s : Sheet} (fits : s.Fits) (room : d.HasRoom axis s) :
    ∀ p ∈ s.grid.cells.keys, d.Lands axis p := by
  intro p stored q lands
  obtain ⟨⟨p, c⟩, inside, rfl⟩ := List.mem_map.1 stored
  have spreads : s.grid.cells.Spreads (Grid.place (d.rowIndex axis) (d.colIndex axis)) :=
    fun p _ p' _ r => d.separates axis (fun _ => True) p p' r trivial trivial
  have left := (fits_apply fits room).grid
  rw [grid_apply] at left
  exact (left _ (spreads.mem_rekey_iff.2 ⟨p, lands, inside⟩)).1

end LineEdit

namespace Grid

/-- Where no two cells that are kept go to one place, moving cells loses and invents none. Where a line is inserted or
deleted no two positions go to one place, as long as words name the places that they go to; they do for the cells of a sheet
that has room for the line, and the sheet that is left fits again. Nor do any two when rows are sorted. -/
theorem remap_loses_and_invents_nothing {g : Grid} (visible : g.NoBlank) {row col : Nat → Option Nat}
    (spreads : g.cells.Spreads (place row col)) :
    Remapped row col g (g.remap row col) ∧
      (∀ (axis : Axis) (d : LineEdit), Separates (d.Lands axis) (d.rowIndex axis) (d.colIndex axis)) ∧
      ∀ s : Sheet, s.Fits →
        (∀ (axis : Axis) (d : LineEdit), d.HasRoom axis s →
          (d.apply axis s).grid = s.grid.remap (d.rowIndex axis) (d.colIndex axis) ∧
            (∀ p ∈ s.grid.cells.keys, d.Lands axis p) ∧ (d.apply axis s).Fits) ∧
        ∀ key direction, (s.sortByColumn key direction).grid =
            s.grid.remap (fun row => some (s.sortedRow key direction row)) some ∧
          Separates (fun _ => True) (fun row => some (s.sortedRow key direction row)) some := by
  refine ⟨remapped_remap spreads visible, fun axis d => d.separates axis _, fun s fits => ⟨fun axis d room => ?_, ?_⟩⟩
  · exact ⟨d.grid_apply axis s, LineEdit.lands_of_hasRoom fits room, LineEdit.fits_apply fits room⟩
  · intro key direction
    have apart := place_apart (s.sortedRow_injective key direction) some_apart
    exact ⟨rfl, fun p q r _ _ => apart p q r⟩

/-- Cells in rows that halving parts, and one in a row that it drops. -/
def spaced : Grid := ((Grid.setValue {} ⟨0, 1⟩ "a").setValue ⟨3, 1⟩ "b").setValue ⟨5, 0⟩ "c"

/-- Two rows go to one, though no two rows of the cells do. -/
def halve (row : Nat) : Option Nat := if row = 5 then none else some (row / 2)

theorem remap_loses_and_invents_nothing_halved :
    spaced.NoBlank ∧ spaced.cells.Spreads (place halve some) ∧ Remapped halve some spaced (spaced.remap halve some) ∧
      (spaced.remap halve some).get? ⟨1, 1⟩ = spaced.get? ⟨3, 1⟩ ∧ (spaced.remap halve some).size = 2 := by
  have visible : spaced.NoBlank := noBlank_update (noBlank_update (noBlank_update noBlank_empty _ _) _ _) _ _
  have apart : ∀ p ∈ spaced.cells.keys, ∀ q ∈ spaced.cells.keys,
      (place halve some p).isSome → place halve some p = place halve some q → p = q := by decide +kernel
  have spreads : spaced.cells.Spreads (place halve some) := by
    intro p inside q inside' r lands lands'
    exact apart p inside q inside' (by simp [lands]) (lands.trans lands'.symm)
  obtain ⟨remapped, _, _⟩ := remap_loses_and_invents_nothing visible spreads
  have sends : Sends halve some spaced ⟨3, 1⟩ ⟨1, 1⟩ := ⟨by decide +kernel, rfl, rfl⟩
  exact ⟨visible, spreads, remapped, (remapped.found _ _ sends).1, remapped.size.trans (by decide +kernel)⟩

end Grid

end Spreadsheet
