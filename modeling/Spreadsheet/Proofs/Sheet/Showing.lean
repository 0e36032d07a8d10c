import Spreadsheet.Proofs.Sheet.Freezing
import Spreadsheet.Proofs.Sheet.Movement

/-! What a sheet shows. The set of the rows that are not shown, the list of those that are and the test of a single row
give one and the same view. Hiding and filtering keep apart: however they come one after the other, each of them leaves
what it would leave without the other. A filter that lets the values of its own column through hides nothing. -/
namespace Spreadsheet.Sheet

/-- Lines are hidden, or are no longer hidden. -/
inductive Hiding
  | hide (axis : Axis) (first final : Nat)
  | unhide (axis : Axis) (first final : Nat)

/-- A filter is set or cleared, all are cleared, or filtering is turned on or off. -/
inductive Filtering
  | set (col : Nat) (allowed : Keys String)
  | clear (col : Nat)
  | clearAll
  | enable (enabled : Bool)

def Hiding.edit : Hiding → Edit
  | hide axis first final => .hide axis first final
  | unhide axis first final => .unhide axis first final

def Filtering.edit : Filtering → Edit
  | set col allowed => .setFilter col allowed
  | clear col => .clearFilter col
  | clearAll => .clearAllFilters
  | enable enabled => .setFilterEnabled enabled

/-- Edits of both kinds, one after another. -/
def showAll (edits : List (Hiding ⊕ Filtering)) (s : Sheet) : Sheet :=
  applyAll (edits.map (Sum.elim Hiding.edit Filtering.edit)) s

def hiddenLines (s : Sheet) (axis : Axis) : Keys Nat := (s.lines axis).hidden

def filterState (s : Sheet) : Bool × Table Nat (Keys String) := (s.filterEnabled, s.filters)

/-- All accounts of what is shown agree. -/
structure Viewed (s : Sheet) : Prop where
  hidden : ∀ row, s.isRowHidden row = true ↔ ¬s.ShowsRow row
  notShown : ∀ row, s.rowsNotShown.contains row = true ↔ row < s.rows.count ∧ s.isRowHidden row = true
  visible : ∀ row, row ∈ s.visibleRows ↔ row < s.rows.count ∧ s.rowsNotShown.contains row = false
  increasing : s.visibleRows.Pairwise (· < ·)

variable {s t : Sheet} {row col : Nat}

section Viewed

theorem isRowHidden_iff (s : Sheet) (row : Nat) : s.isRowHidden row = true ↔ ¬s.ShowsRow row := by
  rw [← isRowHidden_eq_false_iff, Bool.not_eq_false]

theorem isRowFiltered_of_unfiltered (unfiltered : (s.filterEnabled && !s.filters.isEmpty) = false) (row : Nat) :
    s.isRowFiltered row = false := by
  cases enabled : s.filterEnabled with
  | false => simp [isRowFiltered, enabled]
  | true =>
    have none : s.filters.entries = [] := by simpa [enabled, Table.isEmpty] using unfiltered
    simp [isRowFiltered, none]

theorem contains_rowsNotShown_iff (s : Sheet) (row : Nat) :
    s.rowsNotShown.contains row = true ↔ row < s.rows.count ∧ s.isRowHidden row = true := by
  rw [rowsNotShown, isRowHidden, Bool.or_eq_true]
  split
  next =>
    rw [Keys.contains_addAll_iff, Keys.contains_filter_iff, List.mem_filter, List.mem_range, decide_eq_true_iff,
      ← and_or_left, or_comm]
  next unfiltered =>
    rw [Keys.contains_filter_iff, isRowFiltered_of_unfiltered (Bool.eq_false_iff.2 unfiltered), decide_eq_true_iff]
    simp

theorem mem_visibleRows_iff : row ∈ s.visibleRows ↔ row < s.rows.count ∧ s.isRowHidden row = false := by
  rw [visibleRows, List.mem_filter, List.mem_range, Bool.not_eq_true']

theorem viewed (s : Sheet) : s.Viewed where
  hidden := isRowHidden_iff s
  notShown := contains_rowsNotShown_iff s
  visible row := by
    rw [mem_visibleRows_iff, ← Bool.not_eq_true, ← Bool.not_eq_true, contains_rowsNotShown_iff]
    refine and_congr_right fun inside => not_congr ?_
    rw [and_iff_right inside]
  increasing := List.pairwise_lt_range.filter _

end Viewed

section Interleaving

theorem hiddenLines_mapLines (axis : Axis) {f : Lines → Lines} (change : Keys Nat → Keys Nat)
    (changes : ∀ l, (f l).hidden = change l.hidden) (same : s.hiddenLines = t.hiddenLines) :
    (s.mapLines axis f).hiddenLines = (t.mapLines axis f).hiddenLines := by
  funext other
  have here : (s.lines other).hidden = (t.lines other).hidden := congrFun same other
  rw [hiddenLines, hiddenLines, lines_mapLines, lines_mapLines]
  split
  · rw [changes, changes, here]
  · exact here

theorem hiddenLines_hiding (e : Hiding) (same : s.hiddenLines = t.hiddenLines) :
    (e.edit.apply s).hiddenLines = (e.edit.apply t).hiddenLines := by
  cases e with
  | hide axis first final => exact hiddenLines_mapLines axis (·.addAll (Range.span first final)) (fun _ => rfl) same
  | unhide axis first final => exact hiddenLines_mapLines axis (·.removeAll (Range.span first final)) (fun _ => rfl) same

theorem hiddenLines_filtering (e : Filtering) (s : Sheet) : (e.edit.apply s).hiddenLines = s.hiddenLines := by
  cases e <;> rfl

theorem filterState_hiding (e : Hiding) (s : Sheet) : (e.edit.apply s).filterState = s.filterState := by
  cases e with
  | hide axis => cases axis <;> rfl
  | unhide axis => cases axis <;> rfl

theorem filterState_filtering (e : Filtering) (same : s.filterState = t.filterState) :
    (e.edit.apply s).filterState = (e.edit.apply t).filterState := by
  obtain ⟨enabled, filters⟩ := Prod.mk.inj same
  cases e with
  | set col allowed => simp only [Filtering.edit, Edit.apply, setFilter, filterState, filters]
  | clear col => simp only [Filtering.edit, Edit.apply, clearFilter, filterState, enabled, filters]
  | clearAll => simp only [Filtering.edit, Edit.apply, clearAllFilters, filterState, enabled]
  | enable enabled => simp only [Filtering.edit, Edit.apply, setFilterEnabled, filterState, filters]

theorem showAll_eq (edits : List (Hiding ⊕ Filtering)) (s : Sheet) :
    showAll edits s = edits.foldl (fun s e => (Sum.elim Hiding.edit Filtering.edit e).apply s) s := by
  rw [showAll, applyAll, List.foldl_map]

theorem hiddenLines_showAll (edits : List (Hiding ⊕ Filtering)) (same : s.hiddenLines = t.hiddenLines) :
    (showAll edits s).hiddenLines = (showAll (edits.filter Sum.isLeft) t).hiddenLines := by
  rw [showAll_eq, showAll_eq]
  refine Run.part_filter ?_ ?_ same edits
  · rintro (e | e) kind b c same
    · exact hiddenLines_hiding e same
    · cases kind
  · rintro (e | e) kind b
    · cases kind
    · exact hiddenLines_filtering e b

theorem filterState_showAll (edits : List (Hiding ⊕ Filtering)) (same : s.filterState = t.filterState) :
    (showAll edits s).filterState = (showAll (edits.filter Sum.isRight) t).filterState := by
  rw [showAll_eq, showAll_eq]
  refine Run.part_filter ?_ ?_ same edits
  · rintro (e | e) kind b c same
    · cases kind
    · exact filterState_filtering e same
  · rintro (e | e) kind b
    · exact filterState_hiding e b
    · cases kind

end Interleaving

section Distinct

theorem contains_distinctValues_iff {value : String} : (s.distinctValues col).contains value = true ↔
    ∃ row < s.rows.count, s.rows.hidden.contains row = false ∧ s.raw ⟨row, col⟩ = value := by
  rw [distinctValues, Keys.contains_ofList_iff, List.mem_map]
  simp only [List.mem_filter, List.mem_range, Bool.not_eq_true', and_assoc]

theorem showsRow_iff : s.ShowsRow row ↔ s.rows.hidden.contains row = false ∧
    (s.filterEnabled = true → ∀ c a, s.filters.get? c = some a → a.contains (s.raw ⟨row, c⟩) = true) := by
  have listed : (∀ e ∈ s.filters.entries, e.2.contains (s.raw ⟨row, e.1⟩) = true) ↔
      ∀ c a, s.filters.get? c = some a → a.contains (s.raw ⟨row, c⟩) = true :=
    Table.forall_entries_iff
  rw [← listed]
  exact ⟨fun shows => ⟨shows.unhidden, shows.allowed⟩, fun shown => ⟨shown.1, shown.2⟩⟩

/-- A filter that is set lets through those rows of the sheet without it that hold an allowed value. -/
theorem showsRow_setFilter_iff (s : Sheet) (col : Nat) (allowed : Keys String) (row : Nat) :
    (s.setFilter col allowed).ShowsRow row ↔
      ((s.clearFilter col).setFilterEnabled true).ShowsRow row ∧ allowed.contains (s.raw ⟨row, col⟩) = true := by
  have split : (∀ c a, (s.filters.insert col allowed).get? c = some a → a.contains (s.raw ⟨row, c⟩) = true) ↔
      (∀ c a, (s.filters.erase col).get? c = some a → a.contains (s.raw ⟨row, c⟩) = true) ∧
        allowed.contains (s.raw ⟨row, col⟩) = true := by
    simp only [Table.get?_insert, Table.get?_erase]
    constructor
    · intro all
      refine ⟨fun c a found => all c a ?_, all col allowed (if_pos rfl)⟩
      split at found
      next => cases found
      next other => rwa [if_neg other]
    · rintro ⟨others, here⟩ c a found
      split at found
      next same =>
        cases found
        rwa [same]
      next other => exact others c a (by rwa [if_neg other])
  rw [showsRow_iff, showsRow_iff]
  simp only [setFilter, clearFilter, setFilterEnabled, forall_const, and_assoc]
  exact and_congr_right fun _ => split

theorem contains_distinctValues_of_showsRow (inside : row < s.rows.count) (col : Nat)
    (shows : ((s.clearFilter col).setFilterEnabled true).ShowsRow row) :
    (s.distinctValues col).contains (s.raw ⟨row, col⟩) = true :=
  contains_distinctValues_iff.2 ⟨row, inside, shows.unhidden, rfl⟩

theorem visibleRows_distinctValues (s : Sheet) (col : Nat) :
    (s.setFilter col (s.distinctValues col)).visibleRows = ((s.clearFilter col).setFilterEnabled true).visibleRows := by
  refine List.filter_congr fun row among => congrArg not (Bool.eq_iff_iff.2 ?_)
  have inside : row < s.rows.count := List.mem_range.1 among
  rw [isRowHidden_iff, isRowHidden_iff, showsRow_setFilter_iff,
    and_iff_left_of_imp (contains_distinctValues_of_showsRow inside col)]

end Distinct

/-- All accounts of what a sheet shows agree. However hiding and filtering come one after the other, the hidden lines come of
those before and the hiding alone, and the filters of those before and the filtering alone. A filter that lets all values
of its column through, but for those in hidden rows, shows the rows that are shown without it. -/
theorem view_composes (s : Sheet) :
    s.Viewed ∧
    (∀ t edits,
      (s.hiddenLines = t.hiddenLines →
        (showAll edits s).hiddenLines = (showAll (edits.filter Sum.isLeft) t).hiddenLines) ∧
      (s.filterState = t.filterState →
        (showAll edits s).filterState = (showAll (edits.filter Sum.isRight) t).filterState)) ∧
    ∀ col, (s.setFilter col (s.distinctValues col)).visibleRows =
      ((s.clearFilter col).setFilterEnabled true).visibleRows :=
  ⟨s.viewed, fun _ edits => ⟨hiddenLines_showAll edits, filterState_showAll edits⟩, s.visibleRows_distinctValues⟩

example : (showAll [.inl (.hide .row 0 1), .inr (.set 0 (Keys.ofList ["plum"])), .inl (.unhide .row 0 0)]
    (((ofSize "Fruit" 3 1).setValue ⟨1, 0⟩ "plum").setValue ⟨2, 0⟩ "plum")).visibleRows = [2] := by decide +kernel

end Spreadsheet.Sheet
