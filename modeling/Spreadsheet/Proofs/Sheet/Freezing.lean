import Spreadsheet.Proofs.Run
import Spreadsheet.Proofs.Sheet.Bounds
import Spreadsheet.Proofs.Sheet.Structure

/-! Frozen lines. Freezing stops at the bounds, and lines that are inserted or deleted take the frozen band along with the
bounds; but deleting a line beyond the last one takes a line from the bounds and none from the band, so that a band that
reached the bounds then reaches beyond them. Other edits leave the band alone and never take lines away. -/
namespace Spreadsheet

namespace Lines

/-- More lines, perhaps, and the same ones frozen. -/
structure Widens (l m : Lines) : Prop where
  count : l.count ≤ m.count
  frozen : m.frozen = l.frozen

theorem Widens.refl (l : Lines) : l.Widens l := ⟨Nat.le_refl _, rfl⟩

theorem widens_grow (count : Nat) (l : Lines) : l.Widens (l.grow count) := ⟨Nat.le_max_left _ _, rfl⟩

end Lines

namespace Sheet

/-- On neither axis are more lines frozen than there are. -/
def FrozenInside (s : Sheet) : Prop := ∀ axis, (s.lines axis).frozen ≤ (s.lines axis).count

/-- A line beyond the last one is deleted where all lines are frozen, several of them. -/
def Overruns (e : Edit) (s : Sheet) : Prop :=
  ∃ axis pivot, e = .deleteLine axis pivot ∧ (s.lines axis).count ≤ pivot ∧ 1 < (s.lines axis).count ∧
    (s.lines axis).frozen = (s.lines axis).count

/-- On both axes there are as many lines as before or more, and the same ones are frozen. -/
def Widens (s t : Sheet) : Prop := ∀ axis, (s.lines axis).Widens (t.lines axis)

variable {s t : Sheet}

theorem lines_mapLines (axis other : Axis) (f : Lines → Lines) (s : Sheet) :
    (s.mapLines axis f).lines other = if axis = other then f (s.lines other) else s.lines other := by
  cases axis <;> cases other <;> rfl

theorem widens_of_bounds (bounds : t.rows = s.rows ∧ t.cols = s.cols) : s.Widens t := by
  intro axis
  have same : t.lines axis = s.lines axis := by
    cases axis with
    | row => exact bounds.1
    | col => exact bounds.2
  rw [same]
  exact .refl _

theorem widens_mapLines (axis : Axis) {f : Lines → Lines} (widens : ∀ l : Lines, l.Widens (f l)) (s : Sheet) :
    s.Widens (s.mapLines axis f) := by
  intro other
  rw [lines_mapLines]
  split
  · exact widens _
  · exact .refl _

theorem Widens.trans {u : Sheet} (first : s.Widens t) (second : t.Widens u) : s.Widens u :=
  fun axis => ⟨Nat.le_trans (first axis).count (second axis).count, (second axis).frozen.trans (first axis).frozen⟩

theorem widens_ensureSize (rows cols : Nat) (s : Sheet) : s.Widens (s.ensureSize rows cols) :=
  (widens_mapLines .row (Lines.widens_grow rows) s).trans (widens_mapLines .col (Lines.widens_grow cols) _)

theorem widens_foldl {ε : Type} (entries : List ε) (f : Sheet → ε → Sheet)
    (same : ∀ t e, (f t e).rows = t.rows ∧ (f t e).cols = t.cols) (s : Sheet) : s.Widens (entries.foldl f s) :=
  widens_of_bounds (bounds_foldl entries f same s)

theorem widens_formatRange (r : Range) (f : Cell → Cell) (s : Sheet) : s.Widens (s.formatRange r f) :=
  widens_foldl r.cells (fun s p => s.updateCell p f) (fun _ _ => ⟨rfl, rfl⟩) s

theorem widens_clearRange (r : Range) (s : Sheet) : s.Widens (s.clearRange r) :=
  widens_foldl r.cells (fun s p => s.setValue p "") (fun _ _ => ⟨rfl, rfl⟩) s

theorem widens_enter (entries : List (Position × String)) (s : Sheet) :
    s.Widens (entries.foldl (fun t (p, field) => t.setValue p field) s) :=
  widens_of_bounds (s.bounds_enter entries)

theorem widens_merge (r : Range) (s : Sheet) : s.Widens (s.merge r).2 := by
  rw [merge]
  split
  · exact widens_of_bounds ⟨rfl, rfl⟩
  · exact widens_foldl (r.cells.filter (· ≠ r.origin)) (fun s p => s.setValue p "") (fun _ _ => ⟨rfl, rfl⟩) s

theorem widens_pasteRows (anchor : Position) (rows : List (List String)) (policy : GrowPolicy) (s : Sheet) :
    s.Widens (s.pasteRows anchor rows policy).2 := by
  unfold pasteRows
  cases policy with
  | grow =>
    dsimp only
    split
    · exact widens_of_bounds ⟨rfl, rfl⟩
    · exact (widens_ensureSize _ _ s).trans (widens_enter _ _)
  | clamp =>
    dsimp only
    split
    · exact widens_of_bounds ⟨rfl, rfl⟩
    · exact widens_enter _ s

theorem widens_importCsv (content : String) (s : Sheet) : s.Widens (s.importCsv content).2 := by
  rw [importCsv]
  split
  · exact widens_of_bounds ⟨rfl, rfl⟩
  · exact (widens_ensureSize _ _ s).trans (widens_enter _ _)

/-- Only freezing, inserting and deleting bear on the frozen band. -/
theorem apply_cases (e : Edit) (s : Sheet) : s.Widens (e.apply s) ∨ (∃ axis n, e = .freeze axis n) ∨
    (∃ axis place, e = .insertLine axis place) ∨ ∃ axis pivot, e = .deleteLine axis pivot := by
  cases e with
  | freeze axis n => exact .inr (.inl ⟨axis, n, rfl⟩)
  | insertLine axis place => exact .inr (.inr (.inl ⟨axis, place, rfl⟩))
  | deleteLine axis pivot => exact .inr (.inr (.inr ⟨axis, pivot, rfl⟩))
  | setSize axis i size => exact .inl (widens_mapLines axis (f := (·.setSize i size)) (fun _ => ⟨Nat.le_refl _, rfl⟩) s)
  | hide axis first final => exact .inl (widens_mapLines axis (f := (·.hide first final)) (fun _ => ⟨Nat.le_refl _, rfl⟩) s)
  | unhide axis first final => exact .inl (widens_mapLines axis (f := (·.unhide first final)) (fun _ => ⟨Nat.le_refl _, rfl⟩) s)
  | ensureSize rows cols => exact .inl (widens_ensureSize rows cols s)
  | clearRange r => exact .inl (widens_clearRange r s)
  | merge r => exact .inl (widens_merge r s)
  | autofill origin target => exact .inl (widens_of_bounds (bounds_autofill origin target s))
  | pasteText anchor text policy => exact .inl (widens_pasteRows anchor _ policy s)
  | importCsv content => exact .inl (widens_importCsv content s)
  | toggleStyle r | setFormat r | setAlignment r | setBackground r | setTextColor r | setFontSize r | setBorders r
  | clearFormatting r => exact .inl (widens_formatRange r _ s)
  | setValue | setCell | updateCell | unmerge | setFilter | clearFilter | clearAllFilters | setFilterEnabled | sort =>
    exact .inl (widens_of_bounds ⟨rfl, rfl⟩)

theorem FrozenInside.widens (inside : s.FrozenInside) (widens : s.Widens t) : t.FrozenInside := by
  intro axis
  rw [(widens axis).frozen]
  exact Nat.le_trans (inside axis) (widens axis).count

theorem FrozenInside.freeze (inside : s.FrozenInside) (axis : Axis) (n : Nat) : (s.freeze axis n).FrozenInside := by
  intro other
  rw [Sheet.freeze, lines_mapLines]
  split
  · exact Nat.min_le_right _ _
  · exact inside other

theorem FrozenInside.insertLine (inside : s.FrozenInside) (axis : Axis) (place : Nat) :
    (s.insertLine axis place).FrozenInside := by
  intro other
  rcases other.eq_or_eq_other axis with rfl | rfl
  · have before := inside other
    rw [lines_insertLine]
    simp only [Lines.insert]
    split <;> omega
  · rw [others_insertLine]
    exact inside _

/-- A deleted line leaves the frozen band inside the bounds, but for one beyond the bounds of a band that fills them. -/
theorem frozenInside_deleteLine_iff (inside : s.FrozenInside) (axis : Axis) (pivot : Nat) :
    (s.deleteLine axis pivot).FrozenInside ↔ ¬Overruns (.deleteLine axis pivot) s := by
  have here : ((s.lines axis).delete pivot).frozen ≤ ((s.lines axis).delete pivot).count ↔
      ¬((s.lines axis).count ≤ pivot ∧ 1 < (s.lines axis).count ∧ (s.lines axis).frozen = (s.lines axis).count) := by
    have before := inside axis
    simp only [Lines.delete]
    split <;> omega
  constructor
  · rintro after ⟨_, _, same, overruns⟩
    cases same
    have kept := after axis
    rw [lines_deleteLine, here] at kept
    exact kept overruns
  · intro spares other
    rcases other.eq_or_eq_other axis with rfl | rfl
    · rw [lines_deleteLine, here]
      exact fun overruns => spares ⟨other, pivot, rfl, overruns⟩
    · rw [others_deleteLine]
      exact inside _

theorem frozenInside_apply_iff (inside : s.FrozenInside) (e : Edit) : (e.apply s).FrozenInside ↔ ¬Overruns e s := by
  by_cases deletes : ∃ axis pivot, e = .deleteLine axis pivot
  · obtain ⟨axis, pivot, rfl⟩ := deletes
    exact frozenInside_deleteLine_iff inside axis pivot
  · refine iff_of_true ?_ fun ⟨axis, pivot, same, _⟩ => deletes ⟨axis, pivot, same⟩
    rcases apply_cases e s with widens | ⟨axis, n, rfl⟩ | ⟨axis, place, rfl⟩ | delete
    · exact inside.widens widens
    · exact inside.freeze axis n
    · exact inside.insertLine axis place
    · exact absurd delete deletes

/-- All along a run of edits of a sheet made with a size no more lines are frozen than there are, exactly if no line beyond
the last one is deleted while all of several lines are frozen. This is about runs whose sheets fit, where no number of lines
has run out of words. -/
theorem frozenInside_run_iff {name : String} {rows cols : Nat} {edits : List Edit} :
    FitsAlong edits (ofSize name rows cols) →
      ((∀ before, before <+: edits → (applyAll before (ofSize name rows cols)).FrozenInside) ↔
        ∀ before e, before ++ [e] <+: edits → ¬Overruns e (applyAll before (ofSize name rows cols))) := by
  intro _
  have begins : (ofSize name rows cols).FrozenInside := by
    intro axis
    cases axis <;> exact Nat.zero_le _
  have breaks (s : Sheet) (e : Edit) (_ : True) (inside : s.FrozenInside) :
      (e.apply s).FrozenInside ↔ ¬Overruns e s :=
    frozenInside_apply_iff inside e
  have kept (s : Sheet) (e : Edit) (_ : True) : True := trivial
  exact Run.forall_prefix_iff kept breaks trivial begins edits

/-- All five rows are frozen, and then the eighth one is deleted. -/
def overrun : List Edit := [.freeze .row 5, .deleteLine .row 7]

theorem frozenInside_run_iff_overrun : FitsAlong overrun (ofSize "S" 5 5) ∧
    Overruns (.deleteLine .row 7) (applyAll [.freeze .row 5] (ofSize "S" 5 5)) ∧
    ¬∀ before, before <+: overrun → (applyAll before (ofSize "S" 5 5)).FrozenInside := by
  have fits : FitsAlong overrun (ofSize "S" 5 5) := by decide +kernel
  have overruns : Overruns (.deleteLine .row 7) (applyAll [.freeze .row 5] (ofSize "S" 5 5)) :=
    ⟨.row, 7, rfl, by decide, by decide, rfl⟩
  exact ⟨fits, overruns, fun all => (frozenInside_run_iff fits).1 all [.freeze .row 5] _ List.prefix_rfl overruns⟩

theorem not_frozenInside_overrun : ¬(applyAll overrun (ofSize "S" 5 5)).FrozenInside := by
  intro inside
  exact absurd (inside .row) (by decide)

end Sheet

end Spreadsheet
