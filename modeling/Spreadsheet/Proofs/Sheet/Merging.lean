import Mathlib.Data.List.Pairwise
import Spreadsheet.Proofs.Sheet.Merges
import Spreadsheet.Proofs.Sheet.Writing

/-! Merging a range and taking merges away. Merges that share a cell with a new one are dissolved and all others stay, the
cells of the new one lose their values apart from the first, and nothing else changes. No cell is in two merges, so the
merge found at a cell is the only one there, and taking it away leaves all the others. -/
namespace Spreadsheet

namespace Sheet

variable {s : Sheet} {m n r : Range} {p : Position}

theorem Apart.eq_of_contains (apart : s.Apart) (listed : m ∈ s.merges) (listed' : n ∈ s.merges)
    (inside : m.contains p = true) (inside' : n.contains p = true) : m = n := by
  by_contra other
  have symmetric : Std.Symm fun m n : Range => m.intersects n = false :=
    ⟨fun m n apart => (n.intersects_comm m).trans apart⟩
  have disjoint := apart.apart.forall listed listed' other
  exact Range.not_shared disjoint p ⟨inside, inside'⟩

theorem Apart.nodup (apart : s.Apart) : s.merges.Nodup := by
  apply apart.apart.imp_of_mem
  intro m n listed _ disjoint same
  subst same
  have first := Range.contains_origin (apart.proper m listed).ordered
  exact Range.not_shared disjoint m.origin ⟨first, first⟩

theorem Apart.mergeAt_eq (apart : s.Apart) (listed : m ∈ s.merges) (inside : m.contains p = true) :
    s.mergeAt p = some m := by
  rw [mergeAt]
  cases found : s.merges.find? (·.contains p) with
  | none =>
    have outside := List.find?_eq_none.1 found m listed
    exact absurd inside outside
  | some n =>
    have listed' : n ∈ s.merges := List.mem_of_find?_eq_some found
    have inside' := List.find?_some found
    rw [apart.eq_of_contains listed listed' inside inside']

/-- At a cell that a merge covers, that merge is found and alone taken away; at any other cell there is none to find. -/
structure Unmerges (p : Position) (s : Sheet) : Prop where
  covered : ∀ m ∈ s.merges, m.contains p = true →
    s.mergeAt p = some m ∧ s.unmerge p = (true, { s with merges := s.merges.erase m })
  uncovered : (∀ m ∈ s.merges, m.contains p = false) → s.mergeAt p = none ∧ s.unmerge p = (false, s)

theorem Apart.unmerge_eq (apart : s.Apart) (listed : m ∈ s.merges) (inside : m.contains p = true) :
    s.unmerge p = (true, { s with merges := s.merges.erase m }) := by
  have covering : s.merges.any (·.contains p) = true := List.any_eq_true.2 ⟨m, listed, inside⟩
  have left : s.merges.filter (fun n => !n.contains p) = s.merges.erase m := by
    rw [apart.nodup.erase_eq_filter]
    apply List.filter_congr
    intro n listed'
    by_cases same : n = m
    · simp [same, inside]
    · have outside : n.contains p ≠ true := fun inside' => same (apart.eq_of_contains listed' listed inside' inside)
      simp [same, outside]
  rw [unmerge, covering, left]

theorem Apart.unmerges (apart : s.Apart) (p : Position) : Unmerges p s where
  covered m listed inside := ⟨apart.mergeAt_eq listed inside, apart.unmerge_eq listed inside⟩
  uncovered outside := by
    have all : s.merges.filter (fun m => !m.contains p) = s.merges := by
      rw [List.filter_eq_self]
      intro m listed
      simp [outside m listed]
    have none : s.merges.any (·.contains p) = false := by
      rw [List.any_eq_false]
      intro m listed
      simp [outside m listed]
    refine ⟨List.find?_eq_none.2 fun m listed => ?_, ?_⟩
    · simp [outside m listed]
    · rw [unmerge, none, all]

/-- What merging a range makes of a sheet. -/
structure Merged (r : Range) (s t : Sheet) : Prop where
  covered : ∀ p, r.contains p = true → t.mergeAt p = some r
  merges : t.merges = s.merges.filter (fun m => ∀ p ∈ m.cells, r.contains p = false) ++ [r]
  cleared : ∀ p, r.contains p = true → p ≠ r.origin → t.grid.get? p = (s.cell p).styleOnly.stored
  others : ∀ p, p = r.origin ∨ r.contains p = false → t.grid.get? p = s.grid.get? p
  rest : t = { s with grid := t.grid, merges := t.merges }

theorem merge_single (single : r.isSingle = true) (s : Sheet) : s.merge r = (false, s) := if_pos single

/-- The values of a range are taken away, but for that of its first cell. -/
def clearMerged (r : Range) (s : Sheet) : Sheet :=
  writeAll id (fun _ c => c.withValue "") (r.cells.filter (· ≠ r.origin)) s

theorem merge_several (several : r.isSingle = false) (s : Sheet) :
    s.merge r = (true, { s.clearMerged r with merges := s.merges.filter (fun m => !m.intersects r) ++ [r] }) :=
  if_neg (Bool.not_eq_true _ ▸ several)

theorem writes_clearMerged (r : Range) (s : Sheet) :
    Writes id (fun _ c => c.withValue "") (r.cells.filter (· ≠ r.origin)) s (s.clearMerged r) := by
  apply writes_writeAll
  exact ⟨fun _ _ _ _ _ => rfl, fun _ _ _ => rfl⟩

theorem Fits.merge (fits : s.Fits) (corners : r.Fits) : (s.merge r).2.Fits := by
  cases single : r.isSingle with
  | true =>
    rw [merge_single single]
    exact fits
  | false =>
    have cleared : (s.clearMerged r).Fits := by
      refine (s.writes_clearMerged r).fits fits (fun p listed => ?_) fun _ _ _ small => small
      have inside := Range.mem_cells_iff.1 (List.mem_filter.1 listed).1
      simp only [Range.contains, Bool.and_eq_true, decide_eq_true_eq] at inside
      exact ⟨Nat.lt_of_le_of_lt inside.1.1.2 corners.endRow, Nat.lt_of_le_of_lt inside.2 corners.endCol⟩
    rw [merge_several single]
    refine ⟨cleared.grid, cleared.rows, cleared.cols, fun m among => ?_, cleared.filters⟩
    rcases List.mem_append.1 among with old | new
    · exact fits.merges m (List.mem_of_mem_filter old)
    · exact List.mem_singleton.1 new ▸ corners

/-- The merges that stay are those that share no cell with the new one. -/
theorem Apart.filter_intersects (apart : s.Apart) (proper : r.Proper) :
    s.merges.filter (fun m => !m.intersects r) = s.merges.filter fun m => ∀ p ∈ m.cells, r.contains p = false := by
  apply List.filter_congr
  intro m listed
  rw [Bool.eq_iff_iff, Bool.not_eq_true', ← Bool.not_eq_true,
    Range.intersects_iff (apart.proper m listed).ordered proper.ordered, decide_eq_true_eq]
  constructor
  · intro none p inside
    apply Bool.eq_false_iff.2
    intro inside'
    exact none ⟨p, Range.mem_cells_iff.1 inside, inside'⟩
  · rintro none ⟨p, inside, inside'⟩
    rw [none p (Range.mem_cells_iff.2 inside)] at inside'
    cases inside'

theorem Apart.merged (apart : s.Apart) (proper : r.Proper) : Merged r s (s.merge r).2 := by
  have after := apart.merge proper.rows proper.cols
  have writes := s.writes_clearMerged r
  rw [merge_several proper.several] at after ⊢
  refine ⟨fun p inside => ?_, ?_, fun p inside other => ?_, fun p spared => ?_, ?_⟩
  · exact after.mergeAt_eq (List.mem_append_right _ List.mem_cons_self) inside
  · exact congrArg (· ++ [r]) (apart.filter_intersects proper)
  · have listed : p ∈ r.cells.filter (· ≠ r.origin) := by
      rw [List.mem_filter, decide_eq_true_iff]
      exact ⟨Range.mem_cells_iff.2 inside, other⟩
    exact writes.listed p listed
  · apply writes.others
    rintro q listed rfl
    rw [List.mem_filter, decide_eq_true_iff, Range.mem_cells_iff] at listed
    rcases spared with first | outside
    · exact listed.2 first
    · exact absurd listed.1 (Bool.eq_false_iff.1 outside)
  · dsimp only
    rw [writes.rest]

/-- On sheets as they come up, where ranges are merged with their smaller coordinates first and all that comes up fits: a
single cell is not merged, any other range is, with just its own cells cleared and just the merges it shares cells with
dissolved; and before as after, a cell takes away just the merge that covers it. -/
theorem merge_merged {name : String} {rows cols : Nat} {edits : List Edit}
    (ordered : ∀ r, .merge r ∈ edits → r.startRow ≤ r.endRow ∧ r.startCol ≤ r.endCol)
    (fits : FitsAlong edits (ofSize name rows cols)) {r : Range} (corners : r.Fits)
    (tall : r.startRow ≤ r.endRow) (wide : r.startCol ≤ r.endCol) :
    let s := applyAll edits (ofSize name rows cols)
    (r.isSingle = true → s.merge r = (false, s)) ∧
      (r.isSingle = false → (s.merge r).1 = true ∧ Merged r s (s.merge r).2) ∧
      (∀ p, Unmerges p s ∧ Unmerges p (s.merge r).2) ∧ (s.merge r).2.Fits := by
  intro s
  have apart : s.Apart := stable_apart.applyAll (apart_ofSize name rows cols) ordered
  refine ⟨fun single => merge_single single s, fun several => ⟨?_, ?_⟩, fun p => ⟨apart.unmerges p, ?_⟩,
    fits.last.merge corners⟩
  · rw [merge_several several]
  · exact apart.merged ⟨tall, wide, several⟩
  · exact (apart.merge tall wide).unmerges p

/-- The corner of the first merge is the first cell of the range that is merged next. -/
def overlapped : List Edit :=
  [.setValue ⟨1, 1⟩ "kept", .merge ⟨0, 0, 1, 1⟩, .setValue ⟨1, 1⟩ "again", .setValue ⟨2, 1⟩ "lost",
    .setFormat ⟨2, 1, 2, 1⟩ .percent, .merge ⟨3, 3, 4, 4⟩]

theorem merge_merged_overlapped :
    let s := applyAll overlapped (ofSize "S" 5 5)
    ((∀ r, .merge r ∈ overlapped → r.startRow ≤ r.endRow ∧ r.startCol ≤ r.endCol) ∧
        FitsAlong overlapped (ofSize "S" 5 5)) ∧
      (s.merge ⟨1, 1, 2, 2⟩).2.merges = [⟨3, 3, 4, 4⟩, ⟨1, 1, 2, 2⟩] ∧ (s.merge ⟨1, 1, 2, 2⟩).1 = true ∧
      Merged ⟨1, 1, 2, 2⟩ s (s.merge ⟨1, 1, 2, 2⟩).2 ∧ Unmerges ⟨2, 1⟩ (s.merge ⟨1, 1, 2, 2⟩).2 := by
  have ordered (r : Range) (inside : .merge r ∈ overlapped) : r.startRow ≤ r.endRow ∧ r.startCol ≤ r.endCol := by
    simp only [overlapped, List.mem_cons, Edit.merge.injEq, reduceCtorEq, List.not_mem_nil, or_false, false_or] at inside
    rcases inside with rfl | rfl <;> decide
  have fits : FitsAlong overlapped (ofSize "S" 5 5) := by decide +kernel
  have corners : Range.Fits ⟨1, 1, 2, 2⟩ := by decide
  obtain ⟨_, several, unmerges, _⟩ := merge_merged ordered fits corners (by decide) (by decide)
  exact ⟨⟨ordered, fits⟩, rfl, (several rfl).1, (several rfl).2, (unmerges ⟨2, 1⟩).2⟩

end Sheet

end Spreadsheet
