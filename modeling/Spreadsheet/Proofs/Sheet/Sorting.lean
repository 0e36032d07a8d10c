import Spreadsheet.Proofs.Formula.Pass
import Spreadsheet.Proofs.Sheet.Structure
import Spreadsheet.Proofs.Sheet.Values
import Spreadsheet.Sheet.Sorting

/-! Sorting rows by a column. The rows change places as one stable arrangement of the column's values says, of which there
is only one; cells go with their rows and nothing else changes. So of two sorts by a column of literals the last one is
all that counts. -/
namespace Spreadsheet

open Formula

section Stability

variable {α : Type} {le : α → α → Bool} (trans : ∀ a b c, le a b = true → le b c = true → le a c = true)
  (total : ∀ a b, (le a b || le b a) = true)
include trans total

/-- A class of ties keeps its order when a list is sorted. -/
theorem filter_mergeSort (l : List α) (a : α) :
    (l.mergeSort le).filter (fun b => le a b && le b a) = l.filter fun b => le a b && le b a := by
  have tied : (l.filter fun b => le a b && le b a).Pairwise fun b c => le b c = true := by
    refine List.pairwise_iff_forall_sublist.2 fun {b c} pair => ?_
    have first := (List.mem_filter.1 (pair.subset List.mem_cons_self)).2
    have second := (List.mem_filter.1 (pair.subset (List.mem_cons_of_mem b List.mem_cons_self))).2
    simp only [Bool.and_eq_true] at first second
    exact trans b a c first.2 second.1
  have within := (List.sublist_mergeSort trans total tied List.filter_sublist).filter fun b => le a b && le b a
  rw [List.filter_filter] at within
  simp only [Bool.and_self] at within
  have lengths := ((List.mergeSort_perm l le).filter fun b => le a b && le b a).length_eq
  exact (within.eq_of_length lengths.symm).symm

/-- What holds of a list from front to back still holds of its ties when it is sorted. -/
theorem pairwise_tied_mergeSort {r : α → α → Prop} {l : List α} (pairwise : l.Pairwise r) :
    (l.mergeSort le).Pairwise fun a b => le b a = true → r a b := by
  refine List.pairwise_iff_forall_sublist.2 fun {a b} pair back => ?_
  have forth : le a b = true := List.pairwise_iff_forall_sublist.1 (List.pairwise_mergeSort trans total l) pair
  have self : le a a = true := by simpa using total a a
  have tied := pair.filter fun c => le a c && le c a
  rw [filter_mergeSort trans total] at tied
  simp only [List.filter_cons, self, forth, back, Bool.and_self, if_true, List.filter_nil] at tied
  exact List.pairwise_iff_forall_sublist.1 pairwise (tied.trans List.filter_sublist)

end Stability

/-- Nothing and faults count as blank. -/
inductive Blank : Value → Prop
  | empty : Blank .empty
  | fault (f : Fault) : Blank (.fault f)

/-- The first value stands before the second in ascending order, blank ones apart. -/
inductive Lower : Value → Value → Prop
  | numbers {x y : Float} (less : Number.rank x < Number.rank y) : Lower (.number x) (.number y)
  | kinds (x : Float) (s : String) : Lower (.number x) (.text s)
  | texts {s t : String} (less : (Text.lower s).toList < (Text.lower t).toList) : Lower (.text s) (.text t)

/-- The first value stands before the second; blank ones stand last in either direction. -/
inductive Before : SortDirection → Value → Value → Prop
  | ascending {v w : Value} (lower : Lower v w) : Before .ascending v w
  | descending {v w : Value} (lower : Lower w v) : Before .descending v w
  | last {direction : SortDirection} {v w : Value} (filled : ¬Blank v) (blank : Blank w) : Before direction v w

variable {v w : Value} {direction : SortDirection}

theorem blank_iff : Blank v ↔ SortKey.ofValue v = .blank := by
  constructor
  · rintro (_ | _) <;> rfl
  · cases v <;> simp [SortKey.ofValue] <;> constructor

theorem lower_iff : Lower v w ↔ match v, w with
    | .number x, .number y => Number.rank x < Number.rank y
    | .number _, .text _ => True
    | .text s, .text t => (Text.lower s).toList < (Text.lower t).toList
    | _, _ => False := by
  constructor
  · rintro (less | _ | less)
    · exact less
    · trivial
    · exact less
  · intro less
    split at less
    · exact .numbers less
    · exact .kinds _ _
    · exact .texts less
    · cases less

theorem before_ascending_iff : Before .ascending v w ↔ Lower v w ∨ (¬Blank v ∧ Blank w) := by
  constructor
  · rintro (lower | _ | ⟨filled, blank⟩)
    · exact .inl lower
    · exact .inr ⟨filled, blank⟩
  · rintro (lower | ⟨filled, blank⟩)
    · exact .ascending lower
    · exact .last filled blank

theorem before_descending_iff : Before .descending v w ↔ Lower w v ∨ (¬Blank v ∧ Blank w) := by
  constructor
  · rintro (_ | lower | ⟨filled, blank⟩)
    · exact .inl lower
    · exact .inr ⟨filled, blank⟩
  · rintro (lower | ⟨filled, blank⟩)
    · exact .descending lower
    · exact .last filled blank

namespace SortKey

theorem ascends_trans {a b c : SortKey} (first : a.ascends b = true) (second : b.ascends c = true) :
    a.ascends c = true := by
  cases a <;> cases b <;> cases c <;> simp [ascends] at first second ⊢
  · exact Int.le_trans first second
  · exact String.le_trans first second

theorem ascends_antisymm {a b : SortKey} (first : a.ascends b = true) (second : b.ascends a = true) : a = b := by
  cases a <;> cases b <;> simp [ascends] at first second ⊢
  · exact Int.le_antisymm first second
  · exact String.le_antisymm first second

theorem precedes_total (direction : SortDirection) (a b : SortKey) :
    (a.precedes direction b || b.precedes direction a) = true := by
  cases direction <;> cases a <;> cases b <;> simp [precedes, ascends, Int.le_total, String.le_total]

theorem precedes_trans (direction : SortDirection) (a b c : SortKey) (first : a.precedes direction b = true)
    (second : b.precedes direction c = true) : a.precedes direction c = true := by
  have up := @ascends_trans a b c
  have down := @ascends_trans c b a
  cases direction <;> cases a <;> cases b <;> cases c <;> simp_all [precedes]

theorem precedes_antisymm {a b : SortKey} (first : a.precedes direction b = true)
    (second : b.precedes direction a = true) : a = b := by
  have up := @ascends_antisymm a b
  cases direction <;> cases a <;> cases b <;> simp_all [precedes]

theorem precedes_iff : (ofValue v).precedes direction (ofValue w) = true ↔ ¬Before direction w v := by
  cases direction <;> cases v <;> cases w <;>
    simp [before_ascending_iff, before_descending_iff, lower_iff, blank_iff, ofValue, precedes, ascends,
      String.le_iff_toList_le]

/-- Values tie in one direction just when they do in the other: they have the same key. -/
theorem eq_iff (direction : SortDirection) : ofValue v = ofValue w ↔ ¬Before direction v w ∧ ¬Before direction w v := by
  rw [← precedes_iff, ← precedes_iff]
  refine ⟨fun same => ?_, fun ⟨first, second⟩ => precedes_antisymm second first⟩
  have either := precedes_total direction (ofValue v) (ofValue v)
  rw [same] at either ⊢
  simpa using either

end SortKey

/-- The indices in an order in which none of their values comes after the next ones, and ties keep their places. -/
structure Arranges (direction : SortDirection) (values : Nat → Value) (count : Nat) (order : List Nat) : Prop where
  perm : order.Perm (List.range count)
  inOrder : order.Pairwise fun i j => ¬Before direction (values j) (values i)
  stable : order.Pairwise fun i j => ¬Before direction (values i) (values j) → i < j

theorem Arranges.unique {values : Nat → Value} {count : Nat} {order order' : List Nat}
    (first : Arranges direction values count order) (second : Arranges direction values count order') :
    order = order' := by
  refine List.Perm.eq_of_pairwise ?_ (first.inOrder.and first.stable) (second.inOrder.and second.stable)
    (first.perm.trans second.perm.symm)
  rintro i j _ _ ⟨after, below⟩ ⟨after', below'⟩
  exact absurd (below after') (Nat.lt_asymm (below' after))

section Again

variable {values values' : Nat → Value} {count : Nat} {order order' : List Nat}

theorem Arranges.congr (arranges : Arranges direction values count order)
    (same : ∀ i < count, values i = values' i) : Arranges direction values' count order := by
  have low {i : Nat} (inside : i ∈ order) : i < count := List.mem_range.1 (arranges.perm.mem_iff.1 inside)
  refine ⟨arranges.perm, arranges.inOrder.imp_of_mem ?_, arranges.stable.imp_of_mem ?_⟩
  · intro i j inside inside' before
    rwa [same i (low inside), same j (low inside')] at before
  · intro i j inside inside' tied
    rwa [same i (low inside), same j (low inside')] at tied

/-- The order in which what has been put in one order is put in another one. -/
def regroup (order order' : List Nat) : List Nat := order'.map fun i => order.getD i 0

theorem Arranges.regroup {second : SortDirection} (arranges : Arranges direction values count order)
    (arranges' : Arranges second (fun i => values (order.getD i 0)) count order') :
    Arranges second values count (regroup order order') := by
  have length : order.length = count := by rw [arranges.perm.length_eq, List.length_range]
  have low {i : Nat} (inside : i ∈ order') : i < order.length := by
    rw [length]
    exact List.mem_range.1 (arranges'.perm.mem_iff.1 inside)
  have all : (List.range count).map (fun i => order.getD i 0) = order := by
    apply List.ext_getElem
    · simp [length]
    · intro i inside inside'
      simp [inside']
  refine ⟨?_, List.pairwise_map.2 arranges'.inOrder, List.pairwise_map.2 ?_⟩
  · exact (arranges'.perm.map _).trans (.trans (.of_eq all) arranges.perm)
  · refine (arranges'.inOrder.and arranges'.stable).imp_of_mem ?_
    rintro i j inside inside' ⟨notAfter, below⟩ notBefore
    -- the two tie in the second direction, hence in the first one, which has left them in place
    have tied := (SortKey.eq_iff direction).1 ((SortKey.eq_iff second).2 ⟨notBefore, notAfter⟩)
    have kept := List.pairwise_iff_getElem.1 arranges.stable i j (low inside) (low inside') (below notBefore)
    simp only [List.getD_eq_getElem _ _ (low inside), List.getD_eq_getElem _ _ (low inside')] at tied ⊢
    exact kept tied.1

end Again

namespace Sheet

/-- The rows of the second sheet are those of the first in the given order, each with all its cells. -/
structure Rearranged (order : List Nat) (s t : Sheet) : Prop where
  rows : ∀ i row, order[i]? = some row → ∀ col, t.grid.get? ⟨i, col⟩ = s.grid.get? ⟨row, col⟩
  beyond : ∀ p : Position, s.rows.count ≤ p.row → t.grid.get? p = s.grid.get? p
  cells : (t.grid.cells.entries.map fun e => (e.1.col, e.2)).Perm (s.grid.cells.entries.map fun e => (e.1.col, e.2))
  rest : t = { s with grid := t.grid }

section Rearranged

variable {s t u : Sheet} {order order' : List Nat}

theorem Rearranged.regroup (first : Rearranged order s t) (second : Rearranged order' t u)
    (low : ∀ i ∈ order', i < order.length) : Rearranged (regroup order order') s u := by
  have count : t.rows.count = s.rows.count := by rw [first.rest]
  refine ⟨fun i row place col => ?_, fun p beyond => ?_, second.cells.trans first.cells, ?_⟩
  · obtain ⟨j, found, rfl⟩ := Option.map_eq_some_iff.1 (List.getElem?_map ▸ place)
    have bound := low j (List.mem_of_getElem? found)
    rw [second.rows i j found, List.getD_eq_getElem _ _ bound]
    exact first.rows j _ (List.getElem?_eq_getElem bound) col
  · rw [second.beyond p (count ▸ beyond), first.beyond p beyond]
  · rw [second.rest, first.rest]

theorem Rearranged.unique (first : Rearranged order s t) (second : Rearranged order s u)
    (length : order.length = s.rows.count) : t = u := by
  have same : t.grid = u.grid := by
    apply Grid.ext_get?
    intro p
    rcases Nat.lt_or_ge p.row s.rows.count with inside | beyond
    · have place : order[p.row]? = some order[p.row] := List.getElem?_eq_getElem (length ▸ inside)
      exact (first.rows p.row _ place p.col).trans (second.rows p.row _ place p.col).symm
    · exact (first.beyond p beyond).trans (second.beyond p beyond).symm
  rw [first.rest, second.rest, same]

end Rearranged

variable (s : Sheet) (col : Nat) (direction : SortDirection)

theorem sortPermutation_eq : s.sortPermutation col direction = (List.range s.rows.count).mergeSort fun i j =>
    (SortKey.ofValue (s.evaluate ⟨i, col⟩)).precedes direction (SortKey.ofValue (s.evaluate ⟨j, col⟩)) := by
  rw [sortPermutation, List.map_mergeSort, List.map_map]
  · exact congrArg (List.mergeSort · _) (List.map_id _)
  · intro a inside b inside'
    obtain ⟨i, _, rfl⟩ := List.mem_map.1 inside
    obtain ⟨j, _, rfl⟩ := List.mem_map.1 inside'
    rfl

theorem arranges_sortPermutation :
    Arranges direction (fun row => s.evaluate ⟨row, col⟩) s.rows.count (s.sortPermutation col direction) := by
  rw [sortPermutation_eq]
  have trans (i j k : Nat) := SortKey.precedes_trans direction (SortKey.ofValue (s.evaluate ⟨i, col⟩))
    (SortKey.ofValue (s.evaluate ⟨j, col⟩)) (SortKey.ofValue (s.evaluate ⟨k, col⟩))
  have total (i j : Nat) := SortKey.precedes_total direction (SortKey.ofValue (s.evaluate ⟨i, col⟩))
    (SortKey.ofValue (s.evaluate ⟨j, col⟩))
  refine ⟨List.mergeSort_perm _ _, ?_, ?_⟩
  · exact (List.pairwise_mergeSort trans total _).imp fun before => SortKey.precedes_iff.1 before
  · exact (pairwise_tied_mergeSort trans total List.pairwise_lt_range).imp fun tied after =>
      tied (SortKey.precedes_iff.2 after)

/-- Where a row goes. -/
def sortedRow (row : Nat) : Nat := if row < s.rows.count then (s.sortPermutation col direction).idxOf row else row

theorem cells_sortByColumn : (s.sortByColumn col direction).grid.cells =
    s.grid.cells.rekey (Position.moved .row fun row => some (s.sortedRow col direction row)) :=
  cells_remapGrid .row _ s

variable {s col direction}

theorem mem_sortPermutation {row : Nat} : row ∈ s.sortPermutation col direction ↔ row < s.rows.count := by
  rw [(s.arranges_sortPermutation col direction).perm.mem_iff, List.mem_range]

theorem length_sortPermutation : (s.sortPermutation col direction).length = s.rows.count := by
  rw [(s.arranges_sortPermutation col direction).perm.length_eq, List.length_range]

theorem sortedRow_of_getElem? {i row : Nat} (found : (s.sortPermutation col direction)[i]? = some row) :
    s.sortedRow col direction row = i := by
  obtain ⟨inside, rfl⟩ := List.getElem?_eq_some_iff.1 found
  have distinct := (s.arranges_sortPermutation col direction).perm.nodup_iff.2 List.nodup_range
  rw [sortedRow, if_pos (mem_sortPermutation.1 (List.getElem_mem inside))]
  exact distinct.idxOf_getElem i inside

theorem sortedRow_of_le {row : Nat} (beyond : s.rows.count ≤ row) : s.sortedRow col direction row = row :=
  if_neg (Nat.not_lt.2 beyond)

variable (s col direction)

theorem getElem?_sortedRow {row : Nat} (inside : row < s.rows.count) :
    (s.sortPermutation col direction)[s.sortedRow col direction row]? = some row := by
  rw [sortedRow, if_pos inside]
  exact List.getElem?_idxOf (mem_sortPermutation.2 inside)

theorem sortedRow_lt {row : Nat} (inside : row < s.rows.count) : s.sortedRow col direction row < s.rows.count := by
  have found := s.getElem?_sortedRow col direction inside
  obtain ⟨bound, _⟩ := List.getElem?_eq_some_iff.1 found
  rwa [length_sortPermutation] at bound

/-- Rows change places when they are sorted, and those outside the bounds stay. -/
theorem sortedRow_injective (i j k : Nat) (lands : some (s.sortedRow col direction i) = some k)
    (lands' : some (s.sortedRow col direction j) = some k) : i = j := by
  have same := Option.some.inj (lands.trans lands'.symm)
  rcases Nat.lt_or_ge i s.rows.count with inside | beyond <;> rcases Nat.lt_or_ge j s.rows.count with inside' | beyond'
  · have found := s.getElem?_sortedRow col direction inside
    rw [same, s.getElem?_sortedRow col direction inside'] at found
    exact (Option.some.inj found).symm
  · have low := s.sortedRow_lt col direction inside
    rw [same, sortedRow_of_le beyond'] at low
    omega
  · have low := s.sortedRow_lt col direction inside'
    rw [← same, sortedRow_of_le beyond] at low
    omega
  · rwa [sortedRow_of_le beyond, sortedRow_of_le beyond'] at same

@[simp] theorem rows_sortByColumn : (s.sortByColumn col direction).rows = s.rows := rfl

theorem rearranged_sortByColumn : Rearranged (s.sortPermutation col direction) s (s.sortByColumn col direction) := by
  have apart := Position.moved_apart .row (s.sortedRow_injective col direction)
  have found (row other : Nat) :
      (s.sortByColumn col direction).grid.get? ⟨s.sortedRow col direction row, other⟩ = s.grid.get? ⟨row, other⟩ := by
    rw [Grid.get?, cells_sortByColumn]
    exact Table.get?_rekey apart rfl
  refine ⟨fun i row place other => ?_, fun p beyond => ?_, ?_, rfl⟩
  · rw [← sortedRow_of_getElem? place, found]
  · have here := found p.row p.col
    rwa [sortedRow_of_le beyond] at here
  · rw [cells_sortByColumn]
    refine ((Table.perm_entries_rekey apart s.grid.cells).map _).trans (.of_eq ?_)
    rw [List.map_filterMap]
    exact congrFun List.filterMap_eq_map _

/-- The rows stand in the one order in which the values of the column go in the direction and ties keep their places; every
cell has gone with its row, and nothing else has changed. -/
theorem sortByColumn_arranges (s : Sheet) (col : Nat) (direction : SortDirection) :
    Arranges direction (fun row => s.evaluate ⟨row, col⟩) s.rows.count (s.sortPermutation col direction) ∧
      (∀ order, Arranges direction (fun row => s.evaluate ⟨row, col⟩) s.rows.count order →
        order = s.sortPermutation col direction) ∧
      Rearranged (s.sortPermutation col direction) s (s.sortByColumn col direction) := by
  have arranges := s.arranges_sortPermutation col direction
  exact ⟨arranges, fun order other => other.unique arranges, s.rearranged_sortByColumn col direction⟩

section Literals

variable {s col}

theorem evaluate_literal {p : Position} (plain : isFormula (s.raw p) = false) : s.evaluate p = .ofLiteral (s.raw p) := by
  rw [evaluate, evaluateCell_eq, valueUnder, if_neg List.not_mem_nil, if_neg (by decide), rawValue_literal _ plain]

variable (plain : ∀ row < s.rows.count, isFormula (s.raw ⟨row, col⟩) = false)
include plain

/-- The values of a column of literals go with their rows. -/
theorem evaluate_sortByColumn (direction : SortDirection) {row : Nat} (inside : row < s.rows.count) :
    (s.sortByColumn col direction).evaluate ⟨row, col⟩ =
      s.evaluate ⟨(s.sortPermutation col direction).getD row 0, col⟩ := by
  have bound : row < (s.sortPermutation col direction).length := by rwa [length_sortPermutation]
  have low := mem_sortPermutation.1 (List.getElem_mem bound)
  have same : (s.sortByColumn col direction).raw ⟨row, col⟩ = s.raw ⟨(s.sortPermutation col direction)[row], col⟩ := by
    rw [raw, Grid.raw, (s.rearranged_sortByColumn col direction).rows row _ (List.getElem?_eq_getElem bound)]
    rfl
  have literal := plain _ low
  rw [List.getD_eq_getElem _ _ bound, evaluate_literal literal, ← same]
  exact evaluate_literal (same ▸ literal)

/-- Sorting by a column without formulas undoes what an earlier sort by that column did, in whichever directions. -/
theorem sortByColumn_sortByColumn (first second : SortDirection) :
    (s.sortByColumn col first).sortByColumn col second = s.sortByColumn col second := by
  have count : (s.sortByColumn col first).rows.count = s.rows.count := by rw [rows_sortByColumn]
  have arranges := s.arranges_sortPermutation col first
  have again := (s.sortByColumn col first).arranges_sortPermutation col second
  rw [count] at again
  have order : regroup (s.sortPermutation col first) ((s.sortByColumn col first).sortPermutation col second) =
      s.sortPermutation col second :=
    (arranges.regroup (again.congr fun row inside => evaluate_sortByColumn plain first inside)).unique
      (s.arranges_sortPermutation col second)
  have low : ∀ i ∈ (s.sortByColumn col first).sortPermutation col second, i < (s.sortPermutation col first).length := by
    intro i inside
    rw [length_sortPermutation, ← count]
    exact mem_sortPermutation.1 inside
  have twice := (s.rearranged_sortByColumn col first).regroup
    ((s.sortByColumn col first).rearranged_sortByColumn col second) low
  rw [order] at twice
  exact twice.unique (s.rearranged_sortByColumn col second) length_sortPermutation

end Literals

/-- A first column with equal numbers, texts that differ in their case only and two empty cells, and a second one that
numbers the rows. -/
def tally : Sheet :=
  ["b", "2", "", "B", "2.0", "", "a"].zipIdx.foldl
    (fun s e => (s.setValue ⟨e.2, 0⟩ e.1).setValue ⟨e.2, 1⟩ (toString e.2)) (ofSize "Tally" 7 2)

theorem sortByColumn_sortByColumn_tally :
    (∀ row < tally.rows.count, isFormula (tally.raw ⟨row, 0⟩) = false) ∧
      (tally.sortByColumn 0 .descending).sortByColumn 0 .ascending = tally.sortByColumn 0 .ascending := by
  have plain : ∀ row < tally.rows.count, isFormula (tally.raw ⟨row, 0⟩) = false := by decide +kernel
  exact ⟨plain, sortByColumn_sortByColumn plain .descending .ascending⟩

end Sheet

end Spreadsheet
