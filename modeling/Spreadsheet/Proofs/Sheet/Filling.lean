import Mathlib.Data.Nat.Dist
import Mathlib.Logic.Function.Iterate
import Spreadsheet.Proofs.Sheet.Bounds
import Spreadsheet.Proofs.Sheet.Lines
import Spreadsheet.Proofs.Sheet.Writing

/-! Filling. A drag along a row or a column changes the values of the cells between its ends one after another, each by
its own offset, and comes to an end there; any other drag copies the first cell over the rectangle. -/
namespace Spreadsheet

/-- The position on another line. -/
def Position.onLine (axis : Axis) (i : Nat) (p : Position) : Position :=
  match axis with
  | .row => ⟨i, p.col⟩
  | .col => ⟨p.row, i⟩

@[simp] theorem Position.line_onLine (axis : Axis) (i : Nat) (p : Position) : (p.onLine axis i).line axis = i := by
  cases axis <;> rfl

@[simp] theorem Position.line_other_onLine (axis : Axis) (i : Nat) (p : Position) :
    (p.onLine axis i).line axis.other = p.line axis.other := by
  cases axis <;> rfl

/-- The drag that the lines of an axis count. -/
def FillKind.along : Axis → FillKind
  | .row => .vertical
  | .col => .horizontal

namespace Sheet

/-- What a step on the way from an index to another one adds to a number. -/
def stepOffset (start target k : Nat) : Int := if start ≤ target then k else -k

/-- Where a step on the way from an index to another one leads. -/
def stepIndex (start target k : Nat) : Nat := if start ≤ target then start + k else start - k

/-- The cell that a step leads to. -/
def stepCell (axis : Axis) (origin target : Position) (k : Nat) : Position :=
  origin.onLine axis (stepIndex (origin.line axis) (target.line axis) k)

/-- What a drag makes of a sheet. -/
structure Filled (origin target : Position) (s t : Sheet) : Prop where
  along : ∀ axis, origin.line axis.other = target.line axis.other →
    ∀ k, 0 < k → k ≤ Nat.dist (origin.line axis) (target.line axis) →
      t.cell (stepCell axis origin target k) = (s.cell (stepCell axis origin target k)).withValue
        ((FillKind.along axis).seriesValue (s.raw origin) (stepOffset (origin.line axis) (target.line axis) k))
  diagonal : (∀ axis, origin.line axis ≠ target.line axis) →
    ∀ p, (Range.between origin target).contains p = true → p ≠ origin → t.cell p = s.cell origin
  others : ∀ p, p = origin ∨ (Range.between origin target).contains p = false → t.grid.get? p = s.grid.get? p
  rest : t = { s with grid := t.grid }

section Steps

variable {start target k : Nat} {e : Int × Nat}

theorem fillSteps_eq (start target : Nat) : fillSteps start target =
    (List.range' 1 (Nat.dist start target)).map fun k => (stepOffset start target k, stepIndex start target k) := by
  rw [fillSteps, Nat.dist]
  split
  next up =>
    rw [Nat.sub_eq_zero_of_le up, Nat.zero_add]
    simp only [stepOffset, stepIndex, if_pos up]
  next down =>
    rw [Nat.sub_eq_zero_of_le (Nat.le_of_not_le down), Nat.add_zero]
    simp only [stepOffset, stepIndex, if_neg down]

theorem mem_fillSteps_iff : e ∈ fillSteps start target ↔
    ∃ k, (0 < k ∧ k ≤ Nat.dist start target) ∧ (stepOffset start target k, stepIndex start target k) = e := by
  have range (k : Nat) : k ∈ List.range' 1 (Nat.dist start target) ↔ 0 < k ∧ k ≤ Nat.dist start target := by
    rw [List.mem_range'_1]
    omega
  simp only [fillSteps_eq, List.mem_map, range]

/-- A step keeps away from the start and does not go beyond the target, and its offset is how far it is. -/
theorem step_of_mem_fillSteps (among : e ∈ fillSteps start target) :
    e.1 = (e.2 : Int) - start ∧ e.2 ≠ start ∧ min start target ≤ e.2 ∧ e.2 ≤ max start target := by
  obtain ⟨k, range, rfl⟩ := mem_fillSteps_iff.1 among
  simp only [Nat.dist] at range
  simp only [stepOffset, stepIndex]
  split <;> omega

end Steps

variable {origin target : Position} {axis : Axis} {s : Sheet}

section Along

theorem agreeing_fillSteps (axis : Axis) (origin : Position) (text : Int → String) (start target : Nat) :
    Agreeing (fun e => origin.onLine axis e.2) (fun e c => c.withValue (text e.1)) (fillSteps start target) where
  same := by
    intro d listed e listed' met
    have index : d.2 = e.2 := by simpa using congrArg (Position.line axis) met
    have offset : d.1 = e.1 := by
      rw [(step_of_mem_fillSteps listed).1, (step_of_mem_fillSteps listed').1, index]
    rw [offset]
  once _ _ _ := rfl

/-- All steps along an axis taken. -/
def fillLine (axis : Axis) (origin target : Position) (s : Sheet) : Sheet :=
  s.fillAlong origin (.along axis) (fillSteps (origin.line axis) (target.line axis)) (origin.onLine axis ·)

theorem writes_fillLine (axis : Axis) (origin target : Position) (s : Sheet) :
    Writes (fun e => origin.onLine axis e.2) (fun e c => c.withValue ((FillKind.along axis).seriesValue (s.raw origin) e.1))
      (fillSteps (origin.line axis) (target.line axis)) s (s.fillLine axis origin target) :=
  writes_writeAll (agreeing_fillSteps axis origin _ _ _) s

variable (level : origin.line axis.other = target.line axis.other)
include level

/-- The cells of the steps are those between the ends of the drag. -/
theorem onLine_ne_of_mem_fillSteps {p : Position} {e : Int × Nat}
    (spared : p = origin ∨ (Range.between origin target).contains p = false)
    (listed : e ∈ fillSteps (origin.line axis) (target.line axis)) : origin.onLine axis e.2 ≠ p := by
  obtain ⟨_, away, low, high⟩ := step_of_mem_fillSteps listed
  rintro rfl
  rcases spared with same | outside
  · have same := congrArg (Position.line axis) same
    exact away (by simpa using same)
  · have inside : (Range.between origin target).contains (origin.onLine axis e.2) = true := by
      rw [Range.contains_iff axis, Range.Covers, Range.Covers, Range.extent_between, Range.extent_between,
        Position.line_onLine, Position.line_other_onLine, ← level, Nat.min_self, Nat.max_self]
      exact ⟨⟨low, high⟩, Nat.le_refl _, Nat.le_refl _⟩
    rw [inside] at outside
    cases outside

theorem filled_fillLine (s : Sheet) : Filled origin target s (s.fillLine axis origin target) := by
  have writes := s.writes_fillLine axis origin target
  refine ⟨fun other level' k positive reach => ?_, fun apart => ?_, fun p spared => ?_, writes.rest⟩
  · rcases other.eq_or_eq_other axis with rfl | rfl
    · exact writes.cell (mem_fillSteps_iff.2 ⟨k, ⟨positive, reach⟩, rfl⟩)
    · -- the ends are in one line of this axis, so that there is no step on the way
      rw [level, Nat.dist_self] at reach
      omega
  · exact absurd level (apart axis.other)
  · exact writes.others p fun e listed => onLine_ne_of_mem_fillSteps level spared listed

theorem autofill_of_level (differ : origin ≠ target) :
    s.autofill origin target = (true, s.fillLine axis origin target) := by
  cases axis with
  | row =>
    have cols : origin.col = target.col := level
    simp only [autofill, FillKind.classify, if_neg differ, if_pos cols]
    rfl
  | col =>
    have rows : origin.row = target.row := level
    have cols : origin.col ≠ target.col := fun same => differ (Position.line_ext .row rows same)
    simp only [autofill, FillKind.classify, if_neg differ, if_neg cols, if_pos rows]
    rfl

end Along

section Diagonal

variable (apart : ∀ axis, origin.line axis ≠ target.line axis)
include apart

theorem autofill_of_diagonal : s.autofill origin target = (true,
    writeAll id (fun _ _ => s.cell origin) ((Range.between origin target).cells.filter (· ≠ origin)) s) := by
  have rows : origin.row ≠ target.row := apart .row
  have cols : origin.col ≠ target.col := apart .col
  have differ : origin ≠ target := fun same => rows (congrArg Position.row same)
  simp only [autofill, FillKind.classify, if_neg differ, if_neg cols, if_neg rows]
  rfl

theorem filled_of_diagonal (s : Sheet) : Filled origin target s (s.autofill origin target).2 := by
  have mem_iff (p : Position) : p ∈ (Range.between origin target).cells.filter (· ≠ origin) ↔
      (Range.between origin target).contains p = true ∧ p ≠ origin := by
    rw [List.mem_filter, Range.mem_cells_iff, decide_eq_true_iff]
  rw [autofill_of_diagonal apart]
  have agreeing : Agreeing id (fun _ _ => s.cell origin) ((Range.between origin target).cells.filter (· ≠ origin)) :=
    ⟨fun _ _ _ _ _ => rfl, fun _ _ _ => rfl⟩
  have writes := writes_writeAll agreeing s
  refine ⟨fun axis level => absurd level (apart axis.other), fun _ p inside away => ?_, fun p spared => ?_, writes.rest⟩
  · exact writes.cell ((mem_iff p).2 ⟨inside, away⟩)
  · refine writes.others p ?_
    rintro _ listed rfl
    obtain ⟨inside, away⟩ := (mem_iff _).1 listed
    rcases spared with same | outside
    · exact away same
    · exact absurd inside (Bool.eq_false_iff.1 outside)

end Diagonal

theorem filled_autofill_of_ne (differ : origin ≠ target) (s : Sheet) :
    Filled origin target s (s.autofill origin target).2 := by
  by_cases level : ∃ axis : Axis, origin.line axis.other = target.line axis.other
  · obtain ⟨axis, level⟩ := level
    rw [autofill_of_level level differ]
    exact filled_fillLine level s
  · refine filled_of_diagonal (fun axis same => level ⟨axis.other, ?_⟩) s
    rwa [Axis.other_other]

section Loop

/-- The loop that takes rounds as long as something is ahead comes to an end, in this state. -/
def Ends {σ : Type} (ahead : σ → Prop) (round : σ → σ) (x y : σ) : Prop :=
  ∃ n, round^[n] x = y ∧ ¬ahead y ∧ ∀ m < n, ahead (round^[m] x)

/-- Where a drag along a line stands. -/
structure FillState where
  offset : Int
  index : Nat
  sheet : Sheet

/-- One more cell. The index goes on by one, but neither beyond the limit nor below zero. -/
def fillRound (limit : Nat) (axis : Axis) (origin target : Position) (source : String) (x : FillState) : FillState :=
  let up := origin.line axis < target.line axis
  let offset := x.offset + if up then 1 else -1
  let index := if up then min limit (x.index + 1) else x.index - 1
  ⟨offset, index, x.sheet.setValue (origin.onLine axis index) ((FillKind.along axis).seriesValue source offset)⟩

/-- Where a drag stands when it has come some steps from its origin. -/
def fillState (axis : Axis) (origin target : Position) (s : Sheet) (k : Nat) : FillState :=
  ⟨stepOffset (origin.line axis) (target.line axis) k, stepIndex (origin.line axis) (target.line axis) k,
    s.fillAlong origin (.along axis) ((fillSteps (origin.line axis) (target.line axis)).take k) (origin.onLine axis ·)⟩

theorem getElem?_fillSteps {start target k : Nat} (ahead : k < Nat.dist start target) :
    (fillSteps start target)[k]? = some (stepOffset start target (k + 1), stepIndex start target (k + 1)) := by
  rw [fillSteps_eq, List.getElem?_map, List.getElem?_range' ahead, Nat.one_mul, Nat.add_comm 1 k]
  rfl

variable {limit k : Nat} (room : target.line axis ≤ limit)
include room

theorem fillRound_fillState (ahead : k < Nat.dist (origin.line axis) (target.line axis)) :
    fillRound limit axis origin target (s.raw origin) (fillState axis origin target s k) =
      fillState axis origin target s (k + 1) := by
  have next := getElem?_fillSteps ahead
  simp only [Nat.dist] at ahead
  have offset : stepOffset (origin.line axis) (target.line axis) k +
      (if origin.line axis < target.line axis then 1 else -1) =
        stepOffset (origin.line axis) (target.line axis) (k + 1) := by
    simp only [stepOffset]
    split <;> split <;> omega
  have index : (if origin.line axis < target.line axis then
      min limit (stepIndex (origin.line axis) (target.line axis) k + 1)
      else stepIndex (origin.line axis) (target.line axis) k - 1) =
        stepIndex (origin.line axis) (target.line axis) (k + 1) := by
    simp only [stepIndex]
    split <;> split <;> omega
  simp only [fillRound, fillState, offset, index, fillAlong, List.take_add_one, next, Option.toList_some,
    List.foldl_append, List.foldl_cons, List.foldl_nil]

theorem iterate_fillRound (reach : k ≤ Nat.dist (origin.line axis) (target.line axis)) :
    (fillRound limit axis origin target (s.raw origin))^[k] (fillState axis origin target s 0) =
      fillState axis origin target s k := by
  induction k with
  | zero => rfl
  | succ k ih =>
    rw [Function.iterate_succ_apply', ih (Nat.le_of_succ_le reach)]
    exact fillRound_fillState room reach

/-- The loop stops just at the target, with every cell on the way filled. -/
theorem ends_fillRound (s : Sheet) : Ends (fun x => x.index ≠ target.line axis)
    (fillRound limit axis origin target (s.raw origin)) ⟨0, origin.line axis, s⟩
      ⟨target.line axis - origin.line axis, target.line axis, s.fillLine axis origin target⟩ := by
  have first : fillState axis origin target s 0 = ⟨0, origin.line axis, s⟩ := by
    simp [fillState, stepOffset, stepIndex, fillAlong]
  have last : fillState axis origin target s (Nat.dist (origin.line axis) (target.line axis)) =
      ⟨target.line axis - origin.line axis, target.line axis, s.fillLine axis origin target⟩ := by
    have whole : (fillSteps (origin.line axis) (target.line axis)).length ≤
        Nat.dist (origin.line axis) (target.line axis) := by
      rw [fillSteps_eq, List.length_map, List.length_range']
    rw [fillState, List.take_of_length_le whole, ← fillLine, FillState.mk.injEq]
    simp only [stepOffset, stepIndex, Nat.dist, and_true]
    split <;> omega
  rw [← first, ← last]
  refine ⟨_, iterate_fillRound room (Nat.le_refl _), ?_, fun m before => ?_⟩
  · rw [last]
    exact fun ahead => ahead rfl
  · rw [iterate_fillRound room (Nat.le_of_lt before)]
    simp only [Nat.dist] at before
    simp only [fillState, stepIndex]
    split <;> omega

end Loop

/-- A drag to the same cell fills nothing. Any other drag writes the cells that it goes over, and nothing more. Along a row
or a column the loop over the cells comes to an end, at the target and with this sheet, where indices go up to the target. -/
theorem autofill_filled (origin target : Position) (s : Sheet) :
    s.autofill origin origin = (false, s) ∧ (origin ≠ target →
      (s.autofill origin target).1 = true ∧ Filled origin target s (s.autofill origin target).2 ∧
        ∀ axis limit, origin.line axis.other = target.line axis.other → target.line axis ≤ limit →
          Ends (fun x => x.index ≠ target.line axis) (fillRound limit axis origin target (s.raw origin))
            ⟨0, origin.line axis, s⟩
            ⟨target.line axis - origin.line axis, target.line axis, (s.autofill origin target).2⟩) := by
  refine ⟨?_, fun differ => ⟨(s.autofill_fst origin target).2 differ, filled_autofill_of_ne differ s, ?_⟩⟩
  · rw [autofill, classify_eq_none_iff.2 rfl]
  · intro axis limit level room
    rw [autofill_of_level level differ]
    exact ends_fillRound room s

example : (((ofSize "Totals" 2 3).setValue ⟨1, 2⟩ "=C1+$B$1").autofill ⟨1, 2⟩ ⟨1, 0⟩).2.raw ⟨1, 0⟩ = "=A1+$B$1" := by
  decide +kernel

end Sheet

end Spreadsheet
