import Spreadsheet.Proofs.Sheet.Stable
import Spreadsheet.Session.Pointer

/-! The bounds of a sheet: every edit leaves a row and a column, and what steps, pastes and imports reach lies inside. -/
namespace Spreadsheet

/-- Both ends are inside the bounds of a sheet. -/
def Selection.Within (s : Selection) (sheet : Sheet) : Prop :=
  sheet.inBounds s.anchor = true ∧ sheet.inBounds s.cursor = true

instance (s : Selection) (sheet : Sheet) : Decidable (s.Within sheet) := inferInstanceAs (Decidable (_ ∧ _))

section Largest

variable {α β : Type} {f : β → α → β} {m : β → Nat} {g : α → Nat} (step : ∀ b a, m (f b a) = max (m b) (g a))
include step

theorem foldl_max_le_iff (l : List α) (b : β) {n : Nat} :
    m (l.foldl f b) ≤ n ↔ m b ≤ n ∧ ∀ a ∈ l, g a ≤ n := by
  induction l generalizing b with
  | nil => simp
  | cons a l ih => rw [List.foldl_cons, ih, step, Nat.max_le, List.forall_mem_cons, and_assoc]

end Largest

theorem Lines.grow_of_le {l : Lines} {count : Nat} (room : count ≤ l.count) : l.grow count = l := by
  rw [grow, Nat.max_eq_left room]

namespace Sheet

/-- There is a row and a column. -/
def Spacious (s : Sheet) : Prop := 0 < s.rows.count ∧ 0 < s.cols.count

/-- Does the edit leave the numbers of rows and columns alone? -/
def Edit.KeepsBounds (e : Edit) : Prop :=
  ∀ s, (e.apply s).rows.count = s.rows.count ∧ (e.apply s).cols.count = s.cols.count

variable {s : Sheet} {p : Position}

theorem inBounds_iff : s.inBounds p = true ↔ p.row < s.rows.count ∧ p.col < s.cols.count := by simp [inBounds]

theorem spacious_ofSize (name : String) (rows cols : Nat) : (ofSize name rows cols).Spacious :=
  ⟨Nat.le_max_right _ _, Nat.le_max_right _ _⟩

theorem Spacious.mapLines (spacious : s.Spacious) (axis : Axis) {f : Lines → Lines}
    (keeps : ∀ l : Lines, 0 < l.count → 0 < (f l).count) : (s.mapLines axis f).Spacious := by
  cases axis with
  | row => exact ⟨keeps _ spacious.1, spacious.2⟩
  | col => exact ⟨spacious.1, keeps _ spacious.2⟩

theorem Spacious.remapGrid (spacious : s.Spacious) (axis : Axis) (f : Nat → Option Nat) :
    (s.remapGrid axis f).Spacious := by
  cases axis <;> exact spacious

theorem stable_spacious : Stable (fun _ => True) Spacious where
  setCell spacious _ _ := spacious
  sort spacious _ _ := spacious
  mapLines spacious axis _ keeps := spacious.mapLines axis keeps
  insertLine spacious axis _ := (spacious.remapGrid axis _).mapLines axis fun _ _ => Nat.succ_pos _
  deleteLine spacious axis _ := (spacious.remapGrid axis _).mapLines axis fun _ _ => Nat.le_max_right _ _
  merge {s} spacious r _ := by
    rw [merge]
    split
    · exact spacious
    · refine List.foldlRecOn (motive := Spacious) (r.cells.filter (· ≠ r.origin)) _ spacious ?_
      exact fun _ spacious _ _ => spacious
  unmerge spacious _ := spacious
  filter spacious _ _ := spacious

theorem spacious_of_inBounds (inside : s.inBounds p = true) : s.Spacious :=
  have within := inBounds_iff.1 inside
  ⟨Nat.zero_lt_of_lt within.1, Nat.zero_lt_of_lt within.2⟩

theorem Spacious.inBounds_clampPosition (spacious : s.Spacious) (p : Position) :
    s.inBounds (s.clampPosition p) = true := by
  have ⟨rows, cols⟩ := spacious
  rw [inBounds_iff]
  simp only [clampPosition, Selection.clamp]
  omega

theorem Spacious.within_clampTo (spacious : s.Spacious) (selection : Selection) :
    (selection.clampTo s.rows.count s.cols.count).Within s :=
  ⟨spacious.inBounds_clampPosition _, spacious.inBounds_clampPosition _⟩

theorem Spacious.within_origin (spacious : s.Spacious) : ({} : Selection).Within s :=
  ⟨inBounds_iff.2 spacious, inBounds_iff.2 spacious⟩

theorem inBounds_of_walk {dr dc : Int} {fuel : Nat} {row col : Int} (found : s.walk dr dc fuel row col = some p) :
    s.inBounds p = true := by
  induction fuel generalizing row col with
  | zero => cases found
  | succ fuel ih =>
    rw [walk] at found
    split at found
    next => cases found
    next on =>
      split at found
      · exact ih found
      · obtain rfl := Option.some.inj found
        simp only [Bool.or_eq_true, Bool.not_eq_true', not_or] at on
        exact Bool.of_not_eq_false on.2

theorem inBounds_stepVisible (inside : s.inBounds p = true) (dr dc : Int) :
    s.inBounds (s.stepVisible p dr dc) = true := by
  rw [stepVisible]
  cases found : s.walk dr dc (s.rows.count + s.cols.count + 1) (signed p.row) (signed p.col) with
  | none => exact inside
  | some q => exact inBounds_of_walk found

theorem bounds_foldl {ε : Type} (entries : List ε) (f : Sheet → ε → Sheet)
    (same : ∀ t e, (f t e).rows = t.rows ∧ (f t e).cols = t.cols) (s : Sheet) :
    (entries.foldl f s).rows = s.rows ∧ (entries.foldl f s).cols = s.cols := by
  refine List.foldlRecOn entries (motive := fun t : Sheet => t.rows = s.rows ∧ t.cols = s.cols) f ⟨rfl, rfl⟩ ?_
  intro t before e _
  exact ⟨(same t e).1.trans before.1, (same t e).2.trans before.2⟩

theorem bounds_autofill (origin target : Position) (s : Sheet) :
    (s.autofill origin target).2.rows = s.rows ∧ (s.autofill origin target).2.cols = s.cols := by
  rw [autofill]
  cases FillKind.classify origin target with
  | none => exact ⟨rfl, rfl⟩
  | some kind =>
    cases kind
    all_goals
      refine bounds_foldl _ _ ?_ s
      exact fun _ _ => ⟨rfl, rfl⟩

theorem classify_eq_none_iff {origin target : Position} : FillKind.classify origin target = none ↔ origin = target := by
  rw [FillKind.classify]
  split
  next same => exact iff_of_true rfl same
  next differ =>
    refine iff_of_false ?_ differ
    split
    · nofun
    · split <;> nofun

theorem autofill_fst (origin target : Position) (s : Sheet) :
    (s.autofill origin target).1 = true ↔ origin ≠ target := by
  rw [autofill, Ne, ← classify_eq_none_iff]
  cases FillKind.classify origin target with
  | none => simp
  | some kind => cases kind <;> simp

theorem bounds_enter (s : Sheet) (entries : List (Position × String)) :
    (entries.foldl (fun t (p, field) => t.setValue p field) s).rows = s.rows ∧
      (entries.foldl (fun t (p, field) => t.setValue p field) s).cols = s.cols := by
  refine bounds_foldl entries _ ?_ s
  exact fun _ _ => ⟨rfl, rfl⟩

theorem inBounds_enter (s : Sheet) (entries : List (Position × String)) (p : Position) :
    (entries.foldl (fun t (p, field) => t.setValue p field) s).inBounds p = s.inBounds p := by
  have ⟨rows, cols⟩ := s.bounds_enter entries
  rw [inBounds, inBounds, rows, cols]

theorem ensureSize_of_le {s : Sheet} {rows cols : Nat} (tall : rows ≤ s.rows.count) (wide : cols ≤ s.cols.count) :
    s.ensureSize rows cols = s := by
  rw [ensureSize, mapLines, mapLines, Lines.grow_of_le tall, Lines.grow_of_le wide]

theorem within_between {q : Position} (inside : s.inBounds p = true) (inside' : s.inBounds q = true) :
    s.inBounds ⟨(Range.between p q).startRow, (Range.between p q).startCol⟩ = true ∧
      s.inBounds ⟨(Range.between p q).endRow, (Range.between p q).endCol⟩ = true := by
  rw [inBounds_iff] at inside inside'
  simp only [inBounds_iff, Range.between, Range.spanning]
  omega

theorem within_pasteRows {anchor : Position} {rows : List (List String)} {policy : GrowPolicy} {written : Range}
    {t : Sheet} (pasted : s.pasteRows anchor rows policy = (some written, t)) :
    t.inBounds ⟨written.startRow, written.startCol⟩ = true ∧ t.inBounds ⟨written.endRow, written.endCol⟩ = true := by
  unfold pasteRows at pasted
  extract_lets sized written corner at pasted
  split at pasted
  next => cases pasted
  next room =>
    simp only [Bool.or_eq_true, Bool.not_eq_true', not_or, Bool.not_eq_false] at room
    simp only [Prod.mk.injEq, Option.some.injEq] at pasted
    obtain ⟨rfl, rfl⟩ := pasted
    simp only [inBounds_enter]
    have inside : sized.inBounds corner = true := by
      refine List.foldlRecOn (motive := fun last => sized.inBounds last = true) written _ room.2 ?_
      intro last inside e among
      have inside' := (List.mem_filter.1 among).2
      rw [inBounds_iff] at inside inside' ⊢
      exact ⟨Nat.max_lt.2 ⟨inside.1, inside'.1⟩, Nat.max_lt.2 ⟨inside.2, inside'.2⟩⟩
    exact within_between room.2 inside

theorem within_importCsv {content : String} {covered : Range} {t : Sheet} (spacious : t.Spacious)
    (imported : s.importCsv content = (some covered, t)) :
    t.inBounds ⟨covered.startRow, covered.startCol⟩ = true ∧ t.inBounds ⟨covered.endRow, covered.endCol⟩ = true := by
  unfold importCsv at imported
  dsimp only at imported
  split at imported
  next => cases imported
  next =>
    simp only [Prod.mk.injEq, Option.some.injEq] at imported
    obtain ⟨rfl, rfl⟩ := imported
    simp only [Spacious, bounds_enter, ensureSize, mapLines, Lines.grow] at spacious
    simp only [inBounds_enter, inBounds_iff, ensureSize, mapLines, Lines.grow]
    omega

end Sheet

end Spreadsheet
