import Spreadsheet.Proofs.Sheet.Lines
import Spreadsheet.Proofs.Sheet.Writing

/-! Formatting ranges. It shows in the cells of the range and nowhere else, and never in their values. A style that is
toggled is on in the whole range, or off in all of it; clearing the formatting leaves the bare values, whatever it was. -/
namespace Spreadsheet

/-- The value of a cell is left alone, and doing it twice is doing it once. -/
structure Cell.Restyles (f : Cell → Cell) : Prop where
  value : ∀ c, (f c).value = c.value
  once : ∀ c, f (f c) = f c

theorem Cell.restyles_unformatted : Restyles unformatted := ⟨fun _ => rfl, fun _ => rfl⟩

namespace TextStyle

theorem restyles_set (on : Bool) (style : TextStyle) : Cell.Restyles (style.set on) := by
  cases style <;> exact ⟨fun _ => rfl, fun _ => rfl⟩

@[simp] theorem get_set (on : Bool) (style : TextStyle) (c : Cell) : style.get (style.set on c) = on := by
  cases style <;> rfl

@[simp] theorem set_set (on before : Bool) (style : TextStyle) (c : Cell) :
    style.set on (style.set before c) = style.set on c := by
  cases style <;> rfl

theorem get_blank (style : TextStyle) : style.get .blank = false := by cases style <;> rfl

end TextStyle

namespace Sheet

/-- The edits that format that range. -/
def Edit.formats (r : Range) : Edit → Bool
  | toggleStyle r' _ | setFormat r' _ | setAlignment r' _ | setBackground r' _ => r' = r
  | setTextColor r' _ | setFontSize r' _ | setBorders r' _ | clearFormatting r' => r' = r
  | _ => false

/-- The sheets differ at most in how the cells of the range are formatted. -/
structure Reformats (r : Range) (s t : Sheet) : Prop where
  raw : t.raw = s.raw
  others : ∀ p, r.contains p = false → t.grid.get? p = s.grid.get? p
  rest : t = { s with grid := t.grid }

variable {r : Range} {f : Cell → Cell} {s t u : Sheet} {p : Position}

theorem Reformats.refl (r : Range) (s : Sheet) : Reformats r s s := ⟨rfl, fun _ _ => rfl, rfl⟩

theorem Reformats.trans (first : Reformats r s t) (second : Reformats r t u) : Reformats r s u where
  raw := second.raw.trans first.raw
  others p outside := (second.others p outside).trans (first.others p outside)
  rest := by rw [second.rest, first.rest]

section Restyles

variable (restyles : Cell.Restyles f)
include restyles

theorem writes_formatRange (r : Range) (s : Sheet) : Writes id (fun _ => f) r.cells s (s.formatRange r f) :=
  writes_writeAll ⟨fun _ _ _ _ _ => rfl, fun _ _ => restyles.once⟩ s

theorem get?_formatRange (inside : r.contains p = true) (s : Sheet) :
    (s.formatRange r f).grid.get? p = (f (s.cell p)).stored :=
  (writes_formatRange restyles r s).listed p (Range.mem_cells_iff.2 inside)

theorem cell_formatRange (inside : r.contains p = true) (s : Sheet) : (s.formatRange r f).cell p = f (s.cell p) :=
  (writes_formatRange restyles r s).cell (Range.mem_cells_iff.2 inside)

theorem reformats_formatRange (r : Range) (s : Sheet) : Reformats r s (s.formatRange r f) := by
  have writes := writes_formatRange restyles r s
  have others (p : Position) (outside : r.contains p = false) : ∀ q ∈ r.cells, id q ≠ p := fun _ =>
    Range.ne_of_mem_cells outside
  refine ⟨funext fun p => ?_, fun p outside => writes.others p (others p outside), writes.rest⟩
  rw [raw, Grid.raw_eq, raw, Grid.raw_eq, ← cell, ← cell]
  cases inside : r.contains p with
  | true => rw [cell_formatRange restyles inside, restyles.value]
  | false => rw [writes.cell_of_forall_ne (others p inside)]

end Restyles

theorem exists_restyles {e : Edit} (formats : e.formats r = true) (s : Sheet) :
    ∃ f, Cell.Restyles f ∧ e.apply s = s.formatRange r f := by
  cases e with
  | toggleStyle r' style =>
    obtain rfl := of_decide_eq_true formats
    exact ⟨_, style.restyles_set _, rfl⟩
  | setFormat r' | setAlignment r' | setBackground r' | setTextColor r' | setFontSize r' | setBorders r' =>
    obtain rfl := of_decide_eq_true formats
    refine ⟨_, ?_, rfl⟩
    exact ⟨fun _ => rfl, fun _ => rfl⟩
  | clearFormatting r' =>
    obtain rfl := of_decide_eq_true formats
    exact ⟨_, Cell.restyles_unformatted, rfl⟩
  | _ => cases formats

theorem reformats_apply {e : Edit} (formats : e.formats r = true) (s : Sheet) : Reformats r s (e.apply s) := by
  obtain ⟨f, restyles, same⟩ := exists_restyles formats s
  rw [same]
  exact reformats_formatRange restyles r s

theorem reformats_applyAll {edits : List Edit} (formats : ∀ e ∈ edits, e.formats r = true) (s : Sheet) :
    Reformats r s (applyAll edits s) :=
  List.foldlRecOn edits _ (.refl r s) fun t reformats e among => reformats.trans (reformats_apply (formats e among) t)

/-- Sheets that are formatted alike in the range, and are alike outside of it, are the same once it is formatted alike. -/
theorem Reformats.formatRange_eq {g : Cell → Cell} (reformats : Reformats r s t) (restyles : Cell.Restyles f)
    (restyles' : Cell.Restyles g) (same : ∀ p, r.contains p = true → f (t.cell p) = g (s.cell p)) :
    t.formatRange r f = s.formatRange r g := by
  have left := reformats.trans (reformats_formatRange restyles r t)
  have right := reformats_formatRange restyles' r s
  have grid : (t.formatRange r f).grid = (s.formatRange r g).grid := by
    apply Grid.ext_get?
    intro p
    cases inside : r.contains p with
    | true => rw [get?_formatRange restyles inside, get?_formatRange restyles' inside, same p inside]
    | false => rw [left.others p inside, right.others p inside]
  rw [left.rest, right.rest, grid]

section Toggling

variable {style : TextStyle}

theorem allStyled_iff : s.allStyled r style = true ↔ ∀ p, r.contains p = true → style.get (s.cell p) = true := by
  have each (p : Position) : (s.grid.get? p).any style.get = style.get (s.cell p) := by
    rw [cell, Grid.get]
    cases s.grid.get? p with
    | none => exact style.get_blank.symm
    | some c => rfl
  simp only [allStyled, List.all_eq_true, Range.mem_cells_iff, each]

theorem get_toggleStyle (inside : r.contains p = true) (s : Sheet) :
    style.get ((s.toggleStyle r style).cell p) = !s.allStyled r style := by
  rw [toggleStyle, cell_formatRange (style.restyles_set _) inside, TextStyle.get_set]

theorem allStyled_toggleStyle (inside : r.contains p = true) (s : Sheet) :
    (s.toggleStyle r style).allStyled r style = !s.allStyled r style := by
  rw [Bool.eq_iff_iff, allStyled_iff]
  constructor
  · intro all
    rw [← get_toggleStyle inside s]
    exact all p inside
  · intro off q inside'
    rw [get_toggleStyle inside', off]

/-- Two toggles may take the style from cells that had it; a third one brings back what the first one made. -/
theorem toggleStyle_toggleStyle_toggleStyle (r : Range) (style : TextStyle) (s : Sheet) :
    ((s.toggleStyle r style).toggleStyle r style).toggleStyle r style = s.toggleStyle r style := by
  have restyles (on : Bool) := style.restyles_set on
  have twice : Reformats r s ((s.toggleStyle r style).toggleStyle r style) :=
    (reformats_formatRange (restyles _) r s).trans (reformats_formatRange (restyles _) r _)
  refine twice.formatRange_eq (restyles _) (restyles _) fun p inside => ?_
  have cells : ((s.toggleStyle r style).toggleStyle r style).cell p = style.set (s.allStyled r style) (s.cell p) := by
    rw [toggleStyle, cell_formatRange (restyles _) inside, allStyled_toggleStyle inside, toggleStyle,
      cell_formatRange (restyles _) inside, TextStyle.set_set, Bool.not_not]
  rw [cells, TextStyle.set_set, allStyled_toggleStyle inside, allStyled_toggleStyle inside, Bool.not_not]

end Toggling

section Clearing

theorem get?_clearFormatting (inside : r.contains p = true) (s : Sheet) :
    (s.clearFormatting r).grid.get? p = if s.raw p = "" then none else some { value := s.raw p } := by
  have value : (s.cell p).value = s.raw p := (s.grid.raw_eq p).symm
  rw [clearFormatting, get?_formatRange Cell.restyles_unformatted inside, Cell.unformatted, value, Cell.stored]
  by_cases empty : s.raw p = ""
  · rw [empty]
    rfl
  · have solid : ({ value := s.raw p } : Cell).isBlank = false :=
      beq_eq_false_iff_ne.2 fun blank => empty (congrArg Cell.value blank)
    rw [if_neg empty, solid]
    rfl

theorem Reformats.clearFormatting_eq (reformats : Reformats r s t) : t.clearFormatting r = s.clearFormatting r := by
  refine reformats.formatRange_eq Cell.restyles_unformatted Cell.restyles_unformatted fun p _ => ?_
  have value : (t.cell p).value = (s.cell p).value := by
    rw [cell, ← Grid.raw_eq, cell, ← Grid.raw_eq]
    exact congrFun reformats.raw p
  rw [Cell.unformatted, value, Cell.unformatted]

theorem clearFormatting_of_vacant (vacant : ∀ p, r.contains p = true → s.grid.get? p = none) :
    s.clearFormatting r = s := by
  have reformats := reformats_formatRange Cell.restyles_unformatted r s
  have grid : (s.clearFormatting r).grid = s.grid := by
    apply Grid.ext_get?
    intro p
    cases inside : r.contains p with
    | true =>
      have empty : s.raw p = "" := by rw [raw, Grid.raw, vacant p inside]; rfl
      rw [get?_clearFormatting inside, if_pos empty, vacant p inside]
    | false => exact reformats.others p inside
  exact reformats.rest.trans (congrArg (fun grid => { s with grid }) grid)

end Clearing

/-- However a range is formatted, values, other cells and the rest of the sheet stay as they are. Toggling gives all cells
of a range what not all of them had, and toggling thrice is toggling once. Clearing leaves the bare values, the same ones
whatever formatting came before, and so nothing where nothing was. -/
theorem formatting_reformats (r : Range) (s : Sheet) {edits : List Edit} (formats : ∀ e ∈ edits, e.formats r = true) :
    let t := applyAll edits s
    Reformats r s t ∧
      (∀ (style : TextStyle) p, r.contains p = true → (style.get ((t.toggleStyle r style).cell p) = true ↔
        ¬∀ q, r.contains q = true → style.get (t.cell q) = true)) ∧
      (∀ style, ((t.toggleStyle r style).toggleStyle r style).toggleStyle r style = t.toggleStyle r style) ∧
      (∀ p, r.contains p = true →
        (t.clearFormatting r).grid.get? p = if s.raw p = "" then none else some { value := s.raw p }) ∧
      t.clearFormatting r = s.clearFormatting r ∧
      ((∀ p, r.contains p = true → s.grid.get? p = none) → t.clearFormatting r = s) := by
  intro t
  have reformats : Reformats r s t := reformats_applyAll formats s
  have cleared := reformats.clearFormatting_eq
  refine ⟨reformats, fun style p inside => ?_, fun style => t.toggleStyle_toggleStyle_toggleStyle r style, ?_, cleared, ?_⟩
  · rw [get_toggleStyle inside, Bool.not_eq_true', ← Bool.not_eq_true, allStyled_iff]
  · intro p inside
    rw [cleared, get?_clearFormatting inside]
  · intro vacant
    rw [cleared, clearFormatting_of_vacant vacant]

/-- A bold heading beside an empty cell. -/
def heading : Sheet := ((ofSize "S" 2 2).setValue ⟨0, 0⟩ "Total").updateCell ⟨0, 0⟩ fun c => { c with bold := true }

/-- The heading made bold as a whole, and framed. -/
def framing : List Edit := [.toggleStyle ⟨0, 0, 0, 1⟩ .bold, .setBorders ⟨0, 0, 0, 1⟩ { bottom := true }]

theorem formatting_reformats_heading :
    (∀ e ∈ framing, e.formats ⟨0, 0, 0, 1⟩ = true) ∧ Reformats ⟨0, 0, 0, 1⟩ heading (applyAll framing heading) ∧
      (applyAll framing heading).cell ⟨0, 1⟩ = { bold := true, borders := { bottom := true } } ∧
      ((applyAll framing heading).clearFormatting ⟨0, 0, 0, 1⟩).grid.get? ⟨0, 1⟩ = none := by
  have formats : ∀ e ∈ framing, e.formats ⟨0, 0, 0, 1⟩ = true := by
    intro e among
    simp only [framing, List.mem_cons, List.not_mem_nil, or_false] at among
    rcases among with rfl | rfl <;> rfl
  obtain ⟨reformats, _, _, cleared, _⟩ := formatting_reformats ⟨0, 0, 0, 1⟩ heading formats
  exact ⟨formats, reformats, by decide +kernel, (cleared ⟨0, 1⟩ rfl).trans (if_pos (by decide +kernel))⟩

end Sheet

end Spreadsheet
