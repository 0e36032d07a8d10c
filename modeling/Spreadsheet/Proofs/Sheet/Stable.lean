import Spreadsheet.Sheet.Edit

/-! Properties of sheets that every edit keeps. Edits change cells one by one, put rows in order, and change the lines,
the merges and the filters; a property that these changes keep holds all along a run of edits. -/
namespace Spreadsheet.Sheet

/-- The changes that edits are made of keep a property, where only allowed ranges are merged. -/
structure Stable (allowed : Range → Prop) (P : Sheet → Prop) : Prop where
  setCell : ∀ {s}, P s → ∀ p c, P (s.setCell p c)
  sort : ∀ {s}, P s → ∀ col direction, P (s.sortByColumn col direction)
  mapLines : ∀ {s}, P s → ∀ axis f, (∀ l : Lines, 0 < l.count → 0 < (f l).count) → P (s.mapLines axis f)
  insertLine : ∀ {s}, P s → ∀ axis place, P (s.insertLine axis place)
  deleteLine : ∀ {s}, P s → ∀ axis pivot, P (s.deleteLine axis pivot)
  merge : ∀ {s}, P s → ∀ r, allowed r → P (s.merge r).2
  unmerge : ∀ {s}, P s → ∀ p, P (s.unmerge p).2
  filter : ∀ {s}, P s → ∀ filters filterEnabled, P { s with filters, filterEnabled }

namespace Stable

variable {allowed : Range → Prop} {P : Sheet → Prop} (stable : Stable allowed P) {s : Sheet}

include stable

theorem setValue (holds : P s) (p : Position) (value : String) : P (s.setValue p value) := stable.setCell holds p _

theorem enter (holds : P s) (entries : List (Position × String)) :
    P (entries.foldl (fun t (p, field) => t.setValue p field) s) :=
  List.foldlRecOn entries _ holds fun _ holds e _ => stable.setValue holds e.1 e.2

theorem ensureSize (holds : P s) (rows cols : Nat) : P (s.ensureSize rows cols) := by
  have keeps (n : Nat) (l : Lines) (positive : 0 < l.count) : 0 < (l.grow n).count :=
    Nat.lt_of_lt_of_le positive (Nat.le_max_left _ _)
  exact stable.mapLines (stable.mapLines holds .row _ (keeps rows)) .col _ (keeps cols)

theorem clearRange (holds : P s) (r : Range) : P (s.clearRange r) :=
  List.foldlRecOn r.cells _ holds fun _ holds p _ => stable.setValue holds p ""

theorem formatRange (holds : P s) (r : Range) (f : Cell → Cell) : P (s.formatRange r f) :=
  List.foldlRecOn r.cells _ holds fun _ holds p _ => stable.setCell holds p _

theorem fillAlong (holds : P s) (origin : Position) (kind : FillKind) (steps : List (Int × Nat))
    (place : Nat → Position) : P (s.fillAlong origin kind steps place) :=
  List.foldlRecOn steps _ holds fun _ holds _ _ => stable.setValue holds _ _

theorem autofill (holds : P s) (origin target : Position) : P (s.autofill origin target).2 := by
  rw [Sheet.autofill]
  cases FillKind.classify origin target with
  | none => exact holds
  | some kind =>
    cases kind with
    | vertical =>
      dsimp only
      exact stable.fillAlong holds _ _ _ _
    | horizontal =>
      dsimp only
      exact stable.fillAlong holds _ _ _ _
    | diagonal => exact List.foldlRecOn _ _ holds fun _ holds p _ => stable.setCell holds p _

theorem pasteRows (holds : P s) (anchor : Position) (rows : List (List String)) (policy : GrowPolicy) :
    P (s.pasteRows anchor rows policy).2 := by
  unfold Sheet.pasteRows
  cases policy with
  | grow =>
    dsimp only
    split
    · exact holds
    · exact stable.enter (stable.ensureSize holds _ _) _
  | clamp =>
    dsimp only
    split
    · exact holds
    · exact stable.enter holds _

theorem importCsv (holds : P s) (content : String) : P (s.importCsv content).2 := by
  rw [Sheet.importCsv]
  split
  · exact holds
  · exact stable.enter (stable.ensureSize holds _ _) _

theorem apply (holds : P s) (e : Edit) (merged : ∀ r, e = .merge r → allowed r) : P (e.apply s) := by
  cases e with
  | setValue p value => exact stable.setValue holds p value
  | setCell p cell => exact stable.setCell holds p cell
  | updateCell p change => exact stable.setCell holds p _
  | ensureSize rows cols => exact stable.ensureSize holds rows cols
  | clearRange r => exact stable.clearRange holds r
  | setSize axis i size => exact stable.mapLines holds axis _ fun _ positive => positive
  | toggleStyle r style => exact stable.formatRange holds r _
  | setFormat r format => exact stable.formatRange holds r _
  | setAlignment r align => exact stable.formatRange holds r _
  | setBackground r color => exact stable.formatRange holds r _
  | setTextColor r color => exact stable.formatRange holds r _
  | setFontSize r size => exact stable.formatRange holds r _
  | setBorders r borders => exact stable.formatRange holds r _
  | clearFormatting r => exact stable.formatRange holds r _
  | insertLine axis place => exact stable.insertLine holds axis place
  | deleteLine axis pivot => exact stable.deleteLine holds axis pivot
  | hide axis first final => exact stable.mapLines holds axis _ fun _ positive => positive
  | unhide axis first final => exact stable.mapLines holds axis _ fun _ positive => positive
  | freeze axis n => exact stable.mapLines holds axis _ fun _ positive => positive
  | merge r => exact stable.merge holds r (merged r rfl)
  | unmerge p => exact stable.unmerge holds p
  | setFilter col allowed => exact stable.filter holds _ _
  | clearFilter col => exact stable.filter holds _ _
  | clearAllFilters => exact stable.filter holds _ _
  | setFilterEnabled enabled => exact stable.filter holds _ _
  | sort col direction => exact stable.sort holds col direction
  | autofill origin target => exact stable.autofill holds origin target
  | pasteText anchor text policy => exact stable.pasteRows holds anchor _ policy
  | importCsv content => exact stable.importCsv holds content

theorem applyAll (holds : P s) {edits : List Edit} (merged : ∀ r, .merge r ∈ edits → allowed r) :
    P (applyAll edits s) := by
  refine List.foldlRecOn edits _ holds ?_
  intro s holds e inside
  exact stable.apply holds e fun r same => merged r (same ▸ inside)

theorem and {Q : Sheet → Prop} (stable' : Stable allowed Q) : Stable allowed fun s => P s ∧ Q s where
  setCell both p c := ⟨stable.setCell both.1 p c, stable'.setCell both.2 p c⟩
  sort both col direction := ⟨stable.sort both.1 col direction, stable'.sort both.2 col direction⟩
  mapLines both axis f keeps := ⟨stable.mapLines both.1 axis f keeps, stable'.mapLines both.2 axis f keeps⟩
  insertLine both axis place := ⟨stable.insertLine both.1 axis place, stable'.insertLine both.2 axis place⟩
  deleteLine both axis pivot := ⟨stable.deleteLine both.1 axis pivot, stable'.deleteLine both.2 axis pivot⟩
  merge both r fits := ⟨stable.merge both.1 r fits, stable'.merge both.2 r fits⟩
  unmerge both p := ⟨stable.unmerge both.1 p, stable'.unmerge both.2 p⟩
  filter both filters enabled := ⟨stable.filter both.1 filters enabled, stable'.filter both.2 filters enabled⟩

end Stable

end Spreadsheet.Sheet
