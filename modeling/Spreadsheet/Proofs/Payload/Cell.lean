import Spreadsheet.Proofs.Json.View
import Spreadsheet.Proofs.Sheet.Capacity
import Spreadsheet.Proofs.Sheet.Regular
import Spreadsheet.Proofs.Text.Numeral

/-! Cells, ranges and grids come back from their records. Sizes and indices must be in the range that reading
accepts, and a grid must hold no blank cell, since reading drops those. -/
namespace Spreadsheet

open Json Text

theorem NumberFormat.ofJson?_name (f : NumberFormat) : NumberFormat.ofJson? (ofString f.name) = some f := by
  rw [ofJson?, asChoice_ofString]
  cases f <;> decide

theorem Alignment.ofJson?_name (a : Alignment) : Alignment.ofJson? (ofString a.name) = some a := by
  rw [ofJson?, asChoice_ofString]
  cases a <;> decide

namespace Borders

def fields (b : Borders) : List Field :=
  [⟨"top", true, .bool b.top⟩, ⟨"bottom", true, .bool b.bottom⟩, ⟨"left", true, .bool b.left⟩, ⟨"right", true, .bool b.right⟩]

theorem toJson_eq (b : Borders) : b.toJson = ofFields b.fields := rfl

theorem printed (b : Borders) : Printed b.toJson := by
  rw [toJson_eq]
  apply printed_ofFields b.fields
  intro f inside _
  simp only [fields, List.mem_cons, List.not_mem_nil, or_false] at inside
  rcases inside with rfl | rfl | rfl | rfl <;> exact .bool _

theorem ofJson?_toJson (b : Borders) : ofJson? b.toJson = some b := by
  have distinct : (b.fields.map Field.name).Nodup := by simp [fields]
  have record : b.toJson.asRecord ["top", "bottom", "left", "right"] = some (kept b.fields) :=
    asRecord_ofFields rfl distinct
  have flag (name : String) (on : Bool) (inside : ⟨name, true, .bool on⟩ ∈ b.fields) :
      field (kept b.fields) name false asBool = some on := field_always distinct inside rfl
  have top := flag "top" b.top (by simp [fields])
  have bottom := flag "bottom" b.bottom (by simp [fields])
  have left := flag "left" b.left (by simp [fields])
  have right := flag "right" b.right (by simp [fields])
  rw [ofJson?, bind_of_some record, bind_of_some top, bind_of_some bottom, bind_of_some left, bind_of_some right]
  rfl

end Borders

namespace Cell

def fields (c : Cell) : List Field :=
  [⟨"value", true, ofString c.value⟩, ⟨"format", c.format ≠ .plain, ofString c.format.name⟩, ⟨"bold", c.bold, .bool true⟩,
    ⟨"italic", c.italic, .bool true⟩, ⟨"underline", c.underline, .bool true⟩, ⟨"strikethrough", c.strikethrough, .bool true⟩,
    ⟨"bgColor", c.background.isSome, ofString (c.background.getD "")⟩,
    ⟨"textColor", c.textColor.isSome, ofString (c.textColor.getD "")⟩, ⟨"align", c.align ≠ .left, ofString c.align.name⟩,
    ⟨"fontSize", c.fontSize.isSome, ofNat (c.fontSize.getD 0)⟩, ⟨"borders", c.borders ≠ {}, c.borders.toJson⟩]

theorem toJson_eq (c : Cell) : c.toJson = ofFields c.fields := by simp [toJson, ofFields, fields]

theorem printed (c : Cell) : Printed c.toJson := by
  rw [toJson_eq]
  refine printed_ofFields _ ?_
  intro f inside _
  simp only [fields, List.mem_cons, List.not_mem_nil, or_false] at inside
  rcases inside with rfl | rfl | rfl | rfl | rfl | rfl | rfl | rfl | rfl | rfl | rfl
  all_goals first | exact printed_ofString _ | exact .bool _ | exact printed_ofNat _ | exact c.borders.printed

theorem ofJson?_toJson {c : Cell} (fits : c.Fits) : ofJson? c.toJson = some c := by
  have distinct : (c.fields.map Field.name).Nodup := by simp [fields]
  have record : c.toJson.asRecord fieldNames = some (kept c.fields) := by
    rw [toJson_eq]
    exact asRecord_ofFields rfl distinct
  have flag (name : String) (on : Bool) (inside : ⟨name, on, .bool true⟩ ∈ c.fields) :
      field (kept c.fields) name false asBool = some on := field_flag distinct inside
  have color (name : String) (text : Option String) (inside : ⟨name, text.isSome, ofString (text.getD "")⟩ ∈ c.fields) :
      field (kept c.fields) name none (asNullable asString) = some text :=
    field_optional distinct inside (fun _ _ => asString_ofString _) nofun
  have formatInside : ⟨"format", c.format ≠ .plain, ofString c.format.name⟩ ∈ c.fields := by simp [fields]
  have alignInside : ⟨"align", c.align ≠ .left, ofString c.align.name⟩ ∈ c.fields := by simp [fields]
  have sizeInside : ⟨"fontSize", c.fontSize.isSome, ofNat (c.fontSize.getD 0)⟩ ∈ c.fields := by simp [fields]
  have bordersInside : ⟨"borders", c.borders ≠ {}, c.borders.toJson⟩ ∈ c.fields := by simp [fields]
  have value : field (kept c.fields) "value" "" asString = some c.value :=
    field_always distinct List.mem_cons_self (asString_ofString _)
  have format := field_unless_default distinct formatInside (NumberFormat.ofJson?_name _)
  have align := field_unless_default distinct alignInside (Alignment.ofJson?_name _)
  have borders := field_unless_default distinct bordersInside (Borders.ofJson?_toJson _)
  have fontSize : field (kept c.fields) "fontSize" none (asNullable (asNat sizeLimit)) = some c.fontSize :=
    field_optional distinct sizeInside (fun n same => asNat_ofNat (fits n same)) nofun
  have bold := flag "bold" c.bold (by simp [fields])
  have italic := flag "italic" c.italic (by simp [fields])
  have underline := flag "underline" c.underline (by simp [fields])
  have strikethrough := flag "strikethrough" c.strikethrough (by simp [fields])
  have background := color "bgColor" c.background (by simp [fields])
  have textColor := color "textColor" c.textColor (by simp [fields])
  rw [ofJson?, bind_of_some record, bind_of_some value, bind_of_some format, bind_of_some bold,
    bind_of_some italic,
    bind_of_some underline, bind_of_some strikethrough, bind_of_some background, bind_of_some textColor, bind_of_some align,
    bind_of_some fontSize, bind_of_some borders]
  rfl

end Cell

namespace Range

def fields (r : Range) : List Field :=
  [⟨"startRow", true, ofNat r.startRow⟩, ⟨"startCol", true, ofNat r.startCol⟩, ⟨"endRow", true, ofNat r.endRow⟩,
    ⟨"endCol", true, ofNat r.endCol⟩]

theorem toJson_eq (r : Range) : r.toJson = ofFields r.fields := rfl

theorem printed (r : Range) : Printed r.toJson := by
  rw [toJson_eq]
  apply printed_ofFields r.fields
  intro f inside _
  simp only [fields, List.mem_cons, List.not_mem_nil, or_false] at inside
  rcases inside with rfl | rfl | rfl | rfl <;> exact printed_ofNat _

theorem ofJson?_toJson {r : Range} (fits : r.Fits) : ofJson? r.toJson = some r := by
  have distinct : (r.fields.map Field.name).Nodup := by simp [fields]
  have record : r.toJson.asRecord ["startRow", "startCol", "endRow", "endCol"] = some (kept r.fields) :=
    asRecord_ofFields rfl distinct
  have index (name : String) {n : Nat} (low : n < indexLimit) (inside : ⟨name, true, ofNat n⟩ ∈ r.fields) :
      required (kept r.fields) name (asNat indexLimit) = some n := required_kept distinct inside (asNat_ofNat low)
  have startRow := index "startRow" fits.startRow (by simp [fields])
  have startCol := index "startCol" fits.startCol (by simp [fields])
  have endRow := index "endRow" fits.endRow (by simp [fields])
  have endCol := index "endCol" fits.endCol (by simp [fields])
  rw [ofJson?, bind_of_some record, bind_of_some startRow, bind_of_some startCol, bind_of_some endRow,
    bind_of_some endCol]
  rfl

end Range

namespace Position

theorem readSignedNumeral_numeral {limit n : Nat} (low : n < limit) :
    readSignedNumeral limit (numeral n) = some n := by
  rw [readSignedNumeral.eq_def]
  split
  next rest plus =>
    have digit : '+'.isDigit = true := isDigit_of_mem_numeral (n := n) (by simp [plus])
    cases digit
  next => exact readNumeral_numeral low

theorem ofKey_key {p : Position} (fits : p.Fits) : ofKey p.key = .ok p := by
  have digits : ∀ c ∈ numeral p.row, decide (c ≠ ':') = true := by
    intro c member
    rw [decide_eq_true_eq]
    intro same
    subst same
    cases isDigit_of_mem_numeral member
  have before : p.key.takeWhile (· ≠ ':') = numeral p.row := by
    rw [key, List.takeWhile_append_of_pos digits]
    simp
  have after : p.key.dropWhile (· ≠ ':') = ':' :: numeral p.col := by
    rw [key, List.dropWhile_append_of_pos digits]
    simp
  simp only [ofKey, before, after, readSignedNumeral_numeral fits.1, readSignedNumeral_numeral fits.2]

theorem plain_key {p : Position} : escape p.key = p.key := by
  apply escape_of_plain
  intro c member
  have cases : c.isDigit = true ∨ c = ':' := by
    simp only [key, List.mem_append, List.mem_cons] at member
    rcases member with inside | rfl | inside
    · exact .inl (isDigit_of_mem_numeral inside)
    · exact .inr rfl
    · exact .inl (isDigit_of_mem_numeral inside)
  rcases cases with digit | rfl
  · exact plain_of_isDigit digit
  · decide

end Position

namespace Grid

theorem printed (g : Grid) : Printed g.toJson := by
  refine .object ?_ ?_
  · intro m inside
    obtain ⟨e, _, rfl⟩ := List.mem_map.1 inside
    exact ⟨e.1.key, Position.plain_key.symm⟩
  · intro m inside
    obtain ⟨e, _, rfl⟩ := List.mem_map.1 inside
    exact e.2.printed

theorem foldl_set {l : List (Position × Cell)} (visible : ∀ e ∈ l, e.2 ≠ Cell.blank) (t : Table Position Cell) :
    l.foldl (fun g e => g.set e.1 e.2) ⟨t⟩ = (⟨l.foldl (fun t e => t.insert e.1 e.2) t⟩ : Grid) := by
  induction l generalizing t with
  | nil => rfl
  | cons e rest ih =>
    have solid : e.2.isBlank = false := beq_eq_false_iff_ne.2 (visible e List.mem_cons_self)
    have placed : (⟨t⟩ : Grid).set e.1 e.2 = ⟨t.insert e.1 e.2⟩ := by
      rw [set, solid]
      rfl
    rw [List.foldl_cons, placed]
    exact ih (fun f inside => visible f (List.mem_cons_of_mem _ inside)) _

/-- An entry under the text of its key, and back. -/
def keyed (e : Position × Cell) : String × Cell := (String.ofList e.1.key, e.2)

def unkeyed (e : String × Cell) : Position × Cell := (((Position.ofKey e.1.toList).toOption).getD default, e.2)

theorem ofKey_keyed {e : Position × Cell} (fits : e.1.Fits) :
    (Position.ofKey (keyed e).1.toList).toOption = some e.1 := by
  rw [keyed, String.toList_ofList, Position.ofKey_key fits]
  rfl

theorem unkeyed_keyed {e : Position × Cell} (fits : e.1.Fits) : unkeyed (keyed e) = e := by
  rw [unkeyed, ofKey_keyed fits]
  rfl

theorem distinct_keyed {g : Grid} (fits : g.Fits) : ((g.cells.entries.map keyed).map (·.1)).Nodup := by
  rw [List.map_map]
  refine List.pairwise_map.2 (g.cells.increasing.imp_of_mem ?_)
  intro a b first second before same
  have back := ofKey_keyed (fits a first).1
  rw [show (keyed a).1 = (keyed b).1 from same, ofKey_keyed (fits b second).1] at back
  rw [Option.some.inj back] at before
  simp at before

theorem asMembers_toJson (g : Grid) : g.toJson.asMembers = some
    (g.cells.entries.map fun e => (e.1.key, e.2.toJson)) := by
  rw [toJson, asMembers, List.mapM_map]
  apply mapM_eq_map
  intro e _
  simp only [Function.comp_apply]
  rw [← Position.plain_key, unescape_escape, Position.plain_key]
  rfl

theorem ofJson?_toJson {g : Grid} (visible : g.NoBlank) (fits : g.Fits) : ofJson? g.toJson = some g := by
  have cells : (g.cells.entries.map fun e => (e.1.key, e.2.toJson)).mapM
      (fun m => do return (String.ofList m.1, ← Cell.ofJson? m.2)) = some (g.cells.entries.map keyed) := by
    rw [List.mapM_map]
    apply mapM_eq_map
    intro e inside
    simp only [Function.comp_apply, Cell.ofJson?_toJson (fits e inside).2]
    rfl
  let texts := Table.ofList (g.cells.entries.map keyed)
  have same : texts.entries.Perm (g.cells.entries.map keyed) := Table.perm_entries_ofList (distinct_keyed fits)
  have placed : texts.entries.mapM (fun m => do return (← (Position.ofKey m.1.toList).toOption, m.2)) =
      some (texts.entries.map unkeyed) := by
    apply mapM_eq_map
    intro e inside
    obtain ⟨old, among, rfl⟩ := List.mem_map.1 (same.mem_iff.1 inside)
    simp only [unkeyed, ofKey_keyed (fits old among).1]
    rfl
  have back : (g.cells.entries.map keyed).map unkeyed = g.cells.entries := by
    rw [List.map_map]
    exact (List.map_congr_left fun e inside => unkeyed_keyed (fits e inside).1).trans (List.map_id _)
  have all : (texts.entries.map unkeyed).Perm g.cells.entries := back ▸ same.map unkeyed
  have drawn := foldl_set (fun e inside => visible e (all.mem_iff.1 inside)) ∅
  refine Option.bind_eq_some_iff.2 ⟨_, asMembers_toJson g, ?_⟩
  refine Option.bind_eq_some_iff.2 ⟨_, cells, ?_⟩
  refine Option.bind_eq_some_iff.2 ⟨_, placed, ?_⟩
  exact congrArg some (drawn.trans (congrArg Grid.mk (Table.ofList_of_perm all)))

theorem noBlank_foldl_set (l : List (Position × Cell)) {g : Grid} (visible : g.NoBlank) :
    (l.foldl (fun g (p, c) => g.set p c) g).NoBlank := by
  induction l generalizing g with
  | nil => exact visible
  | cons e rest ih => exact ih (noBlank_set visible e.1 e.2)

theorem noBlank_ofJson? {j : Json} {g : Grid} (read : ofJson? j = some g) : g.NoBlank := by
  obtain ⟨members, _, read⟩ := Option.bind_eq_some_iff.1 read
  obtain ⟨cells, _, read⟩ := Option.bind_eq_some_iff.1 read
  obtain ⟨placed, _, read⟩ := Option.bind_eq_some_iff.1 read
  rw [← Option.some.inj read]
  exact noBlank_foldl_set placed noBlank_empty

end Grid

end Spreadsheet
