import Spreadsheet.Proofs.Payload.Workbook
import Spreadsheet.Proofs.Sheet.Merges

/-! What loading a text establishes. Bounds of zero are raised and blank cells dropped on the way, and a workbook is never
without sheets; merged ranges are taken over as the document lists them, whichever they are. -/
namespace Spreadsheet

open Json

/-- Ranges of several cells each that share none. -/
structure Range.Separate (ranges : List Range) : Prop where
  proper : ∀ r ∈ ranges, r.Proper
  apart : ranges.Pairwise fun r s => r.intersects s = false

theorem mapM_map_of_mapM {α β γ : Type} {f : α → Option β} {g : α → Option γ} {h : β → γ}
    (each : ∀ a b, f a = some b → g a = some (h b)) {l : List α} {m : List β} (read : l.mapM f = some m) :
    l.mapM g = some (m.map h) := by
  induction l generalizing m with
  | nil =>
    cases read
    rfl
  | cons a rest ih =>
    rw [List.mapM_cons] at read
    obtain ⟨b, one, read⟩ := Option.bind_eq_some_iff.1 read
    obtain ⟨others, more, read⟩ := Option.bind_eq_some_iff.1 read
    cases read
    rw [List.mapM_cons, each a b one, ih more]
    rfl

namespace Sheet

/-- The merged ranges that the record of a sheet lists. -/
def listedMerges (j : Json) : Option (List Range) := do
  let r ← j.asRecord fieldNames
  field r "mergedCells" [] asRanges

theorem apart_iff {s : Sheet} : s.Apart ↔ Range.Separate s.merges :=
  ⟨fun ⟨proper, apart⟩ => ⟨proper, apart⟩, fun ⟨proper, apart⟩ => ⟨proper, apart⟩⟩

theorem listedMerges_eq {j : Json} {s : Sheet} (read : ofJson? j = some s) : listedMerges j = some s.merges := by
  obtain ⟨r, record, _, _, _, mergedCells⟩ := exists_record read
  rw [listedMerges, bind_of_some record, mergedCells]

end Sheet

namespace Workbook

/-- The merged ranges that a document lists, sheet by sheet. -/
def listedMerges (payload : String) : Option (List (List Range)) := do
  let r ← (← Json.read payload.toList).asRecord ["sheets"]
  (← required r "sheets" asList).mapM Sheet.listedMerges

theorem listedMerges_eq {payload : String} {w : Workbook} (read : parse payload = some w) :
    ∃ sheets, w = ofSheets sheets ∧ listedMerges payload = some (sheets.map Sheet.merges) := by
  obtain ⟨j, json, read⟩ := Option.bind_eq_some_iff.1 read
  obtain ⟨r, record, read⟩ := Option.bind_eq_some_iff.1 read
  obtain ⟨sheets, found, read⟩ := Option.bind_eq_some_iff.1 read
  obtain ⟨value, member, viewed⟩ := Option.bind_eq_some_iff.1 found
  obtain ⟨items, list, viewed⟩ := Option.bind_eq_some_iff.1 viewed
  have listed : required r "sheets" asList = some items := by
    rw [required, member, Option.bind_some, list]
  refine ⟨sheets, (Option.some.inj read).symm, ?_⟩
  rw [listedMerges, bind_of_some json, bind_of_some record, bind_of_some listed]
  exact mapM_map_of_mapM (fun _ _ => Sheet.listedMerges_eq) viewed

theorem forall_apart_ofSheets_iff {sheets : List Sheet} :
    (∀ s ∈ (ofSheets sheets).sheets, s.Apart) ↔ ∀ ranges ∈ sheets.map Sheet.merges, Range.Separate ranges := by
  have plain : Sheet.default.Apart := Sheet.apart_ofSize _ _ _
  rw [ofSheets]
  split
  next none => simp [List.isEmpty_iff.1 none, default, plain]
  next => simp [Sheet.apart_iff]

/-- A text is loaded as at least one sheet, each with a row and a column and with no blank cell stored. Merges hold
several cells each and share none, exactly if those do that the document lists, where it is read at all. -/
theorem apart_load_iff (payload : String) :
    (load (some payload)).sheets ≠ [] ∧
      (∀ s ∈ (load (some payload)).sheets, 0 < s.rows.count ∧ 0 < s.cols.count ∧ s.grid.NoBlank) ∧
      ((∀ s ∈ (load (some payload)).sheets, s.Apart) ↔ ∀ lists, parse payload ≠ none →
        listedMerges payload = some lists → ∀ ranges ∈ lists, Range.Separate ranges) := by
  have regular := regular_load (some payload)
  refine ⟨regular.inhabited, ?_, ?_⟩
  · intro s inside
    have kind := regular.sheets s inside
    exact ⟨kind.rows, kind.cols, kind.visible⟩
  · cases read : parse payload with
    | none =>
      have loaded : load (some payload) = default := by
        rw [load, Option.bind_some, read, Option.getD_none]
      have plain : Sheet.default.Apart := Sheet.apart_ofSize _ _ _
      simp [loaded, default, plain]
    | some w =>
      have loaded : load (some payload) = w := by
        rw [load, Option.bind_some, read, Option.getD_some]
      obtain ⟨sheets, rfl, listed⟩ := listedMerges_eq read
      rw [loaded, forall_apart_ofSheets_iff, listed]
      simp

/-- A document with one sheet, whose only merge is a single cell. -/
def loneMerge : String :=
  "\x7b\"sheets\":[\x7b\"mergedCells\":[\x7b\"startRow\":0,\"startCol\":0,\"endRow\":0,\"endCol\":0\x7d]\x7d]\x7d"

theorem not_apart_loneMerge : ∃ s ∈ (load (some loneMerge)).sheets, s.merges = [⟨0, 0, 0, 0⟩] ∧ ¬s.Apart := by
  refine ⟨{ Sheet.default with merges := [⟨0, 0, 0, 0⟩] }, by decide +kernel, rfl, fun apart => ?_⟩
  have several := (apart.proper ⟨0, 0, 0, 0⟩ List.mem_cons_self).several
  cases several

end Workbook

end Spreadsheet
