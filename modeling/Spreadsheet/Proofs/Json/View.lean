import Spreadsheet.Payload.Cell
import Spreadsheet.Proofs.Json.Escape
import Spreadsheet.Proofs.Json.Reading

/-! Views of trees as printing makes them. A record is printed from a list of fields, each kept or left out; reading
gives the kept ones, so a field reads back when its view undoes what was kept and its default stands for what was
left out. -/
namespace Spreadsheet.Json

open Text

theorem bind_of_some {α β : Type} {x : Option α} {a : α} (given : x = some a) {f : α → Option β} :
    (x >>= f) = f a := by
  rw [given]
  rfl

theorem mapM_eq_map {α β : Type} {f : α → Option β} {g : α → β} {l : List α} (each : ∀ a ∈ l, f a = some (g a)) :
    l.mapM f = some (l.map g) := by
  induction l with
  | nil => rfl
  | cons a rest ih =>
    rw [List.mapM_cons, each a List.mem_cons_self, ih fun b inside => each b (List.mem_cons_of_mem _ inside)]
    rfl

theorem mem_of_mapM {α β : Type} {f : α → Option β} {l : List α} {m : List β} (read : l.mapM f = some m) {b : β}
    (inside : b ∈ m) :
    ∃ a ∈ l, f a = some b := by
  induction l generalizing m with
  | nil =>
    cases read
    cases inside
  | cons a rest ih =>
    rw [List.mapM_cons] at read
    obtain ⟨first, one, read⟩ := Option.bind_eq_some_iff.1 read
    obtain ⟨others, more, read⟩ := Option.bind_eq_some_iff.1 read
    cases read
    rcases List.mem_cons.1 inside with rfl | inside
    · exact ⟨a, List.mem_cons_self, one⟩
    · obtain ⟨c, among, view⟩ := ih more inside
      exact ⟨c, List.mem_cons_of_mem _ among, view⟩

@[simp] theorem asString_ofString (s : String) : (ofString s).asString = some s := by
  simp [ofString, asString, asChars]

@[simp] theorem asChoice_ofString (s : String) : (ofString s).asChoice = some s.toList := unescape_escape _

@[simp] theorem asNat_ofNat {limit n : Nat} (fits : n < limit) :
    (ofNat n).asNat limit = some n := readNumeral_numeral fits

theorem printed_ofString (s : String) : Printed (ofString s) := .string _

theorem printed_ofNat (n : Nat) : Printed (ofNat n) := .number n

/-- A member of a record that may be left out. -/
structure Field where
  name : String
  kept : Bool
  value : Json

/-- The fields that are kept, by name. -/
def kept (fields : List Field) : List (String × Json) := (fields.filter Field.kept).map fun f => (f.name, f.value)

theorem mem_kept {fields : List Field} {e : String × Json} :
    e ∈ kept fields ↔ ∃ f ∈ fields, f.kept = true ∧ (f.name, f.value) = e := by
  simp [kept, and_assoc]

theorem kept_cons (f : Field) (fields : List Field) :
    kept (f :: fields) = if f.kept then (f.name, f.value) :: kept fields else kept fields := by
  cases keeps : f.kept <;> simp [kept, keeps]

def ofFields (fields : List Field) : Json := .object (fields.flatMap fun f => member f.name f.kept f.value)

theorem flatMap_member (fields : List Field) :
    (fields.flatMap fun f => member f.name f.kept f.value) = (kept fields).map fun f =>
    (escape f.1.toList, f.2) := by
  induction fields with
  | nil => rfl
  | cons f rest ih =>
    rw [List.flatMap_cons, ih]
    cases keeps : f.kept <;> simp [member, kept_cons, keeps]

theorem asMembers_ofFields (fields : List Field) :
    (ofFields fields).asMembers = some ((kept fields).map fun f => (f.1.toList, f.2)) := by
  rw [ofFields, flatMap_member, asMembers, List.mapM_map]
  apply mapM_eq_map
  intro f _
  simp

theorem printed_ofFields (fields : List Field) (values : ∀ f ∈ fields, f.kept = true → Printed f.value) :
    Printed (ofFields fields) := by
  rw [ofFields, flatMap_member]
  refine .object ?_ ?_
  · intro m inside
    obtain ⟨f, _, rfl⟩ := List.mem_map.1 inside
    exact ⟨_, rfl⟩
  · intro m inside
    obtain ⟨e, among, rfl⟩ := List.mem_map.1 inside
    obtain ⟨f, one, keeps, rfl⟩ := mem_kept.1 among
    exact values f one keeps

theorem asRecord_ofFields {names : List String} {fields : List Field} (same : fields.map Field.name = names)
    (distinct : names.Nodup) : (ofFields fields).asRecord names = some (kept fields) := by
  have known : ∀ f ∈ kept fields, decide (f.1 ∈ names) = true := by
    intro e inside
    obtain ⟨f, one, _, rfl⟩ := mem_kept.1 inside
    rw [decide_eq_true_eq, ← same]
    exact List.mem_map_of_mem one
  have once : ((kept fields).map (·.1)).Nodup := by
    have sublist : ((fields.filter Field.kept).map Field.name).Sublist names := same ▸ List.filter_sublist.map _
    simpa [kept, Function.comp_def] using distinct.sublist sublist
  have members := asMembers_ofFields fields
  rw [ofFields] at members ⊢
  rw [asRecord.eq_def]
  simp only [members, Option.bind_eq_bind, Option.bind_some, List.map_map, Function.comp_def, String.ofList_toList,
    List.map_id']
  rw [List.filter_eq_self.2 known, if_pos once]

theorem lookup_kept {fields : List Field} (distinct : (fields.map Field.name).Nodup) {f : Field}
    (inside : f ∈ fields) :
    (kept fields).lookup f.name = if f.kept then some f.value else none := by
  induction fields with
  | nil => cases inside
  | cons g rest ih =>
    obtain ⟨fresh, tail⟩ := List.nodup_cons.1 distinct
    rcases List.mem_cons.1 inside with rfl | inside
    · have absent : (kept rest).lookup f.name = none := by
        apply List.lookup_eq_none_iff.2
        intro entry found
        obtain ⟨h, one, _, rfl⟩ := mem_kept.1 found
        rw [bne_iff_ne]
        intro equal
        exact fresh (equal ▸ List.mem_map_of_mem one)
      cases keeps : f.kept <;> simp [kept_cons, keeps, absent]
    · have other : (f.name == g.name) = false := by
        rw [beq_eq_false_iff_ne]
        intro equal
        exact fresh (equal ▸ List.mem_map_of_mem inside)
      have skipped : (kept (g :: rest)).lookup f.name = (kept rest).lookup f.name := by
        cases keeps : g.kept <;> simp [kept_cons, keeps, List.lookup_cons, other]
      rw [skipped]
      exact ih tail inside

theorem field_cases {α : Type} {record : List (String × Json)} {name : String} {absent x : α}
    {view : Json → Option α}
    (read : field record name absent view = some x) : absent = x ∨ ∃ j, view j = some x := by
  rw [field] at read
  split at read
  next j _ => exact .inr ⟨j, read⟩
  next => exact .inl (Option.some.inj read)

section Fields

variable {α : Type} {fields : List Field} {name : String} {value : Json} {absent x : α} {view : Json → Option α}
  (distinct : (fields.map Field.name).Nodup)
include distinct

/-- A field reads back if its view undoes what was kept, and its default is what was left out. -/
theorem field_kept {keeps : Bool} (inside : ⟨name, keeps, value⟩ ∈ fields)
    (present : keeps = true → view value = some x)
    (left : keeps = false → absent = x) : field (kept fields) name absent view = some x := by
  rw [field, lookup_kept distinct inside]
  cases keeps with
  | true => exact present rfl
  | false => exact congrArg some (left rfl)

theorem required_kept (inside : ⟨name, true, value⟩ ∈ fields) (present : view value = some x) :
    required (kept fields) name view = some x := by
  rw [required, lookup_kept distinct inside]
  exact present

theorem field_always (inside : ⟨name, true, value⟩ ∈ fields) (present : view value = some x) :
    field (kept fields) name absent view = some x := field_kept distinct inside (fun _ => present) nofun

theorem field_unless_default [Decidable (x ≠ absent)] (inside : ⟨name, x ≠ absent, value⟩ ∈ fields)
    (present : view value = some x) : field (kept fields) name absent view = some x := by
  apply field_kept distinct inside (fun _ => present)
  intro left
  exact (Classical.not_not.1 (of_decide_eq_false left)).symm

theorem field_flag {on : Bool} (inside : ⟨name, on, .bool true⟩ ∈ fields) :
    field (kept fields) name false asBool = some on := by
  refine field_kept distinct inside ?_ ?_
  · intro same
    subst same
    rfl
  · intro same
    subst same
    rfl

theorem field_optional {x : Option α} {print : α → Json} {default : α}
    (inside : ⟨name, x.isSome, print (x.getD default)⟩ ∈ fields)
    (present : ∀ y, x = some y → view (print y) = some y) (solid : ∀ y, print y ≠ .null) :
    field (kept fields) name none (asNullable view) = some x := by
  refine field_kept distinct inside ?_ ?_
  · intro keeps
    obtain ⟨y, rfl⟩ := Option.isSome_iff_exists.1 keeps
    rw [Option.getD_some, asNullable.eq_def]
    split
    next null => exact absurd null (solid y)
    next => rw [present y rfl, Option.map_some]
  · intro left
    exact (Option.isNone_iff_eq_none.1 (by simpa using left)).symm

end Fields

end Spreadsheet.Json
