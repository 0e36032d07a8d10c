import Spreadsheet.Table

/-! Tables by what they hold. A key has at most one entry and looking up finds it, so tables with the same entries
are equal; a table made of entries with different keys holds just those. -/
namespace Spreadsheet

namespace Table

variable {κ α : Type} [Ord κ] [Std.TransOrd κ] [Std.LawfulEqOrd κ]

/-- Keys in strictly increasing order. -/
abbrev Increasing (l : List (κ × α)) : Prop := l.Pairwise fun a b => compare a.1 b.1 = .lt

omit [Std.TransOrd κ] in
theorem mem_of_lookupIn {k : κ} {v : α} {l : List (κ × α)} (found : lookupIn k l = some v) : (k, v) ∈ l := by
  induction l with
  | nil => cases found
  | cons head rest ih =>
    obtain ⟨k', v'⟩ := head
    rw [lookupIn] at found
    split at found
    next same =>
      cases Std.LawfulEqCmp.compare_eq_iff_eq.1 same
      cases found
      exact List.mem_cons_self
    next => exact List.mem_cons_of_mem _ (ih found)

omit [Std.TransOrd κ] in
theorem lookupIn_of_mem {k : κ} {v : α} {l : List (κ × α)} (distinct : (l.map (·.1)).Nodup) (member : (k, v) ∈ l) :
    lookupIn k l = some v := by
  induction l with
  | nil => cases member
  | cons head rest ih =>
    obtain ⟨fresh, tail⟩ := List.nodup_cons.1 distinct
    rw [lookupIn]
    rcases List.mem_cons.1 member with rfl | inside
    · simp
    · have other : ¬ compare k head.1 = .eq := by
        intro same
        cases Std.LawfulEqCmp.compare_eq_iff_eq.1 same
        exact fresh (List.mem_map.2 ⟨_, inside, rfl⟩)
      rw [if_neg other]
      exact ih tail inside

omit [Std.TransOrd κ] in
theorem Increasing.distinct {l : List (κ × α)} (increasing : Increasing l) : (l.map (·.1)).Nodup := by
  refine List.pairwise_map.2 (increasing.imp ?_)
  intro a b before same
  rw [same] at before
  simp at before

omit [Std.TransOrd κ] in
theorem mem_entries_iff {t : Table κ α} {k : κ} {v : α} : (k, v) ∈ t.entries ↔ t.get? k = some v :=
  ⟨lookupIn_of_mem (Increasing.distinct t.increasing), mem_of_lookupIn⟩

omit [Std.TransOrd κ] in
theorem forall_entries_iff {t : Table κ α} {P : κ × α → Prop} :
    (∀ e ∈ t.entries, P e) ↔ ∀ k v, t.get? k = some v → P (k, v) := by
  constructor
  · exact fun all k v found => all (k, v) (mem_entries_iff.2 found)
  · exact fun all e inside => all e.1 e.2 (mem_entries_iff.1 inside)

omit [Std.LawfulEqOrd κ] in
theorem eq_of_perm {s t : Table κ α} (same : s.entries.Perm t.entries) : s = t := by
  refine ext_entries (same.eq_of_pairwise ?_ s.increasing t.increasing)
  intro a b _ _ before after
  exact absurd (Std.OrientedCmp.gt_iff_lt.2 after) (by simp [before])

omit [Std.TransOrd κ] in
theorem perm_insertIn {k : κ} {v : α} {l : List (κ × α)} (fresh : k ∉ l.map (·.1)) :
    (insertIn k v l).Perm ((k, v) :: l) := by
  induction l with
  | nil => exact .refl _
  | cons head rest ih =>
    obtain ⟨k', v'⟩ := head
    simp only [List.map_cons, List.mem_cons, not_or] at fresh
    rw [insertIn]
    split
    next => exact .refl _
    next same => exact absurd (Std.LawfulEqCmp.compare_eq_iff_eq.1 same) fresh.1
    next => exact ((ih fresh.2).cons _).trans (.swap _ _ _)

theorem perm_foldl_insert (l : List (κ × α)) (t : Table κ α) (distinct : ((t.entries ++ l).map (·.1)).Nodup) :
    (l.foldl (fun t e => t.insert e.1 e.2) t).entries.Perm (t.entries ++ l) := by
  induction l generalizing t with
  | nil => simp
  | cons e rest ih =>
    have moved : (t.entries ++ e :: rest).Perm (e :: t.entries ++ rest) := List.perm_middle
    have inserted : (t.insert e.1 e.2).entries.Perm (e :: t.entries) := by
      apply perm_insertIn
      have apart := (moved.map (·.1)).nodup_iff.1 distinct
      simp only [List.cons_append, List.map_cons, List.map_append, List.nodup_cons, List.mem_append,
        not_or] at apart
      exact apart.1.1
    have all : ((t.insert e.1 e.2).entries ++ rest).Perm (t.entries ++ e :: rest) :=
      (inserted.append_right rest).trans moved.symm
    exact (ih _ ((all.map (·.1)).nodup_iff.2 distinct)).trans all

theorem perm_entries_ofList {l : List (κ × α)} (distinct : (l.map (·.1)).Nodup) : (ofList l).entries.Perm l := by
  simpa [ofList] using perm_foldl_insert l empty (by simpa using distinct)

theorem ofList_of_perm {l : List (κ × α)} {t : Table κ α} (same : l.Perm t.entries) : ofList l = t :=
  eq_of_perm ((perm_entries_ofList ((same.map (·.1)).nodup_iff.2 (Increasing.distinct t.increasing))).trans same)

omit [Std.TransOrd κ] [Std.LawfulEqOrd κ] in
theorem eq_empty {t : Table κ α} (vacant : t.isEmpty = true) : t = ∅ := ext_entries (List.isEmpty_iff.1 vacant)

@[simp] theorem ofList_entries (t : Table κ α) : ofList t.entries = t := ofList_of_perm (.refl _)

theorem mem_of_mem_foldl_insert {l : List (κ × α)} {t : Table κ α} {e : κ × α}
    (member : e ∈ (l.foldl (fun t e => t.insert e.1 e.2) t).entries) : e ∈ t.entries ∨ e ∈ l := by
  induction l generalizing t with
  | nil => exact .inl member
  | cons head rest ih =>
    rcases ih member with inside | inside
    · rcases mem_insertIn inside with rfl | inside
      · exact .inr List.mem_cons_self
      · exact .inl inside
    · exact .inr (List.mem_cons_of_mem _ inside)

theorem mem_of_mem_ofList {l : List (κ × α)} {e : κ × α} (member : e ∈ (ofList l).entries) : e ∈ l := by
  rcases mem_of_mem_foldl_insert member with inside | inside
  · cases inside
  · exact inside

omit [Std.TransOrd κ] [Std.LawfulEqOrd κ] in
theorem mem_of_mem_erase {t : Table κ α} {k : κ} {e : κ × α} (member : e ∈ (t.erase k).entries) : e ∈ t.entries :=
  (List.mem_filter.1 member).1

theorem mem_rekey {f : κ → Option κ} {t : Table κ α} {e : κ × α} (member : e ∈ (t.rekey f).entries) :
    ∃ k, (k, e.2) ∈ t.entries := by
  obtain ⟨old, inside, moved⟩ := List.mem_filterMap.1 (mem_of_mem_ofList member)
  obtain ⟨k, _, rfl⟩ := Option.map_eq_some_iff.1 moved
  exact ⟨old.1, inside⟩

theorem ext_get? {s t : Table κ α} (same : ∀ k, s.get? k = t.get? k) : s = t := by
  have distinct (u : Table κ α) : u.entries.Nodup :=
    (List.pairwise_map.1 (Increasing.distinct u.increasing)).imp fun other same => other (congrArg _ same)
  apply eq_of_perm
  rw [List.perm_ext_iff_of_nodup (distinct s) (distinct t)]
  rintro ⟨k, v⟩
  rw [mem_entries_iff, mem_entries_iff, same]

/-- No two keys of the table go to one place. -/
def Spreads (f : κ → Option κ) (t : Table κ α) : Prop := ∀ i ∈ t.keys, ∀ j ∈ t.keys, ∀ k, f i = some k → f j = some k → i = j

section Spread

variable {f : κ → Option κ} {t : Table κ α} (spreads : t.Spreads f)
include spreads

omit [Std.TransOrd κ] in
theorem Spreads.nodup_keys : ((t.entries.filterMap fun e => (f e.1).map (·, e.2)).map (·.1)).Nodup := by
  have distinct := (List.pairwise_map.1 (Increasing.distinct t.increasing)).imp_of_mem (S := fun a b =>
    ∀ k, f a.1 = some k → f b.1 = some k → False) fun inside inside' other k lands lands' =>
      other (spreads _ (List.mem_map_of_mem inside) _ (List.mem_map_of_mem inside') k lands lands')
  refine List.pairwise_map.2 (.filterMap _ ?_ distinct)
  intro a b apart c moved d moved' same
  obtain ⟨i, lands, rfl⟩ := Option.map_eq_some_iff.1 moved
  obtain ⟨j, lands', rfl⟩ := Option.map_eq_some_iff.1 moved'
  cases same
  exact apart _ lands lands'

/-- Where no two keys go to the same place, all entries that have a place are kept. -/
theorem Spreads.perm_entries_rekey : (t.rekey f).entries.Perm (t.entries.filterMap fun e => (f e.1).map (·, e.2)) :=
  perm_entries_ofList spreads.nodup_keys

/-- Every entry is found where its key goes. -/
theorem Spreads.mem_rekey_iff {k : κ} {v : α} :
    (k, v) ∈ (t.rekey f).entries ↔ ∃ i, f i = some k ∧ (i, v) ∈ t.entries := by
  rw [spreads.perm_entries_rekey.mem_iff, List.mem_filterMap]
  constructor
  · rintro ⟨⟨i, w⟩, inside, moved⟩
    obtain ⟨j, lands, same⟩ := Option.map_eq_some_iff.1 moved
    cases same
    exact ⟨i, lands, inside⟩
  · rintro ⟨i, lands, inside⟩
    exact ⟨(i, v), inside, by simp [lands]⟩

end Spread

section Rekey

variable {f : κ → Option κ} (apart : ∀ i j k, f i = some k → f j = some k → i = j)
include apart

omit [Std.TransOrd κ] [Std.LawfulEqOrd κ] in
theorem spreads_of_apart (t : Table κ α) : t.Spreads f := fun i _ j _ k => apart i j k

theorem perm_entries_rekey (t : Table κ α) :
    (t.rekey f).entries.Perm (t.entries.filterMap fun e => (f e.1).map (·, e.2)) :=
  (spreads_of_apart apart t).perm_entries_rekey

theorem mem_rekey_iff {t : Table κ α} {k : κ} {v : α} :
    (k, v) ∈ (t.rekey f).entries ↔ ∃ i, f i = some k ∧ (i, v) ∈ t.entries :=
  (spreads_of_apart apart t).mem_rekey_iff

theorem forall_mem_rekey_iff {t : Table κ α} {P : κ × α → Prop} :
    (∀ e ∈ (t.rekey f).entries, P e) ↔ ∀ e ∈ t.entries, ∀ k, f e.1 = some k → P (k, e.2) := by
  constructor
  · rintro all ⟨i, v⟩ inside k lands
    exact all (k, v) ((mem_rekey_iff apart).2 ⟨i, lands, inside⟩)
  · rintro all ⟨k, v⟩ inside
    obtain ⟨i, lands, inside⟩ := (mem_rekey_iff apart).1 inside
    exact all (i, v) inside k lands

theorem get?_rekey {t : Table κ α} {i k : κ} (lands : f i = some k) : (t.rekey f).get? k = t.get? i := by
  apply Option.ext
  intro v
  rw [← mem_entries_iff, ← mem_entries_iff, mem_rekey_iff apart]
  constructor
  · rintro ⟨j, lands', inside⟩
    rwa [apart i j k lands lands']
  · exact fun inside => ⟨i, lands, inside⟩

theorem get?_rekey_vacant {t : Table κ α} {k : κ} (vacant : ∀ i, f i ≠ some k) : (t.rekey f).get? k = none := by
  rw [Option.eq_none_iff_forall_ne_some]
  intro v found
  obtain ⟨i, lands, _⟩ := (mem_rekey_iff apart).1 (mem_entries_iff.2 found)
  exact vacant i lands

/-- When keys go by a map, the second table holds at each key what the first one held at the key that goes there, and
nothing at the keys that are added. -/
structure Follows (f : κ → Option κ) (added : κ → Prop) (s t : Table κ α) : Prop where
  kept : ∀ i j, f i = some j → t.get? j = s.get? i
  fresh : ∀ j, added j → t.get? j = none

theorem follows_rekey {added : κ → Prop} (vacant : ∀ i j, f i = some j → ¬added j) (t : Table κ α) :
    t.Follows f added (t.rekey f) := by
  refine ⟨fun i j lands => get?_rekey apart lands, ?_⟩
  intro j new
  exact get?_rekey_vacant apart fun i lands => vacant i j lands new

/-- Moving keys twice is moving them once, to where the first map and then the second one takes them. -/
theorem rekey_bind {g : κ → Option κ} (apart' : ∀ i j k, g i = some k → g j = some k → i = j) (t : Table κ α) :
    (t.rekey f).rekey g = t.rekey fun i => (f i).bind g := by
  have both : ∀ i j k, (f i).bind g = some k → (f j).bind g = some k → i = j := by
    intro i j k lands lands'
    obtain ⟨m, first, second⟩ := Option.bind_eq_some_iff.1 lands
    obtain ⟨n, first', second'⟩ := Option.bind_eq_some_iff.1 lands'
    obtain rfl := apart' m n k second second'
    exact apart i j m first first'
  apply ext_get?
  intro k
  apply Option.ext
  intro v
  rw [← mem_entries_iff, ← mem_entries_iff, mem_rekey_iff apart', mem_rekey_iff both]
  constructor
  · rintro ⟨m, second, inside⟩
    obtain ⟨i, first, inside⟩ := (mem_rekey_iff apart).1 inside
    exact ⟨i, Option.bind_eq_some_iff.2 ⟨m, first, second⟩, inside⟩
  · rintro ⟨i, lands, inside⟩
    obtain ⟨m, first, second⟩ := Option.bind_eq_some_iff.1 lands
    exact ⟨m, second, (mem_rekey_iff apart).2 ⟨i, first, inside⟩⟩

theorem rekey_rekey {g : κ → Option κ} (apart' : ∀ i j k, g i = some k → g j = some k → i = j)
    (back : ∀ i, (f i).bind g = some i) (t : Table κ α) : (t.rekey f).rekey g = t := by
  apply ext_get?
  intro i
  obtain ⟨j, lands, returns⟩ := Option.bind_eq_some_iff.1 (back i)
  rw [get?_rekey apart' returns, get?_rekey apart lands]

end Rekey

end Table

namespace Keys

variable {κ : Type} [Ord κ] [Std.TransOrd κ] [Std.LawfulEqOrd κ]

theorem ofList_eq_table (ks : List κ) : ofList ks = Table.ofList (ks.map (·, ())) := by
  simp only [ofList, addAll, Table.ofList, List.foldl_map]
  rfl

@[simp] theorem ofList_toList (s : Keys κ) : ofList s.toList = s := by
  have entries : s.toList.map (·, ()) = s.entries := by
    rw [toList, Table.keys, List.map_map]
    exact List.map_id _
  rw [ofList_eq_table, entries, Table.ofList_entries]

variable {s : Keys κ} {ks : List κ} {k : κ}

omit [Std.TransOrd κ] in
theorem contains_iff : s.contains k = true ↔ (k, ()) ∈ s.entries := by
  rw [Table.contains, Option.isSome_iff_exists, Table.mem_entries_iff]
  exact ⟨fun ⟨_, found⟩ => found, fun found => ⟨(), found⟩⟩

omit [Std.TransOrd κ] in
theorem contains_filter_iff {keep : κ → Unit → Bool} :
    Table.contains (s.filter keep) k = true ↔ keep k () = true ∧ s.contains k = true := by
  rw [contains_iff, contains_iff, Table.filter, List.mem_filter, and_comm]

variable [DecidableEq κ]

theorem contains_addAll_iff : (s.addAll ks).contains k = true ↔ k ∈ ks ∨ s.contains k = true := by
  induction ks generalizing s with
  | nil => simp [addAll]
  | cons j ks ih =>
    have added : (s.add j).contains k = true ↔ k = j ∨ s.contains k = true := by
      rw [Table.contains, add, Table.get?_insert]
      split <;> simp [*, Table.contains]
    rw [addAll, List.foldl_cons, ← addAll, ih, added, List.mem_cons, or_left_comm, or_assoc]

theorem contains_ofList_iff : (ofList ks).contains k = true ↔ k ∈ ks := by
  rw [ofList, contains_addAll_iff]
  simp [Table.contains]

end Keys

end Spreadsheet
