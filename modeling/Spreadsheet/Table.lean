/-! Finite maps with ordered keys, kept as one strictly increasing list of entries. A table has only one
representation, so two tables with the same look-ups are equal, and comparing tables compares what they hold. -/
namespace Spreadsheet

structure Table (κ : Type) (α : Type) [Ord κ] where
  entries : List (κ × α)
  increasing : entries.Pairwise fun a b => compare a.1 b.1 = .lt

namespace Table

variable {κ α β : Type} [Ord κ]

def lookupIn (k : κ) : List (κ × α) → Option α
  | [] => none
  | (k', v) :: rest => if compare k k' = .eq then some v else lookupIn k rest

def insertIn (k : κ) (v : α) : List (κ × α) → List (κ × α)
  | [] => [(k, v)]
  | (k', v') :: rest => match compare k k' with
    | .lt => (k, v) :: (k', v') :: rest
    | .eq => (k, v) :: rest
    | .gt => (k', v') :: insertIn k v rest

def eraseIn (k : κ) (l : List (κ × α)) : List (κ × α) := l.filter fun e => compare k e.1 != .eq

theorem ext_entries {s t : Table κ α} (same : s.entries = t.entries) : s = t := by
  cases s; cases t; cases same; rfl

instance [DecidableEq κ] [DecidableEq α] : DecidableEq (Table κ α) := fun s t =>
  if same : s.entries = t.entries then isTrue (ext_entries same) else isFalse fun h => same (h ▸ rfl)

def empty : Table κ α := ⟨[], .nil⟩

instance : EmptyCollection (Table κ α) := ⟨empty⟩
instance : Inhabited (Table κ α) := ⟨empty⟩

@[simp] theorem entries_empty : (empty : Table κ α).entries = [] := rfl

def get? (t : Table κ α) (k : κ) : Option α := lookupIn k t.entries

@[simp] theorem get?_empty (k : κ) : (empty : Table κ α).get? k = none := rfl

def contains (t : Table κ α) (k : κ) : Bool := (t.get? k).isSome

def keys (t : Table κ α) : List κ := t.entries.map (·.1)

def size (t : Table κ α) : Nat := t.entries.length

def isEmpty (t : Table κ α) : Bool := t.entries.isEmpty

def filter (t : Table κ α) (keep : κ → α → Bool) : Table κ α :=
  ⟨t.entries.filter fun e => keep e.1 e.2, t.increasing.sublist List.filter_sublist⟩

def erase (t : Table κ α) (k : κ) : Table κ α := ⟨eraseIn k t.entries, t.increasing.sublist List.filter_sublist⟩

section Laws

variable [Std.TransOrd κ] [Std.LawfulEqOrd κ]

omit [Std.TransOrd κ] [Std.LawfulEqOrd κ] in
theorem mem_insertIn {k : κ} {v : α} {l : List (κ × α)} {e : κ × α} (member : e ∈ insertIn k v l) : e = (k, v) ∨ e ∈ l := by
  induction l with
  | nil => simpa [insertIn] using member
  | cons head rest ih =>
    obtain ⟨k', v'⟩ := head
    rw [insertIn] at member
    split at member <;> simp only [List.mem_cons] at member ⊢ <;> grind

theorem insertIn_increasing (k : κ) (v : α) {l : List (κ × α)} (h : l.Pairwise fun a b => compare a.1 b.1 = .lt) :
    (insertIn k v l).Pairwise fun a b => compare a.1 b.1 = .lt := by
  induction l with
  | nil => simp [insertIn]
  | cons head rest ih =>
    obtain ⟨k', v'⟩ := head
    obtain ⟨below, tail⟩ := List.pairwise_cons.1 h
    rw [insertIn]
    split
    next lt => exact List.pairwise_cons.2 ⟨fun e member => (List.mem_cons.1 member).elim (fun same => same ▸ lt)
      fun inside => Std.TransCmp.lt_trans lt (below e inside), h⟩
    next eq =>
      cases Std.LawfulEqCmp.compare_eq_iff_eq.1 eq
      exact List.pairwise_cons.2 ⟨below, tail⟩
    next gt => exact List.pairwise_cons.2 ⟨fun e member => (mem_insertIn member).elim
      (fun same => same ▸ Std.OrientedCmp.gt_iff_lt.1 gt) fun inside => below e inside, ih tail⟩

end Laws

variable [Std.TransOrd κ] [Std.LawfulEqOrd κ]

def insert (t : Table κ α) (k : κ) (v : α) : Table κ α := ⟨insertIn k v t.entries, insertIn_increasing k v t.increasing⟩

/-- Later entries replace earlier ones with the same key. -/
def ofList (l : List (κ × α)) : Table κ α := l.foldl (fun t e => t.insert e.1 e.2) empty

def rekey (f : κ → Option κ) (t : Table κ α) : Table κ α :=
  ofList (t.entries.filterMap fun e => (f e.1).map (·, e.2))

variable [DecidableEq κ]

omit [Std.TransOrd κ] in
@[simp] theorem lookupIn_insertIn (k j : κ) (v : α) (l : List (κ × α)) :
    lookupIn j (insertIn k v l) = if j = k then some v else lookupIn j l := by
  induction l with
  | nil => simp [insertIn, lookupIn]
  | cons head rest ih =>
    obtain ⟨k', v'⟩ := head
    rw [insertIn]
    split
    next => by_cases h : j = k <;> simp [lookupIn, h]
    next eq =>
      cases Std.LawfulEqCmp.compare_eq_iff_eq.1 eq
      by_cases h : j = k <;> simp [lookupIn, h]
    next gt =>
      have ne : k ≠ k' := by rintro rfl; simp [Std.ReflCmp.compare_self] at gt
      by_cases same : j = k' <;> simp [lookupIn, same, ih, ne.symm]

@[simp] theorem get?_insert (t : Table κ α) (k j : κ) (v : α) : (t.insert k v).get? j = if j = k then some v else t.get? j :=
  lookupIn_insertIn k j v t.entries

omit [Std.TransOrd κ] in
@[simp] theorem lookupIn_eraseIn (k j : κ) (l : List (κ × α)) : lookupIn j (eraseIn k l) = if j = k then none else lookupIn j l := by
  induction l with
  | nil => simp [eraseIn, lookupIn]
  | cons head rest ih =>
    obtain ⟨k', v'⟩ := head
    by_cases same : k = k'
    · subst same
      have dropped : eraseIn k ((k, v') :: rest) = eraseIn k rest := by simp [eraseIn]
      rw [dropped, ih]
      by_cases h : j = k <;> simp [lookupIn, h]
    · have kept : eraseIn k ((k', v') :: rest) = (k', v') :: eraseIn k rest := by simp [eraseIn, same]
      rw [kept, lookupIn, ih, lookupIn]
      by_cases h : j = k' <;> simp [h, Ne.symm same]

omit [Std.TransOrd κ] in
@[simp] theorem get?_erase (t : Table κ α) (k j : κ) : (t.erase k).get? j = if j = k then none else t.get? j :=
  lookupIn_eraseIn k j t.entries

end Table

abbrev Keys (κ : Type) [Ord κ] := Table κ Unit

namespace Keys

variable {κ : Type} [Ord κ] [Std.TransOrd κ] [Std.LawfulEqOrd κ]

def add (s : Keys κ) (k : κ) : Keys κ := s.insert k ()

def addAll (s : Keys κ) (ks : List κ) : Keys κ := ks.foldl add s

def removeAll (s : Keys κ) (ks : List κ) : Keys κ := ks.foldl Table.erase s

def ofList (ks : List κ) : Keys κ := addAll Table.empty ks

def toList (s : Keys κ) : List κ := s.keys

end Keys

end Spreadsheet
