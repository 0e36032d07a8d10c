import Spreadsheet.Text.Numeral

/-! The shape of numerals: digits only, at least one, and no zero in front of another digit. A run of characters is cut
whole from the front of a text that does not go on with another of its kind. -/
namespace Spreadsheet.Text

theorem numeral_injective : Function.Injective numeral := Function.LeftInverse.injective ofDigitChars_numeral

theorem numeral_ne_nil (n : Nat) : numeral n ≠ [] := Nat.toDigits_ne_nil

theorem isDigit_of_mem_numeral {n : Nat} {c : Char} (member : c ∈ numeral n) : c.isDigit = true :=
  Nat.isDigit_of_mem_toDigits (by decide) (by decide) member

theorem map_numeral {f : Char → Char} (keeps : ∀ c, c.isDigit = true → f c = c) (n : Nat) :
    (numeral n).map f = numeral n :=
  (List.map_congr_left fun c inside => keeps c (isDigit_of_mem_numeral inside)).trans (List.map_id _)

theorem numeral_eq (n : Nat) : numeral n = if n < 10 then [n.digitChar] else numeral (n / 10) ++
    [(n % 10).digitChar] :=
  Nat.toDigits_eq_if (by decide)

theorem head_numeral_append (n : Nat) (rest : List Char) : (numeral n ++ rest).head? = (numeral n).head? := by
  obtain ⟨d, ds, eq⟩ := List.exists_cons_of_ne_nil (numeral_ne_nil n)
  simp [eq]

theorem head_numeral_ne_zero {n : Nat} (positive : 0 < n) : (numeral n).head? ≠ some '0' := by
  induction n using Nat.strongRecOn with
  | ind n ih =>
    rw [numeral_eq]
    split
    next small =>
      have all : ∀ k < 10, 0 < k → [k.digitChar].head? ≠ some '0' := by decide
      exact all n small positive
    next large =>
      rw [head_numeral_append]
      exact ih (n / 10) (by omega) (by omega)

theorem isDigits_iff {cs : List Char} : isDigits cs = true ↔ cs ≠ [] ∧ ∀ c ∈ cs, c.isDigit = true := by
  simp [isDigits]

theorem readNumeral_eq_some_iff {limit n : Nat} {cs : List Char} : readNumeral limit cs = some n ↔
    (cs ≠ [] ∧ ∀ c ∈ cs, c.isDigit = true) ∧ Nat.ofDigitChars 10 cs 0 = n ∧ n < limit := by
  rw [readNumeral, Option.ite_none_right_eq_some, isDigits_iff, and_congr_right_iff]
  intro _
  dsimp only
  rw [Option.ite_none_right_eq_some, Option.some.injEq]
  constructor
  · rintro ⟨low, rfl⟩
    exact ⟨rfl, low⟩
  · rintro ⟨rfl, low⟩
    exact ⟨low, rfl⟩

theorem lt_of_readNumeral {limit n : Nat} {cs : List Char} (read : readNumeral limit cs = some n) : n < limit :=
  (readNumeral_eq_some_iff.1 read).2.2

/-- The text does not start with a character that the test accepts. -/
def Stops (p : Char → Bool) (rest : List Char) : Prop := ∀ c ∈ rest.head?, p c = false

theorem stops_cons {p : Char → Bool} {c : Char} {rest : List Char} (other : p c = false) : Stops p (c :: rest) := by
  intro d first
  cases first
  exact other

theorem Stops.any_head {p : Char → Bool} {rest : List Char} (stops : Stops p rest) : rest.head?.any p = false := by
  cases found : rest.head? with
  | none => rfl
  | some c => exact stops c found

theorem Stops.mono {p q : Char → Bool} {rest : List Char} (stops : Stops p rest)
    (fewer : ∀ c, q c = true → p c = true) :
    Stops q rest := by
  intro c first
  have other := stops c first
  cases inside : q c with
  | false => rfl
  | true => simp [fewer c inside] at other

theorem dropWhile_of_stops {p : Char → Bool} {rest : List Char} (stops : Stops p rest) :
    rest.dropWhile p = rest := by
  cases rest with
  | nil => rfl
  | cons c rest =>
    have other : p c = false := stops c rfl
    simp [other]

theorem takeWhile_of_stops {p : Char → Bool} {rest : List Char} (stops : Stops p rest) :
    rest.takeWhile p = [] := by
  cases rest with
  | nil => rfl
  | cons c rest =>
    have other : p c = false := stops c rfl
    simp [other]

theorem takeWhile_append_stops {p : Char → Bool} (cs : List Char) {rest : List Char} (stops : Stops p rest) :
    (cs ++ rest).takeWhile p = cs.takeWhile p := by
  induction cs with
  | nil => exact takeWhile_of_stops stops
  | cons c cs ih => rw [List.cons_append, List.takeWhile_cons, List.takeWhile_cons, ih]

theorem dropWhile_append_stops {p : Char → Bool} (cs : List Char) {rest : List Char} (stops : Stops p rest) :
    (cs ++ rest).dropWhile p = cs.dropWhile p ++ rest := by
  induction cs with
  | nil => exact dropWhile_of_stops stops
  | cons c cs ih =>
    rw [List.cons_append, List.dropWhile_cons, List.dropWhile_cons, ih]
    split <;> rfl

theorem takeWhile_append {p : Char → Bool} {run rest : List Char} (all : ∀ c ∈ run, p c = true)
    (stops : Stops p rest) :
    (run ++ rest).takeWhile p = run := by
  rw [List.takeWhile_append_of_pos all, takeWhile_of_stops stops, List.append_nil]

theorem dropWhile_append {p : Char → Bool} {run rest : List Char} (all : ∀ c ∈ run, p c = true)
    (stops : Stops p rest) :
    (run ++ rest).dropWhile p = rest := by
  rw [List.dropWhile_append_of_pos all, dropWhile_of_stops stops]

theorem stops_dropWhile (p : Char → Bool) (cs : List Char) : Stops p (cs.dropWhile p) := by
  intro c first
  have other := List.head?_dropWhile_not p cs
  rw [first] at other
  simpa using other

end Spreadsheet.Text
