import Spreadsheet.Json.Reading
import Spreadsheet.Proofs.Json.Escape
import Spreadsheet.Proofs.Text.Numeral

/-! Reading what was written. Trees whose numbers are numerals and whose strings and keys are escaped texts have one
text, and reading that text gives the tree back. -/
namespace Spreadsheet.Json

open Text

/-- Trees as printing makes them. -/
inductive Printed : Json → Prop
  | null : Printed .null
  | bool (b : Bool) : Printed (.bool b)
  | number (n : Nat) : Printed (.number (numeral n))
  | string (cs : List Char) : Printed (.string (escape cs))
  | array {items : List Json} (inside : ∀ v ∈ items, Printed v) : Printed (.array items)
  | object {members : List (List Char × Json)} (keys : ∀ m ∈ members, ∃ cs, m.1 = escape cs)
      (inside : ∀ m ∈ members, Printed m.2) : Printed (.object members)

/-- Nothing that a value could go on with stands in front. -/
def Delimits (rest : List Char) : Prop := ∀ c ∈ rest.head?, c = ',' ∨ c = ']' ∨ c = '\x7d'

/-- Can the character stand in a number? -/
def isNumeric (c : Char) : Bool := c.isDigit || c ∈ ['-', '+', '.', 'e', 'E']

theorem Delimits.stops {rest : List Char} (delimits : Delimits rest) : Stops isNumeric rest := by
  intro c member
  rcases delimits c member with rfl | rfl | rfl <;> rfl

theorem skip_cons {c : Char} (solid : isSpace c = false) (cs : List Char) : skip (c :: cs) = c :: cs := by
  simp [skip, solid]

section Number

theorem readWhole_numeral (n : Nat) {rest : List Char} (stops : Stops Char.isDigit rest) :
    readWhole (numeral n ++ rest) = some (numeral n, rest) := by
  cases n with
  | zero =>
    change readWhole ('0' :: rest) = _
    simp only [readWhole, stops.any_head]
    rfl
  | succ n =>
    have digits_eq : digits (numeral (n + 1) ++ rest) = (numeral (n + 1), rest) :=
      Prod.ext (takeWhile_append (fun _ => isDigit_of_mem_numeral) stops)
        (dropWhile_append (fun _ => isDigit_of_mem_numeral) stops)
    rw [readWhole.eq_def]
    split
    next rest' eq =>
      have head := congrArg List.head? eq
      rw [head_numeral_append] at head
      exact absurd head (head_numeral_ne_zero (Nat.succ_pos n))
    next => simp [digits_eq, numeral_ne_nil]

theorem readMinus_digit {c : Char} (digit : c.isDigit = true) (cs : List Char) :
    readMinus (c :: cs) = ([], c :: cs) := by
  rw [readMinus.eq_def]
  split
  next eq =>
    cases eq
    cases digit
  next => rfl

theorem readFraction_of_stops {cs : List Char} (stops : Stops (· = '.') cs) : readFraction cs = some ([], cs) := by
  unfold readFraction
  split
  next => cases stops '.' rfl
  next => rfl

theorem readExponent_of_stops {cs : List Char} (stops : Stops (fun c => c = 'e' || c = 'E') cs) :
    readExponent cs = some ([], cs) := by
  cases cs with
  | nil => rfl
  | cons e cs => simp only [readExponent, stops e rfl, Bool.false_eq_true, if_false]

theorem readNumber_numeral (n : Nat) {rest : List Char} (stops : Stops isNumeric rest) :
    readNumber (numeral n ++ rest) = some (.number (numeral n), rest) := by
  obtain ⟨d, ds, eq⟩ := List.exists_cons_of_ne_nil (numeral_ne_nil n)
  have digit : d.isDigit = true := isDigit_of_mem_numeral (n := n) (by simp [eq])
  have minus : readMinus (numeral n ++ rest) = ([], numeral n ++ rest) := by
    rw [eq]
    exact readMinus_digit digit _
  have whole := readWhole_numeral n (stops.mono fun c digit => by simp [isNumeric, digit])
  have fraction : readFraction rest = some ([], rest) :=
    readFraction_of_stops (stops.mono fun c point => by simp_all [isNumeric])
  have exponent : readExponent rest = some ([], rest) :=
    readExponent_of_stops (stops.mono fun c letter => by simp_all [isNumeric])
  simp [readNumber, minus, whole, fraction, exponent]

end Number

theorem Printed.head {j : Json} (printed : Printed j) :
    ∃ c cs, write j = c :: cs ∧ isSpace c = false ∧ c ≠ ']' ∧ c ≠ '\x7d' := by
  cases printed with
  | null => exact ⟨'n', _, rfl, by decide⟩
  | bool b =>
    cases b with
    | false => exact ⟨'f', _, rfl, by decide⟩
    | true => exact ⟨'t', _, rfl, by decide⟩
  | number n =>
    obtain ⟨d, ds, eq⟩ := List.exists_cons_of_ne_nil (numeral_ne_nil n)
    have digit : d.isDigit = true := isDigit_of_mem_numeral (n := n) (by simp [eq])
    refine ⟨d, ds, eq, ?_⟩
    simp only [isSpace, Bool.or_eq_false_iff, decide_eq_false_iff_not]
    refine ⟨⟨⟨⟨?_, ?_⟩, ?_⟩, ?_⟩, ?_, ?_⟩
    all_goals
      intro same
      subst same
      cases digit
  | string cs => exact ⟨'"', _, rfl, by decide⟩
  | @array items inside =>
    refine ⟨'[', (write (.array items)).tail, ?_, by decide⟩
    cases items <;> rfl
  | @object members keys inside =>
    refine ⟨'\x7b', (write (.object members)).tail, ?_, by decide⟩
    cases members <;> rfl

/-- The value is read from the front of any text whose rest delimits it, with enough fuel for its length. -/
def ReadsBack (j : Json) : Prop :=
  ∀ fuel rest, Delimits rest → 2 * (write j).length ≤ fuel → readValue fuel (write j ++ rest) = some (j, rest)

theorem delimits_writeItems (items : List Json) (rest : List Char) : Delimits (writeItems items ++ rest) := by
  cases items with
  | nil =>
    intro c first
    cases first
    exact .inr (.inl rfl)
  | cons v vs =>
    intro c first
    cases first
    exact .inl rfl

theorem delimits_writeMembers (members : List (List Char × Json)) (rest : List Char) :
    Delimits (writeMembers members ++ rest) := by
  cases members with
  | nil =>
    intro c first
    cases first
    exact .inr (.inr rfl)
  | cons m ms =>
    intro c first
    cases first
    exact .inl rfl

theorem readItems_write (items : List Json) (inside : ∀ v ∈ items, ReadsBack v) {v : Json} (first : ReadsBack v) :
    ∀ fuel rest, 2 * ((write v).length + (writeItems items).length) ≤ fuel →
      readItems fuel (write v ++ writeItems items ++ rest) = some (v :: items, rest) := by
  induction items generalizing v with
  | nil =>
    intro fuel rest enough
    obtain _ | fuel := fuel
    · simp [writeItems] at enough
    · simp only [writeItems, List.length_cons, List.length_nil] at enough
      have value := first fuel (']' :: rest) (delimits_writeItems [] rest) (by omega)
      rw [readItems, List.append_assoc]
      simp only [writeItems, List.cons_append, List.nil_append, value,
        skip_cons (c := ']') (by decide), Option.bind_eq_bind, Option.bind_some]
      rfl
  | cons w ws ih =>
    intro fuel rest enough
    obtain _ | fuel := fuel
    · simp [writeItems] at enough
    · simp only [writeItems, List.length_cons, List.length_append] at enough
      have value := first fuel (writeItems (w :: ws) ++ rest) (delimits_writeItems _ rest) (by omega)
      have others := ih (fun u member => inside u (by simp [member])) (inside w (by simp)) fuel rest (by omega)
      rw [readItems, List.append_assoc, value]
      simp only [writeItems, List.cons_append, skip_cons (c := ',') (by decide), Option.bind_eq_bind,
        Option.bind_some, others]
      rfl

theorem readKey_quote (cs rest : List Char) : readKey (quote (escape cs) ++ ':' :: rest) = some
    (escape cs, rest) := by
  have body : quote (escape cs) ++ ':' :: rest = '"' :: (escape cs ++ '"' :: ':' :: rest) := by simp [quote]
  rw [body, readKey, skip_cons (by decide)]
  simp only [scanBody_escape, Option.bind_eq_bind, Option.bind_some, skip_cons (c := ':') (by decide)]
  rfl

theorem readMembers_write (members : List (List Char × Json)) (keys : ∀ m ∈ members, ∃ cs, m.1 = escape cs)
    (inside : ∀ m ∈ members, ReadsBack m.2) {k : List Char} {v : Json} (key : ∃ cs, k = escape cs)
    (first : ReadsBack v) :
    ∀ fuel rest, 2 * ((write v).length + (writeMembers members).length) ≤ fuel →
      readMembers fuel (quote k ++ ':' :: (write v ++ writeMembers members) ++ rest) =
        some ((k, v) :: members, rest) := by
  induction members generalizing k v with
  | nil =>
    intro fuel rest enough
    obtain ⟨cs, rfl⟩ := key
    obtain _ | fuel := fuel
    · simp [writeMembers] at enough
    · simp only [writeMembers, List.length_cons, List.length_nil] at enough
      have value := first fuel ('\x7d' :: rest) (delimits_writeMembers [] rest) (by omega)
      rw [readMembers, List.append_assoc, List.cons_append, readKey_quote]
      simp only [writeMembers, List.append_assoc, List.cons_append, List.nil_append, value,
        skip_cons (c := '\x7d') (by decide), Option.bind_eq_bind, Option.bind_some]
      rfl
  | cons m ms ih =>
    intro fuel rest enough
    obtain ⟨cs, rfl⟩ := key
    obtain ⟨k', w⟩ := m
    obtain _ | fuel := fuel
    · simp [writeMembers] at enough
    · simp only [writeMembers, List.length_cons, List.length_append] at enough
      have value := first fuel (writeMembers ((k', w) :: ms) ++ rest) (delimits_writeMembers _ rest) (by omega)
      have second : ReadsBack w := inside (k', w) (by simp)
      have others := ih (fun u member => keys u (by simp [member])) (fun u member => inside u (by simp [member]))
        (keys (k', w) (by simp)) second fuel rest (by omega)
      rw [readMembers, List.append_assoc, List.cons_append, readKey_quote]
      simp only [Option.bind_eq_bind, Option.bind_some, List.append_assoc, value]
      simp only [List.append_assoc, List.cons_append] at others
      simp only [writeMembers, List.cons_append, List.append_assoc, skip_cons (c := ',') (by decide), others]
      rfl

theorem readValue_number {c : Char} (digit : c.isDigit = true) (fuel : Nat) (cs : List Char) :
    readValue (fuel + 1) (c :: cs) = readNumber (c :: cs) := by
  have solid : isSpace c = false := by
    simp only [isSpace, Bool.or_eq_false_iff, decide_eq_false_iff_not]
    refine ⟨⟨⟨?_, ?_⟩, ?_⟩, ?_⟩
    all_goals
      intro same
      subst same
      cases digit
  rw [readValue, skip_cons solid]
  split
  next eq =>
    cases eq
    cases digit
  next eq =>
    cases eq
    cases digit
  next eq =>
    cases eq
    cases digit
  next eq =>
    cases eq
    cases digit
  next eq =>
    cases eq
    cases digit
  next eq =>
    cases eq
    cases digit
  next => rfl

theorem readsBack_number (n : Nat) : ReadsBack (.number (numeral n)) := by
  intro fuel rest delimits enough
  obtain ⟨d, ds, eq⟩ := List.exists_cons_of_ne_nil (numeral_ne_nil n)
  have digit : d.isDigit = true := isDigit_of_mem_numeral (n := n) (by simp [eq])
  obtain _ | fuel := fuel
  · simp [write, eq] at enough
  · have read := readNumber_numeral n delimits.stops
    rw [eq, List.cons_append] at read
    rw [write, eq, List.cons_append, readValue_number digit, read]

theorem readsBack_string (cs : List Char) : ReadsBack (.string (escape cs)) := by
  intro fuel rest _ enough
  obtain _ | fuel := fuel
  · simp [write, quote] at enough
  · have body : write (.string (escape cs)) ++ rest = '"' :: (escape cs ++ '"' :: rest) := by simp [write, quote]
    rw [body, readValue, skip_cons (by decide)]
    simp only [scanBody_escape]
    rfl

theorem readsBack_array {items : List Json} (printed : ∀ v ∈ items, Printed v) (each : ∀ v ∈ items, ReadsBack v) :
    ReadsBack (.array items) := by
  intro fuel rest _ enough
  obtain _ | fuel := fuel
  · cases items <;> simp [write] at enough
  · cases items with
    | nil => rfl
    | cons v vs =>
      simp only [write, List.length_cons, List.length_append] at enough
      have items :=
        readItems_write vs (fun w member => each w (by simp [member])) (each v (by simp)) fuel rest (by omega)
      obtain ⟨c, cs, eq, solid, open_, _⟩ := (printed v (by simp)).head
      have start : skip (write v ++ writeItems vs ++ rest) = write v ++ writeItems vs ++ rest := by
        rw [eq]
        exact skip_cons solid _
      rw [write, List.cons_append, readValue, skip_cons (by decide)]
      simp only [start]
      rw [eq] at items ⊢
      simp only [List.cons_append] at items ⊢
      split
      next same =>
        cases same
        exact absurd rfl open_
      next =>
        rw [items]
        rfl

theorem readsBack_object {members : List (List Char × Json)} (keys : ∀ m ∈ members, ∃ cs, m.1 = escape cs)
    (each : ∀ m ∈ members, ReadsBack m.2) : ReadsBack (.object members) := by
  intro fuel rest _ enough
  obtain _ | fuel := fuel
  · cases members <;> simp [write] at enough
  · cases members with
    | nil => rfl
    | cons m ms =>
      obtain ⟨k, v⟩ := m
      simp only [write, List.length_cons, List.length_append] at enough
      have first : ReadsBack v := each (k, v) (by simp)
      have members := readMembers_write ms (fun w member => keys w (by simp [member]))
        (fun w member => each w (by simp [member])) (keys (k, v) (by simp)) first fuel rest (by omega)
      rw [write, List.cons_append, readValue, skip_cons (by decide)]
      simp only [quote, List.cons_append, List.append_assoc] at members ⊢
      simp only [skip_cons (c := '"') (by decide)]
      change (readMembers fuel _).map _ = _
      rw [members]
      rfl

theorem Printed.readsBack {j : Json} (printed : Printed j) : ReadsBack j := by
  induction printed with
  | null =>
    intro fuel rest _ enough
    obtain _ | fuel := fuel
    · simp [write] at enough
    · rfl
  | bool b =>
    intro fuel rest _ enough
    obtain _ | fuel := fuel
    · cases b <;> simp [write, writeBool] at enough
    · cases b <;> rfl
  | number n => exact readsBack_number n
  | string cs => exact readsBack_string cs
  | array inside ih => exact readsBack_array inside ih
  | object keys _ ih => exact readsBack_object keys ih

theorem read_write {j : Json} (printed : Printed j) : read (write j) = some j := by
  have value := printed.readsBack (2 * (write j).length + 2) [] nofun (by omega)
  rw [List.append_nil] at value
  simp only [read, value]
  rfl

end Spreadsheet.Json
