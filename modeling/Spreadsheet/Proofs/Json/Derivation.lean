import Spreadsheet.Proofs.Json.Token

/-! Reading as a grammar, without fuel. What is read is derived from the text in front of the rest, and every derivation is
read with fuel enough for the text. -/
namespace Spreadsheet.Json

/-- What stands in a text: a value, or what is in an array or in an object, up to its closing bracket. -/
inductive Part
  | value (v : Json)
  | items (vs : List Json)
  | members (ms : List (List Char × Json))

/-- The part stands in front of the rest. -/
inductive Reads : Part → List Char → List Char → Prop
  | null {cs rest : List Char} (front : skip cs = 'n' :: 'u' :: 'l' :: 'l' :: rest) : Reads (.value .null) cs rest
  | bool (b : Bool) {cs rest : List Char} (front : skip cs = writeBool b ++ rest) : Reads (.value (.bool b)) cs rest
  | string {cs inner body rest : List Char} (front : skip cs = '"' :: inner) (scanned : scanBody inner = some (body, rest)) :
      Reads (.value (.string body)) cs rest
  | number {cs rest : List Char} {v : Json} (read : readNumber (skip cs) = some (v, rest)) : Reads (.value v) cs rest
  | emptyArray {cs inner rest : List Char} (front : skip cs = '[' :: inner) (back : skip inner = ']' :: rest) :
      Reads (.value (.array [])) cs rest
  | array {cs inner rest : List Char} {vs : List Json} (front : skip cs = '[' :: inner)
      (filled : ∀ rest, skip inner ≠ ']' :: rest) (items : Reads (.items vs) (skip inner) rest) :
      Reads (.value (.array vs)) cs rest
  | emptyObject {cs inner rest : List Char} (front : skip cs = '\x7b' :: inner) (back : skip inner = '\x7d' :: rest) :
      Reads (.value (.object [])) cs rest
  | object {cs inner rest : List Char} {ms : List (List Char × Json)} (front : skip cs = '\x7b' :: inner)
      (filled : ∀ rest, skip inner ≠ '\x7d' :: rest) (members : Reads (.members ms) (skip inner) rest) :
      Reads (.value (.object ms)) cs rest
  | lastItem {cs after rest : List Char} {v : Json} (value : Reads (.value v) cs after) (back : skip after = ']' :: rest) :
      Reads (.items [v]) cs rest
  | nextItem {cs after more rest : List Char} {v : Json} {vs : List Json} (value : Reads (.value v) cs after)
      (comma : skip after = ',' :: more) (items : Reads (.items vs) more rest) : Reads (.items (v :: vs)) cs rest
  | lastMember {cs k afterKey after rest : List Char} {v : Json} (key : readKey cs = some (k, afterKey))
      (value : Reads (.value v) afterKey after) (back : skip after = '\x7d' :: rest) : Reads (.members [(k, v)]) cs rest
  | nextMember {cs k afterKey after more rest : List Char} {v : Json} {ms : List (List Char × Json)}
      (key : readKey cs = some (k, afterKey)) (value : Reads (.value v) afterKey after) (comma : skip after = ',' :: more)
      (members : Reads (.members ms) more rest) : Reads (.members ((k, v) :: ms)) cs rest

/-- Spaces in front of a part make no difference. -/
theorem Reads.of_skip_eq {p : Part} {cs ds rest : List Char} (reads : Reads p cs rest) (same : skip ds = skip cs) :
    Reads p ds rest := by
  induction reads with
  | null front => exact .null (same.trans front)
  | bool b front => exact .bool b (same.trans front)
  | string front scanned => exact .string (same.trans front) scanned
  | number read => exact .number (same ▸ read)
  | emptyArray front back => exact .emptyArray (same.trans front) back
  | array front filled items => exact .array (same.trans front) filled items
  | emptyObject front back => exact .emptyObject (same.trans front) back
  | object front filled members => exact .object (same.trans front) filled members
  | lastItem _ back ih => exact .lastItem (ih same) back
  | nextItem _ comma items ih => exact .nextItem (ih same) comma items
  | lastMember key value back =>
    rw [readKey, ← same] at key
    exact .lastMember key value back
  | nextMember key value comma members =>
    rw [readKey, ← same] at key
    exact .nextMember key value comma members

namespace Part

/-- The reader comes to that part with that fuel. -/
def IsRead (fuel : Nat) (cs rest : List Char) : Part → Prop
  | value v => readValue fuel cs = some (v, rest)
  | items vs => readItems fuel cs = some (vs, rest)
  | members ms => readMembers fuel cs = some (ms, rest)

/-- Fuel for what is in brackets goes to its first value before anything is taken from the text. -/
def fuel (n : Nat) : Part → Nat
  | value _ => 2 * n + 1
  | items _ => 2 * n + 2
  | members _ => 2 * n + 2

end Part

section Sound

variable {fuel : Nat} {cs rest : List Char}

theorem reads_value (ih : ∀ {p : Part} {cs rest}, p.IsRead fuel cs rest → Reads p cs rest) {v : Json}
    (read : readValue (fuel + 1) cs = some (v, rest)) : Reads (.value v) cs rest := by
  rw [readValue] at read
  split at read
  next front =>
    cases read
    exact .null front
  next front =>
    cases read
    exact .bool true front
  next front =>
    cases read
    exact .bool false front
  next front =>
    obtain ⟨⟨body, _⟩, scanned, same⟩ := Option.map_eq_some_iff.1 read
    cases same
    exact .string front scanned
  next front =>
    split at read
    next back =>
      cases read
      exact .emptyArray front back
    next filled =>
      obtain ⟨⟨vs, _⟩, items, same⟩ := Option.map_eq_some_iff.1 read
      cases same
      exact .array front filled (ih (p := .items vs) items)
  next front =>
    split at read
    next back =>
      cases read
      exact .emptyObject front back
    next filled =>
      obtain ⟨⟨ms, _⟩, members, same⟩ := Option.map_eq_some_iff.1 read
      cases same
      exact .object front filled (ih (p := .members ms) members)
  next => exact .number read

theorem reads_items (ih : ∀ {p : Part} {cs rest}, p.IsRead fuel cs rest → Reads p cs rest) {vs : List Json}
    (read : readItems (fuel + 1) cs = some (vs, rest)) : Reads (.items vs) cs rest := by
  rw [readItems] at read
  obtain ⟨⟨v, after⟩, value, read⟩ := Option.bind_eq_some_iff.1 read
  have value : Reads (.value v) cs after := ih (p := .value v) value
  dsimp only at read
  split at read
  next back =>
    cases read
    exact .lastItem value back
  next comma =>
    obtain ⟨⟨vs, _⟩, items, same⟩ := Option.map_eq_some_iff.1 read
    cases same
    exact .nextItem value comma (ih (p := .items vs) items)
  next => cases read

theorem reads_members (ih : ∀ {p : Part} {cs rest}, p.IsRead fuel cs rest → Reads p cs rest)
    {ms : List (List Char × Json)} (read : readMembers (fuel + 1) cs = some (ms, rest)) : Reads (.members ms) cs rest := by
  rw [readMembers] at read
  obtain ⟨⟨k, afterKey⟩, key, read⟩ := Option.bind_eq_some_iff.1 read
  obtain ⟨⟨v, after⟩, value, read⟩ := Option.bind_eq_some_iff.1 read
  have value : Reads (.value v) afterKey after := ih (p := .value v) value
  dsimp only at read
  split at read
  next back =>
    cases read
    exact .lastMember key value back
  next comma =>
    obtain ⟨⟨ms, _⟩, members, same⟩ := Option.map_eq_some_iff.1 read
    cases same
    exact .nextMember key value comma (ih (p := .members ms) members)
  next => cases read

theorem reads_of_isRead {p : Part} (read : p.IsRead fuel cs rest) : Reads p cs rest := by
  induction fuel generalizing p cs rest with
  | zero => cases p <;> simp [Part.IsRead, readValue, readItems, readMembers] at read
  | succ fuel ih =>
    cases p with
    | value v => exact reads_value ih read
    | items vs => exact reads_items ih read
    | members ms => exact reads_members ih read

end Sound

/-- Spaces and tokens lead from the first text to the second, with one token at least. No token has a line feed, or begins
like a comment, or with a blank that is no space. -/
inductive Laid : List Char → List Char → Prop
  | token (c : Char) (tok rest : List Char) (solid : Text.isBlank c = false) (other : c ≠ '/') (single : '\n' ∉ c :: tok) :
      Laid (c :: tok ++ rest) rest
  | space {c : Char} {cs rest : List Char} (space : isSpace c = true) (laid : Laid cs rest) : Laid (c :: cs) rest
  | trans {cs more rest : List Char} (first : Laid cs more) (second : Laid more rest) : Laid cs rest

namespace Laid

variable {cs more rest : List Char}

theorem length_lt (laid : Laid cs rest) : rest.length < cs.length := by
  induction laid with
  | token c tok rest => simp only [List.cons_append, List.length_cons, List.length_append]; omega
  | space _ _ ih => exact Nat.lt_succ_of_lt ih
  | trans _ _ first second => exact Nat.lt_trans second first

theorem of_skip (laid : Laid (skip cs) rest) : Laid cs rest := by
  induction cs with
  | nil => exact laid
  | cons c cs ih =>
    cases space : isSpace c with
    | true =>
      rw [skip, List.dropWhile_cons_of_pos space] at laid
      exact .space space (ih laid)
    | false => rwa [skip_cons space] at laid

theorem of_word (c : Char) (word : List Char) (solid : Text.isBlank c = false ∧ c ≠ '/' ∧ '\n' ∉ c :: word)
    (front : skip cs = c :: word ++ rest) : Laid cs rest := by
  apply of_skip
  rw [front]
  exact .token c word rest solid.1 solid.2.1 solid.2.2

theorem of_front {c : Char} (solid : Text.isBlank c = false ∧ c ≠ '/' ∧ '\n' ∉ [c]) (front : skip cs = c :: rest) :
    Laid cs rest := of_word c [] solid front

theorem of_body {inner body : List Char} (front : skip cs = '"' :: inner) (scanned : scanBody inner = some (body, rest)) :
    Laid cs rest := by
  have bodily := bodily_scanBody scanned
  have split : skip cs = '"' :: (body ++ ['"']) ++ rest := by simp [front, bodily.split]
  apply of_skip
  rw [split]
  refine .token '"' (body ++ ['"']) rest rfl (by decide) ?_
  intro inside
  have among : '\n' ∈ body := by simpa using inside
  exact absurd (bodily.printable _ among) (by decide)

theorem of_number {v : Json} (read : readNumber (skip cs) = some (v, rest)) : Laid cs rest := by
  obtain ⟨tok, ⟨split, numeric⟩, filled⟩ := numeric_readNumber read
  obtain ⟨c, tok, rfl⟩ := List.exists_cons_of_ne_nil filled
  have solid := solid_of_isNumeric (numeric c List.mem_cons_self)
  apply of_skip
  rw [split]
  exact .token c tok rest solid.1 solid.2.1 fun inside => (solid_of_isNumeric (numeric _ inside)).2.2 rfl

theorem of_key {k : List Char} (key : readKey cs = some (k, rest)) : Laid cs rest := by
  obtain ⟨_, _, front, scanned, colon⟩ := readKey_eq_some_iff.1 key
  exact (of_body front scanned).trans (of_front (by decide) colon)

end Laid

theorem Reads.laid {p : Part} {cs rest : List Char} (reads : Reads p cs rest) : Laid cs rest := by
  induction reads with
  | null front => exact .of_word 'n' ['u', 'l', 'l'] (by decide) front
  | bool b front =>
    cases b with
    | true => exact .of_word 't' ['r', 'u', 'e'] (by decide) front
    | false => exact .of_word 'f' ['a', 'l', 's', 'e'] (by decide) front
  | string front scanned => exact .of_body front scanned
  | number read => exact .of_number read
  | emptyArray front back => exact .trans (.of_front (by decide) front) (.of_front (by decide) back)
  | array front _ _ items => exact .trans (.of_front (by decide) front) items.of_skip
  | emptyObject front back => exact .trans (.of_front (by decide) front) (.of_front (by decide) back)
  | object front _ _ members => exact .trans (.of_front (by decide) front) members.of_skip
  | lastItem _ back value => exact value.trans (.of_front (by decide) back)
  | nextItem _ comma _ value items => exact value.trans (.trans (.of_front (by decide) comma) items)
  | lastMember key _ back value => exact .trans (.of_key key) (value.trans (.of_front (by decide) back))
  | nextMember key _ comma _ value members =>
    exact .trans (.of_key key) (value.trans (.trans (.of_front (by decide) comma) members))

section Complete

variable {fuel : Nat} {cs inner rest : List Char}

theorem readValue_of_number {v : Json} (read : readNumber (skip cs) = some (v, rest)) :
    readValue (fuel + 1) cs = some (v, rest) := by
  obtain ⟨tok, ⟨split, numeric⟩, filled⟩ := numeric_readNumber read
  obtain ⟨c, tok, rfl⟩ := List.exists_cons_of_ne_nil filled
  have numeric := numeric c List.mem_cons_self
  rw [readValue]
  split
  case h_7 => exact read
  -- every other value begins with a character that no number has
  all_goals
    have same := (List.cons.inj (split.symm.trans ‹skip cs = _›)).1
    subst same
    exact absurd numeric (by decide)

theorem readValue_of_string {body : List Char} (front : skip cs = '"' :: inner)
    (scanned : scanBody inner = some (body, rest)) : readValue (fuel + 1) cs = some (.string body, rest) := by
  rw [readValue]
  simp only [front, scanned]
  rfl

theorem readValue_of_items {vs : List Json} (front : skip cs = '[' :: inner) (filled : ∀ rest, skip inner ≠ ']' :: rest)
    (items : readItems fuel (skip inner) = some (vs, rest)) : readValue (fuel + 1) cs = some (.array vs, rest) := by
  rw [readValue]
  simp only [front, items]
  rfl

theorem readValue_of_members {ms : List (List Char × Json)} (front : skip cs = '\x7b' :: inner)
    (filled : ∀ rest, skip inner ≠ '\x7d' :: rest) (members : readMembers fuel (skip inner) = some (ms, rest)) :
    readValue (fuel + 1) cs = some (.object ms, rest) := by
  rw [readValue]
  simp only [front, members]
  rfl

theorem length_skip_le (cs : List Char) : (skip cs).length ≤ cs.length := (List.dropWhile_sublist _).length_le

theorem length_lt_of_skip {c : Char} (front : skip cs = c :: rest) : rest.length < cs.length := by
  have shorter := length_skip_le cs
  rwa [front] at shorter

theorem isRead_of_reads {p : Part} (reads : Reads p cs rest) (enough : p.fuel cs.length ≤ fuel) : p.IsRead fuel cs rest := by
  induction reads generalizing fuel with
  | null front =>
    obtain ⟨fuel, rfl⟩ := Nat.exists_eq_add_of_lt enough
    simp only [Part.IsRead, readValue, front]
  | bool b front =>
    obtain ⟨fuel, rfl⟩ := Nat.exists_eq_add_of_lt enough
    cases b <;> simp only [Part.IsRead, readValue, front, writeBool] <;> rfl
  | string front scanned =>
    obtain ⟨fuel, rfl⟩ := Nat.exists_eq_add_of_lt enough
    exact readValue_of_string front scanned
  | number read =>
    obtain ⟨fuel, rfl⟩ := Nat.exists_eq_add_of_lt enough
    exact readValue_of_number read
  | emptyArray front back | emptyObject front back =>
    obtain ⟨fuel, rfl⟩ := Nat.exists_eq_add_of_lt enough
    simp only [Part.IsRead, readValue, front, back]
  | @array _ inner _ _ front filled _ ih =>
    obtain ⟨fuel, rfl⟩ := Nat.exists_eq_add_of_lt enough
    have shorter := length_lt_of_skip front
    have skipped := length_skip_le inner
    exact readValue_of_items front filled (ih (by rw [Part.fuel]; omega))
  | @object _ inner _ _ front filled _ ih =>
    obtain ⟨fuel, rfl⟩ := Nat.exists_eq_add_of_lt enough
    have shorter := length_lt_of_skip front
    have skipped := length_skip_le inner
    exact readValue_of_members front filled (ih (by rw [Part.fuel]; omega))
  | @lastItem cs _ _ _ _ back ih =>
    obtain ⟨fuel, rfl⟩ := Nat.exists_eq_add_of_lt enough
    have value := ih (show _ ≤ 2 * cs.length + 1 + fuel by rw [Part.fuel]; omega)
    simp only [Part.IsRead] at value
    simp only [Part.IsRead, readItems, value, back, Option.bind_eq_bind, Option.bind_some, Option.pure_def]
  | @nextItem cs _ _ _ _ _ first comma _ ih ih' =>
    obtain ⟨fuel, rfl⟩ := Nat.exists_eq_add_of_lt enough
    have shorter := first.laid.length_lt
    have shorter' := length_lt_of_skip comma
    have value := ih (show _ ≤ 2 * cs.length + 1 + fuel by rw [Part.fuel]; omega)
    have items := ih' (show _ ≤ 2 * cs.length + 1 + fuel by rw [Part.fuel]; omega)
    simp only [Part.IsRead] at value items
    simp only [Part.IsRead, readItems, value, comma, items, Option.bind_eq_bind, Option.bind_some]
    rfl
  | @lastMember cs _ _ _ _ _ key first back ih =>
    obtain ⟨fuel, rfl⟩ := Nat.exists_eq_add_of_lt enough
    have shorter := (Laid.of_key key).length_lt
    have value := ih (show _ ≤ 2 * cs.length + 1 + fuel by rw [Part.fuel]; omega)
    simp only [Part.IsRead] at value
    simp only [Part.IsRead, readMembers, key, value, back, Option.bind_eq_bind, Option.bind_some, Option.pure_def]
  | @nextMember cs _ _ _ _ _ _ _ key first comma _ ih ih' =>
    obtain ⟨fuel, rfl⟩ := Nat.exists_eq_add_of_lt enough
    have shorter := (Laid.of_key key).length_lt
    have shorter' := first.laid.length_lt
    have shorter'' := length_lt_of_skip comma
    have value := ih (show _ ≤ 2 * cs.length + 1 + fuel by rw [Part.fuel]; omega)
    have members := ih' (show _ ≤ 2 * cs.length + 1 + fuel by rw [Part.fuel]; omega)
    simp only [Part.IsRead] at value members
    simp only [Part.IsRead, readMembers, key, value, comma, members, Option.bind_eq_bind, Option.bind_some]
    rfl

end Complete

/-- A text is read as a value exactly if the value is derived from it, with nothing but spaces left. -/
theorem read_eq_some_iff {cs : List Char} {v : Json} : read cs = some v ↔ ∃ rest, Reads (.value v) cs rest ∧ skip rest = [] := by
  unfold read
  constructor
  · intro found
    split at found
    next rest value =>
      rw [Option.ite_none_right_eq_some] at found
      obtain ⟨blank, same⟩ := found
      cases same
      exact ⟨rest, reads_of_isRead (p := .value _) value, List.isEmpty_iff.1 blank⟩
    next => cases found
  · rintro ⟨rest, reads, blank⟩
    have value : readValue (2 * cs.length + 2) cs = some (v, rest) := isRead_of_reads reads (by rw [Part.fuel]; omega)
    simp only [value, blank, List.isEmpty_nil, if_true]

end Spreadsheet.Json
