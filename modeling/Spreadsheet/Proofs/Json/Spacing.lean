import Spreadsheet.Proofs.Json.Derivation
import Spreadsheet.Proofs.Text.Split

/-! Line ends are no more than space. Two texts that differ by returns in front of line feeds, and by the line ends at their
very end, are read alike: inside a string no line end can stand, and in front of one every other token ends. -/
namespace Spreadsheet.Json

open Text

def isLineEnd (c : Char) : Bool := c = '\n' || c = '\r'

/-- The second text has the line ends of the first, but for returns in front of line feeds and those that end it. -/
inductive Alike : List Char → List Char → Prop
  | ends {cs ds : List Char} (first : ∀ c ∈ cs, isLineEnd c = true) (second : ∀ d ∈ ds, isLineEnd d = true) : Alike cs ds
  | feed {cs ds : List Char} (alike : Alike cs ds) : Alike ('\r' :: '\n' :: cs) ('\n' :: ds)
  | same (c : Char) {cs ds : List Char} (alike : Alike cs ds) : Alike (c :: cs) (c :: ds)

/-- The reader comes to the same in front of the rests of texts that are alike. -/
def Overlooks {α : Type} (f : List Char → Option (α × List Char)) : Prop :=
  ∀ {cs ds rest a}, Alike cs ds → f cs = some (a, rest) → ∃ rest', f ds = some (a, rest') ∧ Alike rest rest'

namespace Alike

variable {cs ds rest : List Char} {c : Char}

theorem refl (cs : List Char) : Alike cs cs := by
  induction cs with
  | nil => exact .ends nofun nofun
  | cons c cs ih => exact .same c ih

theorem append (front : List Char) (alike : Alike cs ds) : Alike (front ++ cs) (front ++ ds) := by
  induction front with
  | nil => exact alike
  | cons c front ih => exact .same c ih

theorem cons (solid : isLineEnd c = false) (alike : Alike (c :: cs) ds) : ∃ ds', ds = c :: ds' ∧ Alike cs ds' := by
  cases alike with
  | ends first _ => exact absurd (first c List.mem_cons_self) (by simp [solid])
  | feed => cases solid
  | same _ alike => exact ⟨_, rfl, alike⟩

theorem cons_right (solid : isLineEnd c = false) (alike : Alike cs (c :: ds)) : ∃ cs', cs = c :: cs' ∧ Alike cs' ds := by
  cases alike with
  | ends _ second => exact absurd (second c List.mem_cons_self) (by simp [solid])
  | feed => cases solid
  | same _ alike => exact ⟨_, rfl, alike⟩

theorem of_append {tok : List Char} (solid : ∀ c ∈ tok, isLineEnd c = false) (alike : Alike (tok ++ cs) ds) :
    ∃ ds', ds = tok ++ ds' ∧ Alike cs ds' := by
  induction tok generalizing ds with
  | nil => exact ⟨ds, rfl, alike⟩
  | cons c tok ih =>
    have whole : Alike (c :: (tok ++ cs)) ds := alike
    obtain ⟨later, rfl, alike'⟩ := whole.cons (solid c List.mem_cons_self)
    obtain ⟨rest, rfl, alike''⟩ := ih (fun d inside => solid d (List.mem_cons_of_mem _ inside)) alike'
    exact ⟨rest, rfl, alike''⟩

theorem stops {p : Char → Bool} (feed : p '\n' = false) (ret : p '\r' = false)
    (ends : ∀ c ∈ cs, isLineEnd c = true) : Stops p cs := by
  intro c first
  rcases (by simpa [isLineEnd] using ends c (List.mem_of_mem_head? first)) with rfl | rfl
  · exact feed
  · exact ret

/-- Both texts begin with the same character, or both with line ends, if with anything. -/
theorem head_cases (alike : Alike cs ds) :
    (∃ c cs' ds', cs = c :: cs' ∧ ds = c :: ds' ∧ Alike cs' ds') ∨
      ∀ p : Char → Bool, p '\n' = false → p '\r' = false → Stops p cs ∧ Stops p ds := by
  cases alike with
  | ends first second => exact .inr fun p feed ret => ⟨stops feed ret first, stops feed ret second⟩
  | feed => exact .inr fun p feed ret => ⟨stops_cons ret, stops_cons feed⟩
  | same c alike => exact .inl ⟨c, _, _, rfl, rfl, alike⟩

theorem dropWhile_takeWhile {p : Char → Bool} (feed : p '\n' = false) (ret : p '\r' = false) (alike : Alike cs ds) :
    ds.takeWhile p = cs.takeWhile p ∧ Alike (cs.dropWhile p) (ds.dropWhile p) := by
  induction alike with
  | ends first second =>
    have first' := stops feed ret first
    have second' := stops feed ret second
    rw [takeWhile_of_stops first', takeWhile_of_stops second', dropWhile_of_stops first', dropWhile_of_stops second']
    exact ⟨rfl, .ends first second⟩
  | @feed cs ds alike =>
    have first : Stops p ('\r' :: '\n' :: cs) := stops_cons ret
    have second : Stops p ('\n' :: ds) := stops_cons feed
    rw [takeWhile_of_stops first, takeWhile_of_stops second, dropWhile_of_stops first, dropWhile_of_stops second]
    exact ⟨rfl, .feed alike⟩
  | same c alike ih =>
    cases inside : p c with
    | true => simpa [inside] using ih
    | false => simpa [inside] using .same c alike

theorem skip (alike : Alike cs ds) : Alike (skip cs) (skip ds) := by
  have blank {cs : List Char} (ends : ∀ c ∈ cs, isLineEnd c = true) : Json.skip cs = [] := by
    refine List.dropWhile_eq_nil_iff.2 fun c inside => ?_
    rcases (by simpa [isLineEnd] using ends c inside) with rfl | rfl <;> rfl
  induction alike with
  | ends first second =>
    rw [blank first, blank second]
    exact refl []
  | feed _ ih => exact ih
  | same c alike ih =>
    cases space : isSpace c with
    | true => simpa [Json.skip, space] using ih
    | false =>
      rw [skip_cons space, skip_cons space]
      exact .same c alike

/-- What comes after the spaces of the one text comes after those of the other. -/
theorem front (tok : List Char) (solid : ∀ c ∈ tok, isLineEnd c = false) (alike : Alike cs ds)
    (front : Json.skip cs = tok ++ rest) : ∃ rest', Json.skip ds = tok ++ rest' ∧ Alike rest rest' := by
  have skipped := alike.skip
  rw [front] at skipped
  exact skipped.of_append solid

theorem front_cons (solid : isLineEnd c = false) (alike : Alike cs ds) (front : Json.skip cs = c :: rest) :
    ∃ rest', Json.skip ds = c :: rest' ∧ Alike rest rest' := by
  have skipped := alike.skip
  rw [front] at skipped
  exact skipped.cons solid

theorem filled (solid : isLineEnd c = false) (alike : Alike cs ds) (filled : ∀ rest, cs ≠ c :: rest) :
    ∀ rest, ds ≠ c :: rest := by
  rintro rest rfl
  obtain ⟨rest', same, _⟩ := alike.cons_right solid
  exact filled rest' same

theorem skip_eq_nil (alike : Alike cs ds) (blank : Json.skip cs = []) : Json.skip ds = [] := by
  have skipped := alike.skip
  rw [blank] at skipped
  cases found : Json.skip ds with
  | nil => rfl
  | cons d ds' =>
    rw [found] at skipped
    have ends : isLineEnd d = true := by
      cases skipped with
      | ends _ second => exact second d List.mem_cons_self
    have shown := stops_dropWhile isSpace ds d (by rw [show ds.dropWhile isSpace = d :: ds' from found]; rfl)
    rcases (by simpa [isLineEnd] using ends) with rfl | rfl <;> cases shown

end Alike

section Number

variable {cs ds : List Char}

theorem readMinus_of_stops (stops : Stops (· = '-') cs) : readMinus cs = ([], cs) := by
  unfold readMinus
  split
  next => cases stops '-' rfl
  next => rfl

theorem readSign_of_stops (stops : Stops (fun c => c = '+' || c = '-') cs) : readSign cs = ([], cs) := by
  unfold readSign
  split
  next => cases stops '+' rfl
  next => cases stops '-' rfl
  next => rfl

theorem readWhole_of_stops (stops : Stops (· = '0') cs) :
    readWhole cs = if (digits cs).1.isEmpty then none else some (digits cs) := by
  unfold readWhole
  split
  next => cases stops '0' rfl
  next => rfl

/-- Texts that are alike both begin with a character of a kind, and are alike after it, or neither does. -/
theorem Alike.kind_cases (alike : Alike cs ds) {p : Char → Bool} (feed : p '\n' = false) (ret : p '\r' = false) :
    (∃ c cs' ds', p c = true ∧ cs = c :: cs' ∧ ds = c :: ds' ∧ Alike cs' ds') ∨ (Stops p cs ∧ Stops p ds) := by
  rcases alike.head_cases with ⟨c, cs', ds', rfl, rfl, alike'⟩ | stops
  · cases inside : p c with
    | true => exact .inl ⟨c, cs', ds', inside, rfl, rfl, alike'⟩
    | false => exact .inr ⟨stops_cons inside, stops_cons inside⟩
  · exact .inr (stops p feed ret)

theorem Alike.digits (alike : Alike cs ds) : (digits ds).1 = (digits cs).1 ∧ Alike (digits cs).2 (digits ds).2 :=
  alike.dropWhile_takeWhile rfl rfl

theorem Alike.readMinus (alike : Alike cs ds) :
    (readMinus ds).1 = (readMinus cs).1 ∧ Alike (readMinus cs).2 (readMinus ds).2 := by
  rcases alike.kind_cases (p := (· = '-')) rfl rfl with ⟨c, cs, ds, minus, rfl, rfl, alike'⟩ | ⟨first, second⟩
  · obtain rfl := of_decide_eq_true minus
    exact ⟨rfl, alike'⟩
  · rw [readMinus_of_stops first, readMinus_of_stops second]
    exact ⟨rfl, alike⟩

theorem Alike.readSign (alike : Alike cs ds) :
    (readSign ds).1 = (readSign cs).1 ∧ Alike (readSign cs).2 (readSign ds).2 := by
  rcases alike.kind_cases (p := fun c => c = '+' || c = '-') rfl rfl with
    ⟨c, cs, ds, sign, rfl, rfl, alike'⟩ | ⟨first, second⟩
  · rcases (by simpa using sign) with rfl | rfl
    · exact ⟨rfl, alike'⟩
    · exact ⟨rfl, alike'⟩
  · rw [readSign_of_stops first, readSign_of_stops second]
    exact ⟨rfl, alike⟩

theorem overlooks_readWhole : Overlooks readWhole := by
  intro cs ds rest whole alike read
  rcases alike.kind_cases (p := (· = '0')) rfl rfl with ⟨c, cs, ds, zero, rfl, rfl, alike'⟩ | ⟨first, second⟩
  · obtain rfl := of_decide_eq_true zero
    simp only [readWhole, Option.ite_none_left_eq_some, Option.some.injEq, Prod.mk.injEq] at read ⊢
    obtain ⟨single, rfl, rfl⟩ := read
    refine ⟨ds, ⟨?_, rfl, rfl⟩, alike'⟩
    rcases alike'.kind_cases (p := Char.isDigit) rfl rfl with ⟨c, _, _, digit, rfl, rfl, _⟩ | ⟨_, second⟩
    · exact absurd digit single
    · simp [second.any_head]
  · obtain ⟨found, alike'⟩ := alike.digits
    rw [readWhole_of_stops first, Option.ite_none_left_eq_some] at read
    obtain ⟨filled, same⟩ := read
    rw [Option.some.inj same] at found filled alike'
    refine ⟨(digits ds).2, ?_, alike'⟩
    rw [readWhole_of_stops second, found, if_neg filled]
    exact congrArg some (Prod.ext found rfl)

theorem overlooks_readFraction : Overlooks readFraction := by
  intro cs ds rest fraction alike read
  rcases alike.kind_cases (p := (· = '.')) rfl rfl with ⟨c, cs, ds, point, rfl, rfl, alike'⟩ | ⟨first, second⟩
  · obtain rfl := of_decide_eq_true point
    obtain ⟨found, alike'⟩ := alike'.digits
    simp only [readFraction, Option.ite_none_left_eq_some, Option.some.injEq, Prod.mk.injEq, found] at read ⊢
    obtain ⟨filled, rfl, rfl⟩ := read
    exact ⟨_, ⟨filled, rfl, rfl⟩, alike'⟩
  · rw [readFraction_of_stops first] at read
    cases read
    exact ⟨ds, readFraction_of_stops second, alike⟩

theorem overlooks_readExponent : Overlooks readExponent := by
  intro cs ds rest exponent alike read
  rcases alike.kind_cases (p := fun c => c = 'e' || c = 'E') rfl rfl with
    ⟨c, cs, ds, letter, rfl, rfl, alike'⟩ | ⟨first, second⟩
  · obtain ⟨sign, alike'⟩ := alike'.readSign
    obtain ⟨found, alike'⟩ := alike'.digits
    simp only [readExponent, letter, if_true, Option.ite_none_left_eq_some, Option.some.injEq, Prod.mk.injEq, found,
      sign] at read ⊢
    obtain ⟨filled, rfl, rfl⟩ := read
    exact ⟨_, ⟨filled, rfl, rfl⟩, alike'⟩
  · rw [readExponent_of_stops first] at read
    cases read
    exact ⟨ds, readExponent_of_stops second, alike⟩

theorem overlooks_readNumber : Overlooks readNumber := by
  intro cs ds rest v alike read
  obtain ⟨whole, _, fraction, _, exponent, one, two, three, rfl⟩ := readNumber_eq_some_iff.1 read
  obtain ⟨minus, alike⟩ := alike.readMinus
  obtain ⟨afterWhole, one, alike⟩ := overlooks_readWhole alike one
  obtain ⟨afterFraction, two, alike⟩ := overlooks_readFraction alike two
  obtain ⟨rest', three, alike⟩ := overlooks_readExponent alike three
  refine ⟨rest', readNumber_eq_some_iff.2 ⟨whole, afterWhole, fraction, afterFraction, exponent, one, two, three, ?_⟩, alike⟩
  rw [minus]

end Number

section String

theorem solid_of_isPrintable {c : Char} (printable : isPrintable c = true) : isLineEnd c = false := by
  rw [← Bool.not_eq_true]
  intro ends
  rcases (by simpa [isLineEnd] using ends) with rfl | rfl <;> cases printable

theorem overlooks_scanBody : Overlooks scanBody := by
  intro cs ds rest body alike scanned
  obtain ⟨split, printable, scan⟩ := bodily_scanBody scanned
  subst split
  obtain ⟨_, rfl, quoted⟩ := alike.of_append fun c inside => solid_of_isPrintable (printable c inside)
  obtain ⟨rest', rfl, alike'⟩ := quoted.cons rfl
  exact ⟨rest', scan rest', alike'⟩

theorem overlooks_readKey : Overlooks readKey := by
  intro cs ds rest k alike key
  obtain ⟨_, _, front, scanned, colon⟩ := readKey_eq_some_iff.1 key
  obtain ⟨_, front', inner⟩ := alike.front_cons rfl front
  obtain ⟨_, scanned', after⟩ := overlooks_scanBody inner scanned
  obtain ⟨rest', colon', alike'⟩ := after.front_cons rfl colon
  exact ⟨rest', readKey_eq_some_iff.2 ⟨_, _, front', scanned', colon'⟩, alike'⟩

end String

/-- What can be read can be read from all texts that are alike. -/
theorem Reads.alike {p : Part} {cs ds rest : List Char} (reads : Reads p cs rest) (alike : Alike cs ds) :
    ∃ rest', Reads p ds rest' ∧ Alike rest rest' := by
  induction reads generalizing ds with
  | null front =>
    obtain ⟨rest', front', alike'⟩ := alike.front ['n', 'u', 'l', 'l'] (by simp [isLineEnd]) front
    exact ⟨rest', .null front', alike'⟩
  | bool b front =>
    obtain ⟨rest', front', alike'⟩ := alike.front (writeBool b) (by cases b <;> simp [writeBool, isLineEnd]) front
    exact ⟨rest', .bool b front', alike'⟩
  | string front scanned =>
    obtain ⟨_, front', inner⟩ := alike.front_cons rfl front
    obtain ⟨rest', scanned', alike'⟩ := overlooks_scanBody inner scanned
    exact ⟨rest', .string front' scanned', alike'⟩
  | number read =>
    obtain ⟨rest', read', alike'⟩ := overlooks_readNumber alike.skip read
    exact ⟨rest', .number read', alike'⟩
  | emptyArray front back =>
    obtain ⟨_, front', inner⟩ := alike.front_cons rfl front
    obtain ⟨rest', back', alike'⟩ := inner.front_cons rfl back
    exact ⟨rest', .emptyArray front' back', alike'⟩
  | array front filled _ ih =>
    obtain ⟨_, front', inner⟩ := alike.front_cons rfl front
    obtain ⟨rest', items', alike'⟩ := ih inner.skip
    exact ⟨rest', .array front' (inner.skip.filled rfl filled) items', alike'⟩
  | emptyObject front back =>
    obtain ⟨_, front', inner⟩ := alike.front_cons rfl front
    obtain ⟨rest', back', alike'⟩ := inner.front_cons rfl back
    exact ⟨rest', .emptyObject front' back', alike'⟩
  | object front filled _ ih =>
    obtain ⟨_, front', inner⟩ := alike.front_cons rfl front
    obtain ⟨rest', members', alike'⟩ := ih inner.skip
    exact ⟨rest', .object front' (inner.skip.filled rfl filled) members', alike'⟩
  | lastItem _ back ih =>
    obtain ⟨_, value', after⟩ := ih alike
    obtain ⟨rest', back', alike'⟩ := after.front_cons rfl back
    exact ⟨rest', .lastItem value' back', alike'⟩
  | nextItem _ comma _ ih ih' =>
    obtain ⟨_, value', after⟩ := ih alike
    obtain ⟨_, comma', more⟩ := after.front_cons rfl comma
    obtain ⟨rest', items', alike'⟩ := ih' more
    exact ⟨rest', .nextItem value' comma' items', alike'⟩
  | lastMember key _ back ih =>
    obtain ⟨_, key', colon⟩ := overlooks_readKey alike key
    obtain ⟨_, value', after⟩ := ih colon
    obtain ⟨rest', back', alike'⟩ := after.front_cons rfl back
    exact ⟨rest', .lastMember key' value' back', alike'⟩
  | nextMember key _ comma _ ih ih' =>
    obtain ⟨_, key', colon⟩ := overlooks_readKey alike key
    obtain ⟨_, value', after⟩ := ih colon
    obtain ⟨_, comma', more⟩ := after.front_cons rfl comma
    obtain ⟨rest', members', alike'⟩ := ih' more
    exact ⟨rest', .nextMember key' value' comma' members', alike'⟩

/-- Texts that are alike are read as the same value. -/
theorem read_alike {cs ds : List Char} {v : Json} (alike : Alike cs ds) (found : read cs = some v) : read ds = some v := by
  obtain ⟨rest, reads, blank⟩ := read_eq_some_iff.1 found
  obtain ⟨rest', reads', alike'⟩ := reads.alike alike
  exact read_eq_some_iff.2 ⟨rest', reads', alike'.skip_eq_nil blank⟩

end Spreadsheet.Json
