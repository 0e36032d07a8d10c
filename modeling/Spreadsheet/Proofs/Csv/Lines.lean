import Spreadsheet.Proofs.Csv.Records
import Spreadsheet.Text.Encoding

/-! The lines of comma-separated text as its reader sees them: a line feed within a quoted field ends none, and a quote
in any other field is only text. Each line that is not blank holds one record. -/
namespace Spreadsheet.Csv

open Text
open Text.Encoding (dropMark)

/-- Where the reader stands: in front of a field, in one without or with quotes, or behind a quote that closes the field
unless another one follows. -/
inductive ReadState where
  | start
  | plain
  | quoted
  | closed
  deriving DecidableEq

def ReadState.next (q : ReadState) (c : Char) : ReadState :=
  if q = .quoted then if c = '"' then .closed else .quoted
  else if endsField c then .start
  else if c = '"' ∧ q ≠ .plain then .quoted
  else .plain

def ReadState.Breaks (q : ReadState) (c : Char) : Prop := c = '\n' ∧ q ≠ .quoted

instance (q : ReadState) (c : Char) : Decidable (q.Breaks c) := inferInstanceAs (Decidable (_ ∧ _))

def lineBreaks (q : ReadState) : List Char → Nat
  | [] => 0
  | c :: cs => (if q.Breaks c then 1 else 0) + lineBreaks (q.next c) cs

def linesFrom (q : ReadState) : List Char → List (List Char)
  | [] => [[]]
  | c :: cs => if q.Breaks c then [] :: linesFrom .start cs else (linesFrom (q.next c) cs).modifyHead (c :: ·)

/-- The numbers of the lines that are not blank. -/
def filledLines (first : Nat) (lines : List (List Char)) : List Nat :=
  ((lines.zipIdx first).filter fun l => !l.1.all isBreak).map fun l => l.2

/-- The line that each record starts on. -/
def recordLines (content : List Char) : List Nat :=
  (recordsFrom 0 (dropMark content)).map fun r => lineBreaks .start ((dropMark content).take r.offset)

/-- A return only stands in front of a line feed. -/
def Paired (cs : List Char) : Prop := ∀ rest, '\r' :: rest <:+ cs → rest.head? = some '\n'

variable {q : ReadState} {c : Char} {cs text line rest pre : List Char}

theorem Paired.of_suffix (paired : Paired cs) (part : rest <:+ cs) : Paired rest :=
  fun after inside => paired after (inside.trans part)

theorem Paired.line_feed (paired : Paired ('\r' :: rest)) : ∃ more, rest = '\n' :: more := by
  have next := paired rest (List.suffix_refl _)
  cases rest with
  | nil => cases next
  | cons c more =>
    cases next
    exact ⟨more, rfl⟩

theorem lineBreaks_append (q : ReadState) (text rest : List Char) :
    lineBreaks q (text ++ rest) = lineBreaks q text + lineBreaks (text.foldl ReadState.next q) rest := by
  induction text generalizing q with
  | nil => exact (Nat.zero_add _).symm
  | cons c text ih => rw [List.cons_append, lineBreaks, lineBreaks, ih, List.foldl_cons, Nat.add_assoc]

theorem ReadState.next_of_endsField (outside : q ≠ .quoted) (ends : endsField c = true) : q.next c = .start := by
  rw [next, if_neg outside, if_pos ends]

/-- A text that is read to its end without a line break, and not left within quotes if more follows. -/
structure OneLine (q : ReadState) (text rest : List Char) : Prop where
  unbroken : lineBreaks q text = 0
  left : rest ≠ [] → text.foldl ReadState.next q ≠ .quoted

theorem oneLine_nil (outside : q ≠ .quoted) (rest : List Char) : OneLine q [] rest := ⟨rfl, fun _ => outside⟩

theorem oneLine_cons_iff : OneLine q (c :: text) rest ↔ ¬ q.Breaks c ∧ OneLine (q.next c) text rest := by
  constructor
  · rintro ⟨unbroken, left⟩
    obtain ⟨inner, unbroken⟩ := Nat.add_eq_zero_iff.1 unbroken
    exact ⟨fun breaks => by simp [breaks] at inner, unbroken, left⟩
  · rintro ⟨inner, unbroken, left⟩
    exact ⟨by rw [lineBreaks, if_neg inner, unbroken], left⟩

namespace OneLine

theorem append {second after : List Char} (first : OneLine q text (c :: after)) (inner : c ≠ '\n')
    (ends : endsField c = true) (more : OneLine .start second rest) : OneLine q (text ++ c :: second) rest := by
  have outside := first.left (List.cons_ne_nil _ _)
  have next := ReadState.next_of_endsField outside ends
  constructor
  · rw [lineBreaks_append, first.unbroken, lineBreaks, if_neg fun breaks => inner breaks.1, next, more.unbroken]
  · rw [List.foldl_append, List.foldl_cons, next]
    exact more.left

theorem linesFrom_append (whole : OneLine q line ('\n' :: rest)) :
    linesFrom q (line ++ '\n' :: rest) = line :: linesFrom .start rest := by
  induction line generalizing q with
  | nil => exact if_pos ⟨rfl, whole.left (List.cons_ne_nil _ _)⟩
  | cons c line ih =>
    obtain ⟨inner, whole⟩ := oneLine_cons_iff.1 whole
    rw [List.cons_append, linesFrom, if_neg inner, ih whole, List.modifyHead_cons]

theorem linesFrom_eq (whole : OneLine q line []) : linesFrom q line = [line] := by
  induction line generalizing q with
  | nil => rfl
  | cons c line ih =>
    obtain ⟨inner, whole⟩ := oneLine_cons_iff.1 whole
    rw [linesFrom, if_neg inner, ih whole, List.modifyHead_cons]

end OneLine

theorem oneLine_plainField (outside : q ≠ .quoted) (only : '"' ∈ cs.head? → q = .plain) :
    OneLine q (plainField cs).1 (plainField cs).2 := by
  induction cs generalizing q with
  | nil => exact oneLine_nil outside _
  | cons c cs ih =>
    cases ends : endsField c with
    | true =>
      have stops : plainField (c :: cs) = ([], c :: cs) := by simp [plainField, ends]
      rw [stops]
      exact oneLine_nil outside _
    | false =>
      have goes : plainField (c :: cs) = (c :: (plainField cs).1, (plainField cs).2) := by simp [plainField, ends]
      have inner : ¬ q.Breaks c := by
        rintro ⟨rfl, _⟩
        cases ends
      have literal : ¬ (c = '"' ∧ q ≠ .plain) := by
        rintro ⟨rfl, other⟩
        exact other (only rfl)
      have next : q.next c = .plain := by
        rw [ReadState.next, if_neg outside, ends, if_neg Bool.false_ne_true, if_neg literal]
      rw [goes]
      refine oneLine_cons_iff.2 ⟨inner, ?_⟩
      rw [next]
      exact ih (by decide) fun _ => rfl

theorem oneLine_quoted_cons (next : ReadState.quoted.next c = q) (more : OneLine q text rest) :
    OneLine .quoted (c :: text) rest :=
  oneLine_cons_iff.2 ⟨fun breaks => breaks.2 rfl, next ▸ more⟩

theorem oneLine_quotedField (cs : List Char) :
    ∃ text, cs = text ++ (quotedField cs).2 ∧ OneLine .quoted text (quotedField cs).2 := by
  fun_induction quotedField cs with
  | case1 => exact ⟨[], rfl, rfl, absurd rfl⟩
  | case2 cs field rest eq ih =>
    rw [eq] at ih
    obtain ⟨text, whole, line⟩ := ih
    have closed : OneLine .closed ('"' :: text) rest := oneLine_cons_iff.2 ⟨by decide, line⟩
    exact ⟨'"' :: '"' :: text, by rw [whole]; rfl, oneLine_quoted_cons rfl closed⟩
  | case3 cs single =>
    have only : '"' ∈ cs.head? → ReadState.closed = .plain := by
      intro first
      obtain ⟨after, rfl⟩ := List.head?_eq_some_iff.1 first
      exact absurd rfl (single after rfl)
    have line := oneLine_plainField (by decide) only
    refine ⟨'"' :: (plainField cs).1, ?_, oneLine_quoted_cons rfl line⟩
    rw [List.cons_append, plainField, List.takeWhile_append_dropWhile]
  | case4 c cs _ other field rest eq ih =>
    rw [eq] at ih
    obtain ⟨text, whole, line⟩ := ih
    exact ⟨c :: text, by rw [whole]; rfl, oneLine_quoted_cons (by simp [ReadState.next, other]) line⟩

theorem oneLine_field (cs : List Char) : ∃ text, cs = text ++ (field cs).2 ∧ OneLine .start text (field cs).2 := by
  rw [field.eq_def]
  split
  next cs =>
    obtain ⟨text, whole, line⟩ := oneLine_quotedField cs
    exact ⟨'"' :: text, congrArg _ whole, oneLine_cons_iff.2 ⟨by decide, line⟩⟩
  next other =>
    have only : '"' ∈ cs.head? → ReadState.start = .plain := by
      intro first
      obtain ⟨after, rfl⟩ := List.head?_eq_some_iff.1 first
      exact absurd rfl (other after)
    exact ⟨(plainField cs).1, List.takeWhile_append_dropWhile.symm, oneLine_plainField (by decide) only⟩

theorem atFieldEnd_quotedField (cs : List Char) : AtFieldEnd (quotedField cs).2 := by
  fun_induction quotedField cs with
  | case1 => rintro c ⟨⟩
  | case2 cs field rest eq ih => rwa [eq] at ih
  | case3 cs => exact stops_dropWhile _ cs
  | case4 c cs _ other field rest eq ih => rwa [eq] at ih

theorem atFieldEnd_field (cs : List Char) : AtFieldEnd (field cs).2 := by
  rw [field.eq_def]
  split
  next cs => exact atFieldEnd_quotedField cs
  next => exact stops_dropWhile _ cs

theorem oneLine_fields (cs : List Char) : ∃ text rest, cs = text ++ rest ∧ (fields cs).2 = rest.tail ∧ AtRecordEnd rest ∧
    OneLine .start text rest := by
  fun_induction fields cs with
  | case1 cs after eq more next found ih =>
    obtain ⟨first, whole, line⟩ := oneLine_field cs
    rw [found] at ih
    obtain ⟨text, rest, whole', left, ends, more⟩ := ih
    rw [eq, whole'] at whole line
    refine ⟨first ++ ',' :: text, rest, ?_, left, ends, ?_⟩
    · rw [whole, List.append_assoc, List.cons_append]
    · exact line.append (by decide) rfl more
  | case2 cs c rest other eq =>
    obtain ⟨text, whole, one⟩ := oneLine_field cs
    have ends := atFieldEnd_field cs
    rw [eq] at whole one ends
    have line : isBreak c = true := by
      have comma : decide (c = ',') = false := decide_eq_false other
      have ends : (decide (c = ',') || isBreak c) = true := endsField_of_atFieldEnd ends rfl
      rwa [comma, Bool.false_or] at ends
    exact ⟨text, c :: rest, whole, rfl, atRecordEnd_cons line rest, one⟩
  | case3 cs eq =>
    obtain ⟨text, whole, line⟩ := oneLine_field cs
    rw [eq] at whole line
    exact ⟨text, [], whole, rfl, atRecordEnd_nil, line⟩

theorem isBreak_iff : isBreak c = true ↔ c = '\n' ∨ c = '\r' := by simp [isBreak]

def AtLineEnd (rest : List Char) : Prop := rest = [] ∨ ∃ more, rest = '\n' :: more

theorem AtRecordEnd.cases (ends : AtRecordEnd rest) (paired : Paired rest) :
    AtLineEnd rest ∨ ∃ more, rest = '\r' :: '\n' :: more := by
  cases rest with
  | nil => exact .inl (.inl rfl)
  | cons c rest =>
    rcases isBreak_iff.1 (isBreak_of_atRecordEnd ends rfl) with rfl | rfl
    · exact .inl (.inr ⟨rest, rfl⟩)
    · obtain ⟨more, rfl⟩ := paired.line_feed
      exact .inr ⟨more, rfl⟩

/-- The first line of a text ends where the reader looks for the next record, which is its own if it is not blank. -/
structure FirstLine (cs line rest : List Char) (found : List (List Char)) : Prop where
  whole : cs = line ++ rest
  ends : AtLineEnd rest
  one : OneLine .start line rest
  records : ∀ offset, recordsFrom offset cs =
    (if line.all isBreak then [] else [⟨offset, found⟩]) ++ recordsFrom (offset + line.length) rest

theorem exists_firstLine_of_solid (paired : Paired (c :: cs)) (solid : isBreak c = false) :
    ∃ line rest found, FirstLine (c :: cs) line rest found := by
  obtain ⟨text, rest, whole, left, ends, one⟩ := oneLine_fields (c :: cs)
  obtain ⟨text, rfl⟩ : ∃ more, text = c :: more := by
    cases text with
    | nil =>
      obtain rfl : c :: cs = rest := whole
      exact absurd (isBreak_of_atRecordEnd ends rfl) (Bool.eq_false_iff.1 solid)
    | cons d text =>
      obtain ⟨rfl, _⟩ := List.cons.inj whole
      exact ⟨text, rfl⟩
  have stops : Stops isBreak (c :: text) := by
    rintro _ ⟨⟩
    exact solid
  have read (offset : Nat) : recordsFrom offset (c :: cs) =
      ⟨offset, (fields (c :: cs)).1⟩ :: recordsFrom (offset + (c :: text).length) rest := by
    rw [whole] at left ⊢
    exact recordsFrom_append (List.cons_ne_nil c text) stops (Prod.ext rfl left) ends offset
  have own (more : List Char) : (c :: text ++ more).all isBreak = false :=
    List.all_eq_false.2 ⟨c, List.mem_cons_self, by rw [solid]; decide⟩
  rcases ends.cases (paired.of_suffix ⟨c :: text, whole.symm⟩) with ends | ⟨more, rfl⟩
  · refine ⟨c :: text, rest, (fields (c :: cs)).1, whole, ends, one, fun offset => ?_⟩
    have own := own []
    rw [List.append_nil] at own
    rw [read, own]
    rfl
  · -- the reader ends the record at the return, which belongs to this line all the same
    refine ⟨c :: text ++ ['\r'], '\n' :: more, (fields (c :: cs)).1, ?_, .inr ⟨more, rfl⟩, ?_, fun offset => ?_⟩
    · rw [whole, List.append_assoc]
      rfl
    · exact one.append (by decide) rfl (oneLine_nil (by decide) _)
    · rw [read, recordsFrom_break rfl, own, List.length_append, ← Nat.add_assoc]
      rfl

theorem exists_firstLine (paired : Paired cs) : ∃ line rest found, FirstLine cs line rest found := by
  cases cs with
  | nil => exact ⟨[], [], [], rfl, .inl rfl, oneLine_nil (by decide) _, fun _ => rfl⟩
  | cons c cs =>
    cases solid : isBreak c with
    | false => exact exists_firstLine_of_solid paired solid
    | true =>
      rcases isBreak_iff.1 solid with rfl | rfl
      · exact ⟨[], '\n' :: cs, [], rfl, .inr ⟨cs, rfl⟩, oneLine_nil (by decide) _, fun _ => rfl⟩
      · obtain ⟨more, rfl⟩ := paired.line_feed
        have line : OneLine .start ['\r'] ('\n' :: more) := oneLine_cons_iff.2 ⟨by decide, oneLine_nil (by decide) _⟩
        exact ⟨['\r'], '\n' :: more, [], rfl, .inr ⟨more, rfl⟩, line, fun offset => recordsFrom_break rfl offset _⟩

theorem filledLines_cons (first : Nat) (line : List Char) (lines : List (List Char)) :
    filledLines first (line :: lines) = (if line.all isBreak then [] else [first]) ++ filledLines (first + 1) lines := by
  rw [filledLines, List.zipIdx_cons, List.filter_cons]
  cases line.all isBreak <;> rfl

/-- Records are on the lines that are not blank, one on each. -/
theorem map_recordsFrom_eq_filledLines (paired : Paired cs) (start : pre.foldl ReadState.next .start = .start) :
    (recordsFrom pre.length cs).map (fun r => lineBreaks .start ((pre ++ cs).take r.offset)) =
      filledLines (lineBreaks .start pre) (linesFrom .start cs) := by
  induction size : cs.length using Nat.strongRecOn generalizing cs pre with
  | ind n ih =>
    obtain ⟨line, rest, found, whole, ends, one, records⟩ := exists_firstLine paired
    have here : lineBreaks .start ((pre ++ cs).take pre.length) = lineBreaks .start pre := by rw [List.take_left]
    -- the lines after the first one are counted from the line below
    obtain ⟨lines, cut, later⟩ : ∃ lines, linesFrom .start cs = line :: lines ∧
        (recordsFrom (pre.length + line.length) rest).map (fun r => lineBreaks .start ((pre ++ cs).take r.offset)) =
          filledLines (lineBreaks .start pre + 1) lines := by
      rcases ends with rfl | ⟨more, rfl⟩
      · rw [List.append_nil] at whole
        subst whole
        exact ⟨[], one.linesFrom_eq, by rw [recordsFrom_nil]; rfl⟩
      · refine ⟨linesFrom .start more, whole ▸ one.linesFrom_append, ?_⟩
        have outside := one.left (List.cons_ne_nil _ _)
        have joined : pre ++ cs = pre ++ line ++ ['\n'] ++ more := by simp [whole]
        have start' : (pre ++ line ++ ['\n']).foldl ReadState.next .start = .start := by
          rw [List.foldl_append, List.foldl_append, start]
          exact ReadState.next_of_endsField outside rfl
        have counted : lineBreaks .start (pre ++ line ++ ['\n']) = lineBreaks .start pre + 1 := by
          rw [lineBreaks_append, lineBreaks_append, List.foldl_append, start, one.unbroken, lineBreaks, if_pos ⟨rfl, outside⟩]
          rfl
        have below := ih more.length (by simp [← size, whole]; omega) (paired.of_suffix ⟨line ++ ['\n'], by simp [whole]⟩)
          start' rfl
        rw [counted, ← joined] at below
        rw [recordsFrom_break rfl, ← below]
        simp [Nat.add_assoc]
    rw [records, cut, filledLines_cons, List.map_append, later]
    split
    next => rfl
    next => rw [List.map_singleton, here]

theorem recordLines_eq_filledLines {content : List Char} (paired : Paired (dropMark content)) :
    recordLines content = filledLines 0 (linesFrom .start (dropMark content)) := by
  have start : ([] : List Char).foldl ReadState.next .start = .start := rfl
  exact map_recordsFrom_eq_filledLines paired start

theorem le_of_mem_filledLines {first n : Nat} {lines : List (List Char)} (inside : n ∈ filledLines first lines) :
    first ≤ n := by
  obtain ⟨⟨line, n⟩, filled, rfl⟩ := List.mem_map.1 inside
  exact List.le_snd_of_mem_zipIdx (List.mem_filter.1 filled).1

theorem ascending_filledLines (first : Nat) (lines : List (List Char)) : (filledLines first lines).Pairwise (· < ·) := by
  induction lines generalizing first with
  | nil => exact .nil
  | cons line lines ih =>
    rw [filledLines_cons]
    split
    next => exact ih (first + 1)
    next => exact List.pairwise_cons.2 ⟨fun n inside => le_of_mem_filledLines inside, ih (first + 1)⟩

end Spreadsheet.Csv
