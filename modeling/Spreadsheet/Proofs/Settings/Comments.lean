import Spreadsheet.Proofs.Json.Spacing
import Spreadsheet.Proofs.Text.Lines
import Spreadsheet.Settings

/-! Comments in settings. A text that is read as JSON has none: a line that starts with two slashes would start inside a
string, which holds no line feed, or outside, where no slash can stand. So dropping comments leaves such a text as it is but
for line ends; and what is left of any text does not depend on the comments put into it. -/
namespace Spreadsheet.Settings

open Json Text

section Line

variable {c : Char} {cs rest line : List Char}

theorem isComment_of_solid (solid : isBlank c = false) (other : c ≠ '/') (cs : List Char) : isComment (c :: cs) = false := by
  have trimmed : trimChars (c :: cs) = c :: cs.rdropWhile isBlank := trimChars_append_cons solid [] cs
  have first : ('/' == c) = false := beq_eq_false_iff_ne.2 (Ne.symm other)
  rw [isComment, trimmed, List.isPrefixOf, first, Bool.false_and]

theorem isComment_cons_blank (blank : isBlank c = true) (cs : List Char) : isComment (c :: cs) = isComment cs := by
  rw [isComment, trimChars_cons_blank blank, isComment]

@[simp] theorem isComment_dropLast (line : List Char) : isComment (dropLast '\r' line) = isComment line := by
  rw [isComment, trimChars_dropLast rfl, isComment]

theorem ne_nil_of_isComment (comment : isComment line = true) : line ≠ [] := by
  rintro rfl
  cases comment

end Line

/-- No line is a comment. -/
def Bare (cs : List Char) : Prop := ∀ line ∈ splitOn '\n' cs, isComment line = false

theorem bare_nil : Bare [] := by
  intro line inside
  obtain rfl := List.mem_singleton.1 inside
  rfl

section Bare

variable {c : Char} {cs rest : List Char}

theorem Bare.space (space : isSpace c = true) (bare : Bare cs) : Bare (c :: cs) := by
  by_cases feed : c = '\n'
  · subst feed
    intro line inside
    rcases List.mem_cons.1 (show line ∈ [] :: splitOn '\n' cs from inside) with rfl | inside
    · rfl
    · exact bare line inside
  · obtain ⟨part, parts, split⟩ := exists_splitOn '\n' cs
    have blank : isBlank c = true := by
      simp only [isSpace, Bool.or_eq_true, decide_eq_true_eq] at space
      rcases space with ((rfl | rfl) | rfl) | rfl <;> rfl
    have split' : splitOn '\n' (c :: cs) = (c :: part) :: parts :=
      splitOn_append [c] (by simpa using Ne.symm feed) split
    intro line inside
    rw [split'] at inside
    rw [Bare, split] at bare
    rcases List.mem_cons.1 inside with rfl | inside
    · exact (isComment_cons_blank blank part).trans (bare part List.mem_cons_self)
    · exact bare line (List.mem_cons_of_mem _ inside)

theorem bare_of_skip (blank : skip cs = []) : Bare cs := by
  induction cs with
  | nil => exact bare_nil
  | cons c cs ih =>
    have all := List.dropWhile_eq_nil_iff.1 blank
    exact (ih (List.dropWhile_eq_nil_iff.2 fun d inside => all d (List.mem_cons_of_mem _ inside))).space
      (all c List.mem_cons_self)

/-- Tokens start no comment, and go over no line feed. -/
theorem Bare.of_laid (laid : Laid cs rest) (bare : Bare rest) : Bare cs := by
  induction laid with
  | token c tok rest solid other single =>
    obtain ⟨part, parts, split⟩ := exists_splitOn '\n' rest
    intro line inside
    rw [splitOn_append _ single split] at inside
    rw [Bare, split] at bare
    rcases List.mem_cons.1 inside with rfl | inside
    · exact isComment_of_solid solid other _
    · exact bare line (List.mem_cons_of_mem _ inside)
  | space space _ ih => exact (ih bare).space space
  | trans _ _ first second => exact first (second bare)

theorem bare_of_read {v : Json} (found : Json.read cs = some v) : Bare cs := by
  obtain ⟨rest, reads, blank⟩ := read_eq_some_iff.1 found
  exact .of_laid reads.laid (bare_of_skip blank)

end Bare

theorem endLines_eq_nil_iff {parts : List (List Char)} (filled : parts ≠ []) : endLines parts = [] ↔ parts = [[]] := by
  match parts with
  | [part] => cases part <;> simp [endLines]
  | part :: next :: parts => simp [endLines]

/-- Ending all lines in the one way leaves a text alike. -/
theorem alike_endLines (parts : List (List Char)) : Alike (join '\n' parts) (join '\n' (endLines parts)) := by
  induction parts with
  | nil => exact .refl _
  | cons part parts ih =>
    cases parts with
    | nil => cases part <;> exact .refl _
    | cons next parts =>
      have ended : endLines (part :: next :: parts) = dropLast '\r' part :: endLines (next :: parts) := rfl
      obtain ⟨last, ends, same⟩ := exists_dropLast '\r' part
      rw [ended, join_cons part (List.cons_ne_nil next parts)]
      generalize dropLast '\r' part = kept at same
      subst same
      rw [List.append_assoc]
      by_cases final : endLines (next :: parts) = []
      · have lasts : ∀ c ∈ last ++ ['\n'], isLineEnd c = true := by rcases ends with rfl | rfl <;> simp [isLineEnd]
        have ended : Alike (last ++ ['\n']) [] := .ends lasts (List.forall_mem_nil _)
        have alike := ended.append kept
        rw [final, (endLines_eq_nil_iff (List.cons_ne_nil _ _)).1 final]
        rwa [List.append_nil] at alike
      · rw [join_cons kept final]
        refine .append kept ?_
        rcases ends with rfl | rfl
        · exact .same '\n' ih
        · exact .feed ih

theorem isComment_of_mem_lines {cs line : List Char} (bare : Bare cs) (inside : line ∈ lines cs) : isComment line = false := by
  obtain ⟨front, final, split⟩ := exists_splitOn_concat '\n' cs
  rw [Bare, split] at bare
  rw [lines, split, endLines_append (List.cons_ne_nil _ _)] at inside
  rcases List.mem_append.1 inside with inside | inside
  · obtain ⟨part, among, rfl⟩ := List.mem_map.1 inside
    rw [isComment_dropLast]
    exact bare part (by simp [among])
  · have last : line = final := by
      rw [endLines] at inside
      split at inside
      · cases inside
      · exact List.mem_singleton.1 inside
    exact bare line (by simp [last])

/-- Dropping the comments does not change what a text is read as, if it can be read. -/
theorem read_stripComments {cs : List Char} {v : Json} (found : Json.read cs = some v) :
    Json.read (stripComments cs) = some v := by
  have bare : (lines cs).filter (fun line => !isComment line) = lines cs := by
    refine List.filter_eq_self.2 fun line inside => ?_
    rw [isComment_of_mem_lines (bare_of_read found) inside]
    rfl
  have alike := alike_endLines (splitOn '\n' cs)
  rw [join_splitOn] at alike
  rw [stripComments, bare]
  exact read_alike alike found

/-- A single line that starts with two slashes once it is trimmed. -/
structure IsCommentLine (line : List Char) : Prop where
  comment : isComment line = true
  single : '\n' ∉ line

/-- A line starts at the end of the text. -/
def StartsLine (front : List Char) : Prop := front = [] ∨ ∃ cs, front = cs ++ ['\n']

/-- A comment is put in: in front of a line, as the last line, or in a line of its own after the last line. -/
inductive Commented : List Char → List Char → Prop
  | before {front line : List Char} (starts : StartsLine front) (comment : IsCommentLine line) (back : List Char) :
      Commented (front ++ back) (front ++ (line ++ '\n' :: back))
  | last {front line : List Char} (starts : StartsLine front) (comment : IsCommentLine line) : Commented front (front ++ line)
  | after (text : List Char) {line : List Char} (comment : IsCommentLine line) : Commented text (text ++ '\n' :: line)

/-- What is left of the parts between the line feeds of a text. -/
def bareLines (parts : List (List Char)) : List (List Char) := (endLines parts).filter fun line => !isComment line

theorem stripComments_eq (cs : List Char) : stripComments cs = join '\n' (bareLines (splitOn '\n' cs)) := rfl

section Commented

variable {cs text text' line : List Char} {parts rest : List (List Char)}

theorem bareLines_append (filled : rest ≠ []) (parts : List (List Char)) :
    bareLines (parts ++ rest) = (parts.map (dropLast '\r')).filter (fun line => !isComment line) ++ bareLines rest := by
  rw [bareLines, endLines_append filled, List.filter_append, bareLines]

theorem bareLines_cons_comment (comment : isComment line = true) (filled : rest ≠ []) :
    bareLines (line :: rest) = bareLines rest := by
  have dropped := bareLines_append filled [line]
  simpa [comment] using dropped

theorem bareLines_comment (comment : isComment line = true) : bareLines [line] = [] := by
  have filled : line.isEmpty = false := by simpa using ne_nil_of_isComment comment
  simp [bareLines, endLines, filled, comment]

theorem bareLines_singleton (bare : isComment line = false) (filled : line ≠ []) : bareLines [line] = [line] := by
  simp [bareLines, endLines, filled, bare]

/-- The texts are the same up to line ends at their end. -/
def SameBody (cs ds : List Char) : Prop := cs.rdropWhile isLineEnd = ds.rdropWhile isLineEnd

theorem sameBody_append {ends ends' : List Char} (only : ∀ c ∈ ends, isLineEnd c = true)
    (only' : ∀ c ∈ ends', isLineEnd c = true) (cs : List Char) : SameBody (cs ++ ends) (cs ++ ends') := by
  have body {ends : List Char} (only : ∀ c ∈ ends, isLineEnd c = true) :
      (cs ++ ends).rdropWhile isLineEnd = cs.rdropWhile isLineEnd := by
    have only : ∀ c ∈ ends.reverse, isLineEnd c = true := by simpa using only
    rw [List.rdropWhile, List.reverse_append, List.dropWhile_append_of_pos only, List.rdropWhile]
  exact (body only).trans (body only').symm

/-- Line ends at the very end of a text make no difference to what it is read as. -/
theorem SameBody.read_eq {cs ds : List Char} (same : SameBody cs ds) : Json.read cs = Json.read ds := by
  have ends (cs : List Char) : ∀ c ∈ cs.rtakeWhile isLineEnd, isLineEnd c = true := fun _ => List.mem_rtakeWhile_imp
  have alike {cs ds : List Char} (same : SameBody cs ds) : Alike cs ds := by
    have body := (Alike.ends (ends cs) (ends ds)).append (cs.rdropWhile isLineEnd)
    rw [List.rdropWhile_append_rtakeWhile] at body
    rwa [show cs.rdropWhile isLineEnd = ds.rdropWhile isLineEnd from same, List.rdropWhile_append_rtakeWhile] at body
  exact Option.ext fun _ => ⟨read_alike (alike same), read_alike (alike same.symm)⟩

/-- The last line, once ended, loses a return, or is empty and no longer left out. -/
theorem sameBody_ended_last (kept : List (List Char)) (final : List Char) :
    SameBody (join '\n' (kept ++ [dropLast '\r' final].filter fun line => !isComment line))
      (join '\n' (kept ++ bareLines [final])) := by
  cases comment : isComment final with
  | true =>
    rw [bareLines_comment comment]
    simp [comment, SameBody]
  | false =>
    have listed : [dropLast '\r' final].filter (fun line => !isComment line) = [dropLast '\r' final] := by simp [comment]
    rw [listed, join_concat]
    by_cases empty : final = []
    · subst empty
      have none : bareLines [[]] = [] := rfl
      rw [none, List.append_nil]
      rcases List.eq_nil_or_concat' kept with rfl | ⟨front, last, rfl⟩
      · rfl
      · rw [join_concat, List.flatMap_append]
        have feed : ∀ c ∈ ['\n'], isLineEnd c = true := by simp [isLineEnd]
        have ended := sameBody_append feed (List.forall_mem_nil _) (front.flatMap (· ++ ['\n']) ++ last)
        simpa [dropLast] using ended
    · rw [bareLines_singleton comment empty, join_concat]
      obtain ⟨last, ends, same⟩ := exists_dropLast '\r' final
      have only : ∀ c ∈ last, isLineEnd c = true := by rcases ends with rfl | rfl <;> simp [isLineEnd]
      have ended := sameBody_append (List.forall_mem_nil _) only (kept.flatMap (· ++ ['\n']) ++ dropLast '\r' final)
      rwa [List.append_nil, List.append_assoc, ← same] at ended

section Between

variable {front : List Char} (starts : StartsLine front) (comment : IsCommentLine line)
include starts comment

theorem stripComments_before (back : List Char) :
    stripComments (front ++ (line ++ '\n' :: back)) = stripComments (front ++ back) := by
  obtain ⟨comment, single⟩ := comment
  rw [stripComments_eq, stripComments_eq]
  rcases starts with rfl | ⟨cs, rfl⟩
  · rw [List.nil_append, List.nil_append, splitOn_append_cons single, bareLines_cons_comment comment (splitOn_ne_nil _ _)]
  · simp only [List.append_assoc, List.singleton_append]
    rw [splitOn_append_separator _ cs, splitOn_append_separator _ cs, splitOn_append_cons single,
      bareLines_append (List.cons_ne_nil _ _), bareLines_cons_comment comment (splitOn_ne_nil _ _),
      bareLines_append (splitOn_ne_nil _ _)]

theorem stripComments_last : stripComments (front ++ line) = stripComments front := by
  obtain ⟨comment, single⟩ := comment
  rw [stripComments_eq, stripComments_eq]
  rcases starts with rfl | ⟨cs, rfl⟩
  · rw [List.nil_append, splitOn_of_free single, bareLines_comment comment]
    rfl
  · simp only [List.append_assoc, List.singleton_append]
    rw [splitOn_append_separator _ cs, splitOn_append_separator _ cs, splitOn_of_free single,
      bareLines_append (List.cons_ne_nil _ _), bareLines_comment comment, bareLines_append (splitOn_ne_nil _ _)]
    rfl

end Between

/-- After a last line that is not ended, a comment ends it. -/
theorem sameBody_after (text : List Char) (comment : IsCommentLine line) :
    SameBody (stripComments (text ++ '\n' :: line)) (stripComments text) := by
  obtain ⟨comment, single⟩ := comment
  obtain ⟨front, final, split⟩ := exists_splitOn_concat '\n' text
  rw [stripComments_eq, stripComments_eq, splitOn_append_separator, splitOn_of_free single,
    bareLines_append (List.cons_ne_nil _ _), bareLines_comment comment, split, List.append_nil,
    bareLines_append (List.cons_ne_nil _ _), List.map_append, List.filter_append]
  exact sameBody_ended_last _ final

theorem sameBody_of_commented (commented : Relation.ReflTransGen Commented text text') :
    SameBody (stripComments text') (stripComments text) := by
  induction commented with
  | refl => rfl
  | tail _ commented ih =>
    refine Eq.trans ?_ ih
    cases commented with
    | before starts line back => rw [stripComments_before starts line]
    | last starts line => rw [stripComments_last starts line]
    | after _ line => exact sameBody_after _ line

theorem parse_of_commented (commented : Relation.ReflTransGen Commented text text') :
    parse (String.ofList text') = parse (String.ofList text) := by
  rw [parse, parse, String.toList_ofList, String.toList_ofList, (sameBody_of_commented commented).read_eq]

end Commented

end Spreadsheet.Settings
