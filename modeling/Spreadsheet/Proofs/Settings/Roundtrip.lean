import Spreadsheet.Proofs.Json.View
import Spreadsheet.Proofs.Settings.Comments

/-! Settings come back from the file they are saved in, one member a line, with limits and sizes of zero raised to one. -/
namespace Spreadsheet

open Json Text

theorem GrowPolicy.ofJson?_name (p : GrowPolicy) : GrowPolicy.ofJson? (ofString p.name) = some p := by
  rw [ofJson?, asChoice_ofString]
  cases p <;> decide

namespace Settings

/-- The value is read after a space, in front of anything that no number goes on with. -/
def IsSimple (v : Json) : Prop := ∀ rest, Stops isNumeric rest → Reads (.value v) (' ' :: (v.write ++ rest)) rest

theorem skip_write {v : Json} (printed : Printed v) (rest : List Char) : skip (' ' :: (v.write ++ rest)) = v.write ++ rest := by
  obtain ⟨c, cs, same, solid, _⟩ := printed.head
  rw [same]
  exact skip_cons solid (cs ++ rest)

theorem isSimple_ofNat (n : Nat) : IsSimple (ofNat n) := by
  intro rest stops
  refine .number ?_
  rw [skip_write (printed_ofNat n)]
  exact readNumber_numeral n stops

theorem isSimple_ofString (s : String) : IsSimple (ofString s) := by
  intro rest _
  have quoted : (ofString s).write ++ rest = '"' :: (escape s.toList ++ '"' :: rest) := by simp [ofString, write, quote]
  exact .string ((skip_write (printed_ofString s) rest).trans quoted) (scanBody_escape s.toList rest)

theorem readKey_writeMember (name : String) (v : Json) (rest : List Char) :
    readKey (writeMember name v ++ rest) = some (escape name.toList, ' ' :: (v.write ++ rest)) := by
  have split : writeMember name v ++ rest = ' ' :: ' ' :: (quote (escape name.toList) ++ ':' :: ' ' :: (v.write ++ rest)) := by
    simp [writeMember]
  rw [split]
  exact readKey_quote _ _

/-- Members with simple values are read from the lines that they are written in. -/
theorem reads_writeMembers {m : String × Json} {ms : List (String × Json)} (simple : ∀ m' ∈ m :: ms, IsSimple m'.2) :
    Reads (.members ((m :: ms).map fun m => (escape m.1.toList, m.2)))
      (join '\n' (writeMembers (m :: ms) ++ [['\x7d']])) [] := by
  obtain ⟨name, v⟩ := m
  have first := simple (name, v) List.mem_cons_self
  induction ms generalizing name v with
  | nil =>
    have line : join '\n' (writeMembers [(name, v)] ++ [['\x7d']]) = writeMember name v ++ ['\n', '\x7d'] := rfl
    rw [line]
    exact .lastMember (readKey_writeMember name v _) (first _ (stops_cons rfl)) rfl
  | cons m ms ih =>
    obtain ⟨next, w⟩ := m
    have others := ih next w (fun m' inside => simple m' (List.mem_cons_of_mem _ inside))
      (simple (next, w) (List.mem_cons_of_mem _ List.mem_cons_self))
    have line : join '\n' (writeMembers ((name, v) :: (next, w) :: ms) ++ [['\x7d']]) =
        writeMember name v ++ ',' :: '\n' :: join '\n' (writeMembers ((next, w) :: ms) ++ [['\x7d']]) := by
      rw [writeMembers, List.cons_append, join_cons _ (by simp), List.append_assoc]
      · rfl
      · simp
    rw [line]
    refine .nextMember (readKey_writeMember name v _) (first _ (stops_cons rfl)) rfl (others.of_skip_eq rfl)

def fields (s : Settings) : List Field := s.members.map fun m => ⟨m.1, true, m.2⟩

theorem ofFields_fields (s : Settings) : ofFields s.fields = .object (s.members.map fun m => (escape m.1.toList, m.2)) := rfl

theorem read_toText (s : Settings) : Json.read s.toText.toList = some (ofFields s.fields) := by
  have simple : ∀ m ∈ s.members, IsSimple m.2 := by
    intro m inside
    simp only [members, List.mem_cons, List.not_mem_nil, or_false] at inside
    rcases inside with rfl | rfl | rfl | rfl | rfl | rfl | rfl
    all_goals first | exact isSimple_ofNat _ | exact isSimple_ofString _
  have lines : join '\n' ([['\x7b']] ++ writeMembers s.members ++ [['\x7d']]) =
      '\x7b' :: '\n' :: join '\n' (writeMembers s.members ++ [['\x7d']]) := by
    rw [List.append_assoc, List.singleton_append, join_cons _ (by simp)]
    rfl
  rw [toText, String.toList_ofList, lines, ofFields_fields]
  have members := reads_writeMembers simple
  refine read_eq_some_iff.2 ⟨[], .object rfl ?_ (members.of_skip_eq rfl), rfl⟩
  intro rest same
  cases same

/-- Are all settings numbers that can be read? -/
structure Fits (s : Settings) : Prop where
  historyLimit : s.historyLimit < indexLimit
  autosaveDelay : s.autosaveDelay < indexLimit
  defaultRows : s.defaultRows < indexLimit
  defaultCols : s.defaultCols < indexLimit
  columnWidth : s.columnWidth < sizeLimit
  rowHeight : s.rowHeight < sizeLimit

theorem ofJson?_fields {s : Settings} (fits : s.Fits) : ofJson? (ofFields s.fields) = some s := by
  have distinct : (s.fields.map Field.name).Nodup := by simp [fields, members]
  have record : (ofFields s.fields).asRecord names = some (kept s.fields) := asRecord_ofFields rfl distinct
  have number (name : String) (n absent limit : Nat) (low : n < limit) (inside : ⟨name, true, ofNat n⟩ ∈ s.fields) :
      field (kept s.fields) name absent (asNat limit) = some n := field_always distinct inside (asNat_ofNat low)
  have historyLimit := number "history.limit" s.historyLimit 50 _ fits.historyLimit (by simp [fields, members])
  have autosaveDelay := number "autosave.debounceMs" s.autosaveDelay 2000 _ fits.autosaveDelay (by simp [fields, members])
  have defaultRows := number "grid.defaultRows" s.defaultRows 50 _ fits.defaultRows (by simp [fields, members])
  have defaultCols := number "grid.defaultCols" s.defaultCols 26 _ fits.defaultCols (by simp [fields, members])
  have columnWidth := number "grid.defaultColumnWidth" s.columnWidth 100 _ fits.columnWidth (by simp [fields, members])
  have rowHeight := number "grid.defaultRowHeight" s.rowHeight 24 _ fits.rowHeight (by simp [fields, members])
  have pastePolicy : field (kept s.fields) "paste.growPolicy" .grow GrowPolicy.ofJson? = some s.pastePolicy :=
    field_always distinct (by simp [fields, members]) (GrowPolicy.ofJson?_name _)
  rw [ofJson?, bind_of_some record, bind_of_some historyLimit, bind_of_some autosaveDelay, bind_of_some defaultRows,
    bind_of_some defaultCols, bind_of_some columnWidth, bind_of_some rowHeight, bind_of_some pastePolicy]
  rfl

/-- Limits and sizes are one at least. -/
structure IsPositive (s : Settings) : Prop where
  historyLimit : 0 < s.historyLimit
  defaultRows : 0 < s.defaultRows
  defaultCols : 0 < s.defaultCols
  columnWidth : 0 < s.columnWidth
  rowHeight : 0 < s.rowHeight

theorem atLeastOne_of_isPositive {s : Settings} (positive : s.IsPositive) : s.atLeastOne = s := by
  simp only [atLeastOne, Nat.max_eq_left positive.historyLimit, Nat.max_eq_left positive.defaultRows,
    Nat.max_eq_left positive.defaultCols, Nat.max_eq_left positive.columnWidth, Nat.max_eq_left positive.rowHeight]

theorem parse_of_read {text : String} {v : Json} (found : Json.read text.toList = some v) :
    parse text = (ofJson? v).map atLeastOne := by
  rw [parse, read_stripComments found, Option.bind_some]

/-- Settings come back from their text with limits and sizes raised to one; dropping comments does not change what a JSON
text stands for; and comments put into any text do not change what is made of it. In front of a line they leave no trace, so
that what is said about a text that cannot be read is the same; after a last line that is not ended, they end it. -/
theorem parse_survives :
    (∀ s : Settings, s.Fits → parse s.toText = some s.atLeastOne ∧ (s.IsPositive → parse s.toText = some s)) ∧
      (∀ text : String, (Json.read text.toList).isSome = true →
        parse text = ((Json.read text.toList).bind ofJson?).map atLeastOne) ∧
      (∀ text text', Relation.ReflTransGen Commented text text' →
        parse (String.ofList text') = parse (String.ofList text) ∧
          SameBody (stripComments text') (stripComments text)) ∧
      ∀ front line, StartsLine front → IsCommentLine line →
        stripComments (front ++ line) = stripComments front ∧
          ∀ back, stripComments (front ++ (line ++ '\n' :: back)) = stripComments (front ++ back) := by
  refine ⟨fun s fits => ?_, fun text readable => ?_,
    fun text text' commented => ⟨parse_of_commented commented, sameBody_of_commented commented⟩,
    fun front line starts comment => ⟨stripComments_last starts comment, stripComments_before starts comment⟩⟩
  · have parsed : parse s.toText = some s.atLeastOne := by
      rw [parse_of_read s.read_toText, ofJson?_fields fits, Option.map_some]
    refine ⟨parsed, fun positive => ?_⟩
    rw [parsed, atLeastOne_of_isPositive positive]
  · obtain ⟨v, found⟩ := Option.isSome_iff_exists.1 readable
    rw [parse_of_read found, found, Option.bind_some]

/-- Settings without history, and with columns that cannot be seen. -/
def cramped : Settings := { historyLimit := 0, columnWidth := 0 }

theorem parse_survives_cramped :
    cramped.Fits ∧ parse cramped.toText = some { historyLimit := 1, columnWidth := 1 } ∧
      (Json.read ['\x7b', '\x7d']).isSome = true ∧
      Commented ['\x7b', '\x7d'] ['/', '/', '\n', '\x7b', '\x7d'] ∧
      parse (String.ofList ['/', '/', '\n', '\x7b', '\x7d']) = some {} := by
  have fits : cramped.Fits := by constructor <;> decide
  have readable : (Json.read (String.ofList ['\x7b', '\x7d']).toList).isSome = true := by decide +kernel
  have slashes : IsCommentLine ['/', '/'] := ⟨by decide +kernel, by decide⟩
  have commented : Commented ['\x7b', '\x7d'] ['/', '/', '\n', '\x7b', '\x7d'] :=
    .before (.inl rfl) slashes ['\x7b', '\x7d']
  have saved := (parse_survives.1 cramped fits).1
  have plain := parse_survives.2.1 (String.ofList ['\x7b', '\x7d']) readable
  have inserted := (parse_survives.2.2.1 _ _ (.single commented)).1
  refine ⟨fits, saved, by decide +kernel, commented, inserted.trans (plain.trans ?_)⟩
  decide +kernel

end Settings

end Spreadsheet
