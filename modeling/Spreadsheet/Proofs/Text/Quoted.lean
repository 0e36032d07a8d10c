import Spreadsheet.Proofs.Text.Numeral
import Spreadsheet.Text.Quoted

/-! Quoted text read back: what was written is read whole, and no quote follows it. -/
namespace Spreadsheet.Text.Quoted

theorem read_close {rest : List Char} (stops : Stops (· == '"') rest) : read ('"' :: rest) = some ([], rest) := by
  rw [read.eq_def]
  split
  next eq => cases eq
  next eq =>
    cases eq
    cases stops '"' rfl
  next eq =>
    cases eq
    rfl

theorem read_other {c : Char} (other : c ≠ '"') (cs : List Char) :
    read (c :: cs) = (read cs).map fun r => (c :: r.1, r.2) := by
  rw [read.eq_def]
  split
  next eq => cases eq
  next eq =>
    cases eq
    exact absurd rfl other
  next eq =>
    cases eq
    exact if_neg other

theorem read_body (cs : List Char) {rest : List Char} (stops : Stops (· == '"') rest) :
    read (body cs ++ '"' :: rest) = some (cs, rest) := by
  induction cs with
  | nil => exact read_close stops
  | cons c cs ih =>
    rw [body]
    split
    next quote =>
      rw [List.cons_append, List.cons_append, read, ih, quote]
      rfl
    next other =>
      rw [List.cons_append, read_other other, ih]
      rfl

theorem stops_of_read {cs text rest : List Char} (found : read cs = some (text, rest)) :
    Stops (· == '"') rest := by
  fun_induction read cs generalizing text rest with
  | case1 => cases found
  | case2 cs ih =>
    obtain ⟨r, inner, pair⟩ := Option.map_eq_some_iff.1 found
    cases pair
    exact ih inner
  | case3 cs single =>
    cases found
    intro c first
    rw [beq_eq_false_iff_ne]
    intro same
    subst same
    cases cs with
    | nil => cases first
    | cons d others =>
      cases first
      exact single others rfl rfl
  | case4 c cs _ other ih =>
    obtain ⟨r, inner, pair⟩ := Option.map_eq_some_iff.1 found
    cases pair
    exact ih inner

theorem read_append {cs text after rest : List Char} (found : read cs = some (text, after))
    (stops : Stops (· == '"') rest) :
    read (cs ++ rest) = some (text, after ++ rest) := by
  have stops' : Stops (· == '"') (after ++ rest) := by
    cases after with
    | nil => exact stops
    | cons c after =>
      have first : Stops (· == '"') (c :: after) := stops_of_read found
      exact first
  rw [eq_body_of_read found, List.append_assoc, List.cons_append]
  exact read_body text stops'

theorem read_unquoted {cs : List Char} (plain : '"' ∉ cs) : read cs = none := by
  induction cs with
  | nil => rfl
  | cons c cs ih =>
    obtain ⟨other, rest⟩ := not_or.1 (mt List.mem_cons.2 plain)
    rw [read_other (Ne.symm other), ih rest]
    rfl

theorem read_append_none {cs rest : List Char} (unclosed : read cs = none) (plain : '"' ∉ rest) :
    read (cs ++ rest) = none := by
  fun_induction read cs with
  | case1 => exact read_unquoted plain
  | case2 cs ih =>
    rw [List.cons_append, List.cons_append, read, ih (Option.map_eq_none_iff.1 unclosed)]
    rfl
  | case3 => cases unclosed
  | case4 c cs _ other ih =>
    rw [List.cons_append, read_other other, ih (Option.map_eq_none_iff.1 unclosed)]
    rfl

end Spreadsheet.Text.Quoted
