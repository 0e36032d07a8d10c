/-! Quoted text: a quote inside is written twice, and the first quote that stands alone closes the text. -/
namespace Spreadsheet.Text.Quoted

def body : List Char → List Char
  | [] => []
  | c :: cs => if c = '"' then '"' :: '"' :: body cs else c :: body cs

def write (cs : List Char) : List Char := '"' :: (body cs ++ ['"'])

/-- Reads what follows an opening quote: the text, and what comes after its closing quote. -/
def read : List Char → Option (List Char × List Char)
  | [] => none
  | '"' :: '"' :: cs => (read cs).map fun r => ('"' :: r.1, r.2)
  | c :: cs => if c = '"' then some ([], cs) else (read cs).map fun r => (c :: r.1, r.2)

theorem eq_body_of_read {cs text rest : List Char} (h : read cs = some (text, rest)) : cs = body text ++ '"' :: rest := by
  fun_induction read cs generalizing text rest with
  | case1 => simp at h
  | case2 cs ih =>
    obtain ⟨r, inner, pair⟩ := Option.map_eq_some_iff.1 h
    cases pair
    simp [body, ih inner]
  | case3 cs => cases h; simp [body]
  | case4 c cs _ other ih =>
    obtain ⟨r, inner, pair⟩ := Option.map_eq_some_iff.1 h
    cases pair
    simp [body, other, ih inner]

theorem length_of_read {cs text rest : List Char} (h : read cs = some (text, rest)) : rest.length < cs.length := by
  have := congrArg List.length (eq_body_of_read h)
  simp only [List.length_append, List.length_cons] at this
  omega

end Spreadsheet.Text.Quoted
