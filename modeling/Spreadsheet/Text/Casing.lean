import Spreadsheet.Text.CaseTable

/-! Texts in lower case. Characters are mapped one by one, save that a dotted capital I becomes two characters
and that a capital sigma takes its final form at the end of a word. -/
namespace Spreadsheet.Text

def CaseRun.holds (r : CaseRun) (n : Nat) : Bool := r.first ≤ n && n ≤ r.last && (n - r.first) % r.step == 0

def lowerChar (c : Char) : Char :=
  match lowerRuns.find? (·.holds c.toNat) with
  | some r => Char.ofNat (c.toNat + r.offset).toNat
  | none => c

def liesIn (stretches : List (Nat × Nat)) (c : Char) : Bool := stretches.any fun s => s.1 ≤ c.toNat && c.toNat ≤ s.2

def meetsCased (cs : List Char) : Bool := (cs.find? fun c => !liesIn caseIgnoredStretches c).any (liesIn casedStretches)

def capitalSigma : Char := 'Σ'

def dottedCapitalI : Char := 'İ'

/-- Lower-case form of a character, given the characters before it, nearest first, and those after it. -/
def lowerWithin (before : List Char) (c : Char) (after : List Char) : List Char :=
  if c = capitalSigma then [if meetsCased before && !meetsCased after then 'ς' else 'σ']
  else if c = dottedCapitalI then ['i', '\u0307']
  else [lowerChar c]

def lowerFrom (before : List Char) : List Char → List Char
  | [] => []
  | c :: cs => lowerWithin before c cs ++ lowerFrom (c :: before) cs

def lower (s : String) : String := String.ofList (lowerFrom [] s.toList)

end Spreadsheet.Text
