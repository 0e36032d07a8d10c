import Spreadsheet.Json.Tree
import Spreadsheet.Table

/-! Views of JSON trees as the data they stand for. A record is an object whose known members appear once and
whose other members are skipped, or an array of its fields in order; a choice is its name, or an object with
that name alone and nothing in it. -/
namespace Spreadsheet.Json

def asBool : Json → Option Bool
  | bool b => some b
  | _ => none

def asChars : Json → Option (List Char)
  | string body => unescape body
  | _ => none

def asString (j : Json) : Option String := j.asChars.map String.ofList

/-- A natural number below the limit, written without point, exponent or sign. -/
def asNat (limit : Nat) : Json → Option Nat
  | number text => Text.readNumeral limit text
  | _ => none

def asList : Json → Option (List Json)
  | array items => some items
  | _ => none

def asNullable {α : Type} (view : Json → Option α) : Json → Option (Option α)
  | null => some none
  | j => (view j).map some

def asChoice : Json → Option (List Char)
  | string body => unescape body
  | object [(body, null)] => unescape body
  | _ => none

def asMembers : Json → Option (List (List Char × Json))
  | object members => members.mapM fun (k, v) => (unescape k).map (·, v)
  | _ => none

/-- An index written as a key: a number without leading zeros and without escapes. -/
def readIndex (body : List Char) : Option Nat :=
  if body.head? = some '0' && body ≠ ['0'] then none else Text.readNumeral Text.indexLimit body

/-- The members of an object whose keys are indices; a later member replaces an earlier one. -/
def asIndexed {α : Type} (view : Json → Option α) : Json → Option (Table Nat α)
  | object members => (members.mapM fun (k, v) => do return (← readIndex k, ← view v)).map Table.ofList
  | _ => none

def asRecord (names : List String) (j : Json) : Option (List (String × Json)) :=
  match j with
  | array items => if items.length ≤ names.length then some (names.zip items) else none
  | _ => do
    let members ← j.asMembers
    let known := (members.map fun (k, v) => (String.ofList k, v)).filter fun (k, _) => k ∈ names
    if (known.map (·.1)).Nodup then some known else none

def field {α : Type} (record : List (String × Json)) (name : String) (absent : α) (view : Json → Option α) : Option α :=
  match record.lookup name with
  | some j => view j
  | none => some absent

def required {α : Type} (record : List (String × Json)) (name : String) (view : Json → Option α) : Option α :=
  (record.lookup name).bind view

end Spreadsheet.Json
