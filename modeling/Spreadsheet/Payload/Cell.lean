import Spreadsheet.Cell
import Spreadsheet.Grid
import Spreadsheet.Json.View
import Spreadsheet.Range

/-! The records of cells, grids and ranges in a document. Fields that have their default are left out when
writing, and a field that is absent has its default when reading. -/
namespace Spreadsheet

open Json Text

/-- The member with its name, unless it is left out. -/
def member (name : String) (kept : Bool) (value : Json) : List (List Char × Json) :=
  if kept then [(escape name.toList, value)] else []

namespace NumberFormat

def all : List NumberFormat := [plain, number, currency, percent, date]

def name : NumberFormat → String
  | plain => "plain"
  | number => "number"
  | currency => "currency"
  | percent => "percent"
  | date => "date"

def ofJson? (j : Json) : Option NumberFormat := j.asChoice.bind fun cs => all.find? fun f => f.name.toList = cs

end NumberFormat

namespace Alignment

def all : List Alignment := [left, center, right]

def name : Alignment → String
  | left => "left"
  | center => "center"
  | right => "right"

def ofJson? (j : Json) : Option Alignment := j.asChoice.bind fun cs => all.find? fun a => a.name.toList = cs

end Alignment

namespace Borders

def toJson (b : Borders) : Json :=
  .object (member "top" true (.bool b.top) ++ member "bottom" true (.bool b.bottom) ++
    member "left" true (.bool b.left) ++ member "right" true (.bool b.right))

def ofJson? (j : Json) : Option Borders := do
  let r ← j.asRecord ["top", "bottom", "left", "right"]
  return {
    top := ← field r "top" false asBool
    bottom := ← field r "bottom" false asBool
    left := ← field r "left" false asBool
    right := ← field r "right" false asBool }

end Borders

namespace Cell

def toJson (c : Cell) : Json :=
  .object (member "value" true (ofString c.value) ++
    member "format" (c.format ≠ .plain) (ofString c.format.name) ++
    member "bold" c.bold (.bool true) ++
    member "italic" c.italic (.bool true) ++
    member "underline" c.underline (.bool true) ++
    member "strikethrough" c.strikethrough (.bool true) ++
    member "bgColor" c.background.isSome (ofString (c.background.getD "")) ++
    member "textColor" c.textColor.isSome (ofString (c.textColor.getD "")) ++
    member "align" (c.align ≠ .left) (ofString c.align.name) ++
    member "fontSize" c.fontSize.isSome (ofNat (c.fontSize.getD 0)) ++
    member "borders" (c.borders ≠ {}) c.borders.toJson)

def fieldNames : List String :=
  ["value", "format", "bold", "italic", "underline", "strikethrough", "bgColor", "textColor", "align", "fontSize", "borders"]

def ofJson? (j : Json) : Option Cell := do
  let r ← j.asRecord fieldNames
  return {
    value := ← field r "value" "" asString
    format := ← field r "format" .plain NumberFormat.ofJson?
    bold := ← field r "bold" false asBool
    italic := ← field r "italic" false asBool
    underline := ← field r "underline" false asBool
    strikethrough := ← field r "strikethrough" false asBool
    background := ← field r "bgColor" none (asNullable asString)
    textColor := ← field r "textColor" none (asNullable asString)
    align := ← field r "align" .left Alignment.ofJson?
    fontSize := ← field r "fontSize" none (asNullable (asNat sizeLimit))
    borders := ← field r "borders" {} Borders.ofJson? }

end Cell

namespace Range

def toJson (r : Range) : Json :=
  .object (member "startRow" true (ofNat r.startRow) ++ member "startCol" true (ofNat r.startCol) ++
    member "endRow" true (ofNat r.endRow) ++ member "endCol" true (ofNat r.endCol))

/-- Corners are read in the order in which they stand. -/
def ofJson? (j : Json) : Option Range := do
  let r ← j.asRecord ["startRow", "startCol", "endRow", "endCol"]
  return {
    startRow := ← required r "startRow" (asNat indexLimit)
    startCol := ← required r "startCol" (asNat indexLimit)
    endRow := ← required r "endRow" (asNat indexLimit)
    endCol := ← required r "endCol" (asNat indexLimit) }

end Range

inductive KeyError
  | noColon (key : String)
  | badRow (key : String)
  | badColumn (key : String)
  deriving DecidableEq, Repr

def KeyError.message : KeyError → String
  | noColon key => "cell key '" ++ key ++ "' is not row:col"
  | badRow key => "bad row in cell key '" ++ key ++ "'"
  | badColumn key => "bad column in cell key '" ++ key ++ "'"

namespace Position

/-- The key of a position in a grid: row and column with a colon between them. -/
def key (p : Position) : List Char := numeral p.row ++ ':' :: numeral p.col

/-- Reads a key; both numbers may carry a plus sign and leading zeros. -/
def ofKey (key : List Char) : Except KeyError Position :=
  match key.dropWhile (· ≠ ':') with
  | [] => .error (.noColon (String.ofList key))
  | _ :: colText => match readSignedNumeral indexLimit (key.takeWhile (· ≠ ':')), readSignedNumeral indexLimit colText with
    | none, _ => .error (.badRow (String.ofList key))
    | _, none => .error (.badColumn (String.ofList key))
    | some row, some col => .ok ⟨row, col⟩

end Position

namespace Grid

def toJson (g : Grid) : Json := .object (g.cells.entries.map fun (p, c) => (p.key, c.toJson))

/-- Of members with the same key text the last counts. Keys that name one cell in different ways are taken in the
order of their texts, the later replacing the earlier. -/
def ofJson? (j : Json) : Option Grid := do
  let members ← j.asMembers
  let cells ← members.mapM fun (k, v) => do return (String.ofList k, ← Cell.ofJson? v)
  let placed ← (Table.ofList cells).entries.mapM fun (k, c) => do return (← (Position.ofKey k.toList).toOption, c)
  return placed.foldl (fun g (p, c) => g.set p c) {}

end Grid

end Spreadsheet
