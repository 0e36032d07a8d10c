import Spreadsheet.Json.Reading
import Spreadsheet.Json.View
import Spreadsheet.Sheet.Pasting
import Spreadsheet.Text.Blank
import Spreadsheet.Text.Utf8

/-! Editor settings and their file: JSON with one setting a line, in which lines that start with two slashes are
comments. Settings that are absent have their defaults, and sizes and limits are at least one. -/
namespace Spreadsheet

open Json Text

structure Settings where
  historyLimit : Nat := 50
  /-- Milliseconds of quiet before the document is saved. -/
  autosaveDelay : Nat := 2000
  defaultRows : Nat := 50
  defaultCols : Nat := 26
  columnWidth : Nat := 100
  rowHeight : Nat := 24
  pastePolicy : GrowPolicy := .grow
  deriving DecidableEq, Repr, Inhabited

namespace GrowPolicy

def all : List GrowPolicy := [grow, clamp]

def name : GrowPolicy → String
  | grow => "grow"
  | clamp => "clamp"

def ofJson? (j : Json) : Option GrowPolicy := j.asChoice.bind fun cs => all.find? fun p => p.name.toList = cs

end GrowPolicy

namespace Settings

def members (s : Settings) : List (String × Json) :=
  [("history.limit", ofNat s.historyLimit), ("autosave.debounceMs", ofNat s.autosaveDelay),
    ("grid.defaultRows", ofNat s.defaultRows), ("grid.defaultCols", ofNat s.defaultCols),
    ("grid.defaultColumnWidth", ofNat s.columnWidth), ("grid.defaultRowHeight", ofNat s.rowHeight),
    ("paste.growPolicy", ofString s.pastePolicy.name)]

def names : List String := ({} : Settings).members.map (·.1)

def ofJson? (j : Json) : Option Settings := do
  let r ← j.asRecord names
  return {
    historyLimit := ← field r "history.limit" 50 (asNat indexLimit)
    autosaveDelay := ← field r "autosave.debounceMs" 2000 (asNat indexLimit)
    defaultRows := ← field r "grid.defaultRows" 50 (asNat indexLimit)
    defaultCols := ← field r "grid.defaultCols" 26 (asNat indexLimit)
    columnWidth := ← field r "grid.defaultColumnWidth" 100 (asNat sizeLimit)
    rowHeight := ← field r "grid.defaultRowHeight" 24 (asNat sizeLimit)
    pastePolicy := ← field r "paste.growPolicy" .grow GrowPolicy.ofJson? }

def atLeastOne (s : Settings) : Settings :=
  { s with
    historyLimit := max s.historyLimit 1
    defaultRows := max s.defaultRows 1
    defaultCols := max s.defaultCols 1
    columnWidth := max s.columnWidth 1
    rowHeight := max s.rowHeight 1 }

def isComment (line : List Char) : Bool := ['/', '/'].isPrefixOf (trimChars line)

def stripComments (cs : List Char) : List Char := join '\n' ((lines cs).filter fun line => !isComment line)

def parse (text : String) : Option Settings :=
  ((Json.read (stripComments text.toList)).bind ofJson?).map atLeastOne

def writeMember (name : String) (value : Json) : List Char := ' ' :: ' ' :: (quote (escape name.toList) ++ ':' :: ' ' :: value.write)

def writeMembers : List (String × Json) → List (List Char)
  | [] => []
  | [(name, value)] => [writeMember name value]
  | (name, value) :: rest => (writeMember name value ++ [',']) :: writeMembers rest

def toText (s : Settings) : String :=
  String.ofList (join '\n' ([['\x7b']] ++ writeMembers s.members ++ [['\x7d']]))

def defaultText : String := "\x7b
    // Undo steps kept per document
    \"history.limit\": 50,

    // Quiet time after the last edit before the document is saved
    \"autosave.debounceMs\": 2000,

    // Size of a new sheet
    \"grid.defaultRows\": 50,
    \"grid.defaultCols\": 26,
    \"grid.defaultColumnWidth\": 100,
    \"grid.defaultRowHeight\": 24,

    // Pasting past the sheet edge: \"grow\" or \"clamp\"
    \"paste.growPolicy\": \"grow\"
\x7d
"

/-- The settings that a file holds; one that cannot be read has the defaults. -/
def loadFile (content : List UInt8) : Settings := (((Utf8.decode? content).map String.ofList).bind parse).getD {}

end Settings

end Spreadsheet
