import Spreadsheet.Session.Keyboard

/-! Everything that can be done to a session, as data, and what it answers. -/
namespace Spreadsheet

inductive Action
  | press (key : Key) (modifiers : Modifiers)
  | startEdit (seed : Option String)
  | setEditText (text : String)
  | typeChar (c : Char)
  | backspace
  | confirmEdit
  | confirmAndMove (dr dc : Int)
  | cancelEdit
  | selectCell (p : Position)
  | selectAll
  | moveSelection (dr dc : Int)
  | extendSelection (dr dc : Int)
  | mouseDown (p : Position) (shift : Bool)
  | mouseEnter (p : Position)
  | mouseUp
  | fillHandleDown
  | resizeHandleDown (axis : Axis) (index : Nat)
  | resizeDrag (size : Nat)
  | run (command : Command)
  | copy
  | cut
  | paste
  | addSheet
  | renameSheet (index : Nat) (name : String)
  | deleteSheet (index : Nat)
  | switchSheet (index : Nat)
  | importCsv (content : String)
  | importCsvFile (content : List UInt8)
  | setTitle (title : String)
  | undo
  | redo
  | maybeSave
  | saveNow
  | advance (milliseconds : Nat)

inductive Answer
  | nothing
  | flag (b : Bool)
  | index (n : Nat)
  | renamed (outcome : RenameOutcome)
  | key (outcome : KeyOutcome)
  deriving DecidableEq, Repr

namespace Session

variable {γ σ : Type} [Clipboard γ] [Archive σ]

def answering {α : Type} (tag : α → Answer) (r : α × Session γ σ) : Answer × Session γ σ := (tag r.1, r.2)

def silently (s : Session γ σ) : Answer × Session γ σ := (.nothing, s)

def perform (a : Action) (s : Session γ σ) : Answer × Session γ σ :=
  match a with
  | .press key modifiers => answering .key (s.press key modifiers)
  | .startEdit seed => silently (s.startEdit seed)
  | .setEditText text => silently (s.setEditText text)
  | .typeChar c => silently (s.typeChar c)
  | .backspace => silently s.backspace
  | .confirmEdit => silently s.finishEdit
  | .confirmAndMove dr dc => silently (s.confirmAndMove dr dc)
  | .cancelEdit => silently s.cancelEdit
  | .selectCell p => silently (s.selectCell p)
  | .selectAll => silently s.selectAll
  | .moveSelection dr dc => silently (s.moveSelection dr dc)
  | .extendSelection dr dc => silently (s.extendSelection dr dc)
  | .mouseDown p shift => silently (s.mouseDown p shift)
  | .mouseEnter p => silently (s.mouseEnter p)
  | .mouseUp => silently s.mouseUp
  | .fillHandleDown => silently s.fillHandleDown
  | .resizeHandleDown axis index => silently (s.resizeHandleDown axis index)
  | .resizeDrag size => silently (s.resizeDrag size)
  | .run command => silently (s.run command)
  | .copy => answering .flag s.copy
  | .cut => silently s.cut
  | .paste => silently s.paste
  | .addSheet => answering .index s.addSheet
  | .renameSheet index name => answering .renamed (s.renameSheet index name)
  | .deleteSheet index => answering .flag (s.deleteSheet index)
  | .switchSheet index => answering .flag (s.switchSheet index)
  | .importCsv content => silently (s.importCsv content)
  | .importCsvFile content => silently (s.importCsvFile content)
  | .setTitle title => silently (s.setTitle title)
  | .undo => answering .flag s.undo
  | .redo => answering .flag s.redo
  | .maybeSave => answering .flag s.maybeSave
  | .saveNow => silently s.saveNow
  | .advance milliseconds => silently (s.advance milliseconds)

def performAll (actions : List Action) (s : Session γ σ) : Session γ σ := actions.foldl (fun s a => (s.perform a).2) s

end Session

end Spreadsheet
