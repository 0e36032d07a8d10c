import Spreadsheet.Session.Command

/-! Keys. With a command modifier they are shortcuts; otherwise they go to the open edit, or to the grid. -/
namespace Spreadsheet

inductive Key
  | char (c : Char)
  | enter
  | tab
  | escape
  | backspace
  | delete
  | up
  | down
  | left
  | right
  | f2
  deriving DecidableEq, Repr

structure Modifiers where
  control : Bool := false
  alt : Bool := false
  shift : Bool := false
  platform : Bool := false
  deriving DecidableEq, Repr, Inhabited

def Modifiers.isCommand (m : Modifiers) : Bool := m.control || m.platform

/-- What becomes of a key: the session takes it, leaves it to others, or asks for the find and replace panel. -/
inductive KeyOutcome
  | consumed
  | notConsumed
  | openFindReplace
  deriving DecidableEq, Repr

namespace Session

variable {γ σ : Type} [Clipboard γ]

/-- Shortcuts that belong to the text being typed while an edit is open. -/
def textShortcuts : List Char := ['z', 'y', 'c', 'x', 'v', 'a']

def shortcut (c : Char) (shift : Bool) (s : Session γ σ) : KeyOutcome × Session γ σ :=
  if s.edit.isSome && c ∈ textShortcuts then (.notConsumed, s)
  else match c with
    | 'z' => (.consumed, (if shift then s.redo else s.undo).2)
    | 'y' => (.consumed, s.redo.2)
    | 'c' => (.consumed, s.copy.2)
    | 'x' => (.consumed, s.cut)
    | 'v' => (.consumed, s.paste)
    | 'a' => (.consumed, s.selectAll)
    | 'b' => (.consumed, s.run (.toggleStyle .bold))
    | 'i' => (.consumed, s.run (.toggleStyle .italic))
    | 'u' => (.consumed, s.run (.toggleStyle .underline))
    | 'f' => (.openFindReplace, s)
    | 'h' => (.openFindReplace, s)
    | _ => (.notConsumed, s)

def stride (shift : Bool) : Int := if shift then -1 else 1

def editKey (k : Key) (shift : Bool) (s : Session γ σ) : KeyOutcome × Session γ σ :=
  match k with
  | .enter => (.consumed, s.confirmAndMove (stride shift) 0)
  | .tab => (.consumed, s.confirmAndMove 0 (stride shift))
  | .escape => (.consumed, s.cancelEdit)
  | .backspace => (.consumed, s.backspace)
  | .char c => if Text.isControl c then (.notConsumed, s) else (.consumed, s.typeChar c)
  | _ => (.notConsumed, s)

def arrow (dr dc : Int) (shift : Bool) (s : Session γ σ) : KeyOutcome × Session γ σ :=
  (.consumed, if shift then s.extendSelection dr dc else s.moveSelection dr dc)

def gridKey (k : Key) (shift : Bool) (s : Session γ σ) : KeyOutcome × Session γ σ :=
  match k with
  | .up => s.arrow (-1) 0 shift
  | .down => s.arrow 1 0 shift
  | .left => s.arrow 0 (-1) shift
  | .right => s.arrow 0 1 shift
  | .enter => (.consumed, s.moveSelection (stride shift) 0)
  | .tab => (.consumed, s.moveSelection 0 (stride shift))
  | .f2 => (.consumed, s.startEdit none)
  | .delete => (.consumed, s.run .clear)
  | .backspace => (.consumed, s.run .clear)
  | .escape => (.consumed, s.select s.selection.active)
  | .char c => if Text.isControl c then (.notConsumed, s) else (.consumed, s.startEdit (some (String.singleton c)))

def press (k : Key) (m : Modifiers) (s : Session γ σ) : KeyOutcome × Session γ σ :=
  if m.isCommand then
    match k with
    | .char c => s.shortcut c.toLower m.shift
    | _ => (.notConsumed, s)
  else if s.edit.isSome then s.editKey k m.shift
  else s.gridKey k m.shift

end Session

end Spreadsheet
