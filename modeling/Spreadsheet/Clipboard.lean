/-! What a session needs of a clipboard: reading and writing plain text, each of which may fail. The clipboard
in memory fails when it is told to. -/
namespace Spreadsheet

inductive ClipboardError
  | denied
  | unavailable
  | other (detail : String)
  deriving DecidableEq, Repr

def ClipboardError.message : ClipboardError → String
  | denied => "clipboard access denied"
  | unavailable => "clipboard unavailable"
  | other detail => "clipboard error: " ++ detail

class Clipboard (γ : Type) where
  read : γ → Except ClipboardError String × γ
  write : String → γ → Except ClipboardError Unit × γ

structure MemoryClipboard where
  text : String := ""
  deny : Bool := false
  deriving DecidableEq, Repr, Inhabited

namespace MemoryClipboard

def read (c : MemoryClipboard) : Except ClipboardError String := if c.deny then .error .denied else .ok c.text

def write (text : String) (c : MemoryClipboard) : Except ClipboardError Unit × MemoryClipboard :=
  if c.deny then (.error .denied, c) else (.ok (), { c with text })

instance : Clipboard MemoryClipboard := ⟨fun c => (c.read, c), write⟩

end MemoryClipboard

end Spreadsheet
