import Spreadsheet.Table

/-! Where a session keeps its document: texts saved and loaded by the document's name, each of which may fail.
The archive in memory counts what was saved, and fails when it is told to. -/
namespace Spreadsheet

inductive ArchiveError
  | unavailable
  | rejected (detail : String)
  deriving DecidableEq, Repr

def ArchiveError.message : ArchiveError → String
  | unavailable => "document store unavailable"
  | rejected detail => "save rejected: " ++ detail

class Archive (σ : Type) where
  save : String → String → σ → Except ArchiveError Unit × σ
  load : String → σ → Except ArchiveError (Option String) × σ

structure MemoryArchive where
  documents : Table String String := ∅
  saves : Nat := 0
  fail : Bool := false
  deriving DecidableEq, Inhabited

namespace MemoryArchive

def document? (a : MemoryArchive) (name : String) : Option String := a.documents.get? name

def save (name payload : String) (a : MemoryArchive) : Except ArchiveError Unit × MemoryArchive :=
  if a.fail then (.error .unavailable, a)
  else (.ok (), { a with documents := a.documents.insert name payload, saves := a.saves + 1 })

def load (name : String) (a : MemoryArchive) : Except ArchiveError (Option String) :=
  if a.fail then .error .unavailable else .ok (a.document? name)

instance : Archive MemoryArchive := ⟨save, fun name a => (a.load name, a)⟩

end MemoryArchive

end Spreadsheet
