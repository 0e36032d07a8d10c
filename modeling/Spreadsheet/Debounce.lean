/-! A delay that starts anew with every change: it falls due once, when nothing has changed for that long. Times
are those of a clock that never goes back, here counted in milliseconds. Any finer unit will do as well: times are only
added and compared, and a delay of some milliseconds is a longer one in the other unit. -/
namespace Spreadsheet

structure Debounce where
  delay : Nat
  deadline : Option Nat := none
  deriving DecidableEq, Repr, Inhabited

namespace Debounce

def schedule (now : Nat) (d : Debounce) : Debounce := { d with deadline := some (now + d.delay) }

def cancel (d : Debounce) : Debounce := { d with deadline := none }

def isPending (d : Debounce) : Bool := d.deadline.isSome

/-- Is the deadline reached? If so it is used up. -/
def poll (now : Nat) (d : Debounce) : Bool × Debounce :=
  if d.deadline.any (· ≤ now) then (true, d.cancel) else (false, d)

end Debounce

end Spreadsheet
