/-!
# StopSlot — a pending request to stop

A running command can be asked to stop.  The request waits in a slot that holds at most one; the command takes it
at its next checked point.  A request made while one waits is dropped, as is one made after the command is gone.
So requests that are accepted and stops that are taken alternate (`request_fst_iff`, `take_fst_iff`).
-/
namespace LineShell

inductive StopSlot where
  | empty
  | full
  /-- Nobody will take a request any more. -/
  | gone
  deriving DecidableEq, Repr, Inhabited

namespace StopSlot

/-- Puts a request into the slot; the result says whether it was accepted. -/
def request : StopSlot → Bool × StopSlot
  | empty => (true, full)
  | full => (false, full)
  | gone => (false, gone)

def take : StopSlot → Bool × StopSlot
  | empty => (false, empty)
  | full => (true, empty)
  | gone => (false, gone)

theorem request_fst_iff (s : StopSlot) : s.request.1 = true ↔ s = empty := by cases s <;> simp [request]

theorem take_fst_iff (s : StopSlot) : s.take.1 = true ↔ s = full := by cases s <;> simp [take]

theorem take_snd_ne_full (s : StopSlot) : s.take.2 ≠ full := by cases s <;> simp [take]

end StopSlot
end LineShell
