import LineShell.Session.Step
/-!
# Schedule — one order of moves

Of all orders in which a session can move, this is the one that is followed: the run is driven on when it can be,
and otherwise the first stage moves that can, with as much data as fits.  A session settles when nobody can move.
-/
namespace LineShell
namespace Session

def next? (s : Session) : Option Session :=
  match s.drive? with
  | some s => some s
  | none => (List.range s.stages.size).findSome? (fun id => s.advance? id s.pipeCapacity)

def settleWithin : (fuel : Nat) → Session → Session
  | 0, s => s
  | fuel + 1, s =>
    match s.next? with
    | some s => settleWithin fuel s
    | none => s

def patience : Nat := 1000000000000000

def settle (s : Session) : Session := settleWithin patience s

/-- **Runs clauses**: the statuses of their stages, and the session once all stages have ended. -/
def interpret (s : Session) (clauses : List Clause) : List Status × Session :=
  let s := (s.start clauses).settle
  (s.statuses, s)

end Session
end LineShell
