import LineShell.Session.Status
/-!
# Board — the statuses of a run as they come in

A board has one row a stage.  The first status recorded in a row stays; a row without one can be marked as asked to
stop, and concluding the board fills what is missing.
-/
namespace LineShell

inductive StageState where
  | running
  | stopRequested
  | finished
  deriving DecidableEq, Repr, Inhabited

namespace Board

structure Row where
  name : String
  state : StageState := .running
  status : Option Status := none
  /-- The path of the stage's command, as it came with the status. -/
  path : Option String := none
  deriving DecidableEq, Repr, Inhabited

namespace Row

def record (r : Row) (status : Status) (path : Option String) : Row :=
  match r.status with
  | some _ => r
  | none => { r with state := .finished, status := some status, path }

def requestStop (r : Row) : Row := if r.state = .running then { r with state := .stopRequested } else r

def conclude (reason : String) (r : Row) : Row :=
  match r.status with
  | some _ => r
  | none =>
    { r with
      status :=
        some (if r.state = .stopRequested then ⟨.interrupted, r.name, none⟩ else ⟨.ok, r.name, some reason⟩) }

end Row
end Board

structure Board where
  rows : List Board.Row := []
  deriving DecidableEq, Repr, Inhabited

namespace Board

def ofNames (names : List String) : Board := ⟨names.map (fun name => { name })⟩

def record (b : Board) (index : Nat) (status : Status) (path : Option String) : Board :=
  ⟨b.rows.modify index (fun r => r.record status path)⟩

def isComplete (b : Board) : Bool := b.rows.all (fun r => r.status.isSome)

/-- Marks every stage that is running; the result says how many. -/
def requestStop (b : Board) : Nat × Board :=
  (b.rows.countP (fun r => r.state == .running), ⟨b.rows.map Row.requestStop⟩)

def conclude (b : Board) (reason : String) : Board := ⟨b.rows.map (Row.conclude reason)⟩

/-- The path to adopt: that of a single stage which ended well and was not in the background. -/
def pathUpdate (b : Board) (background : Bool) : Option String :=
  match b.rows with
  | [⟨_, _, some status, some path⟩] => if !background && status.isOk then some path else none
  | _ => none

def statuses (b : Board) : List Status := b.rows.filterMap Row.status

end Board
end LineShell
