import LineShell.Command.Program
/-!
# Basic — commands and how they end

A command has a name and a path of its own, which is where its last run left it.  It is called with a path to
start from, arguments and options (`Call`); its streams belong to whoever runs it.  A run is done, fails, or breaks
down.
-/
namespace LineShell

structure Call where
  /-- Where the command starts. -/
  path : String := ""
  arguments : List String := []
  /-- Without their leading dash. -/
  options : List String := []
  deriving DecidableEq, Repr, Inhabited

namespace Call

def hasOption (c : Call) (option : String) : Bool := c.options.contains option

/-- The words of a call as they are read: the options, each with its dash, before the arguments. -/
def words (c : Call) : List String := c.options.map (fun option => "-" ++ option) ++ c.arguments

end Call

inductive Outcome where
  | done
  | failed (f : Failure)
  /-- The command broke down without a result. -/
  | brokeDown
  deriving DecidableEq, Repr

namespace Outcome

def ofResult : Except Failure Unit → Outcome
  | .ok () => done
  | .error f => failed f

end Outcome

structure Command where
  name : String
  /-- Where its last run left it. -/
  path : String := ""
  execute : Call → Program Outcome

end LineShell
