/-!
# Clause — what a line asks for

A line is a row of clauses joined by pipes.  A clause names a command, carries its options and arguments in the
order given, and may redirect its input and output and ask to run in the background.  An empty redirect means
none.
-/
namespace LineShell

structure Clause where
  name : String
  arguments : List String := []
  /-- Without their leading dash. -/
  options : List String := []
  /-- The file read instead of the input that falls to the clause; empty for none. -/
  input : String := ""
  /-- The file written instead of the output that falls to the clause; empty for none. -/
  output : String := ""
  background : Bool := false
  deriving DecidableEq, Repr, Inhabited

end LineShell
