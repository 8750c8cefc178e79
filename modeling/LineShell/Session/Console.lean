import LineShell.Command.Device
/-!
# Console — where a session types and shows

A console holds the input that nobody has read, and what was written to its output and its error output.  All who
use it share it.
-/
namespace LineShell

structure Console where
  unread : Bytes := []
  output : Transcript := {}
  error : Transcript := {}
  deriving DecidableEq, Repr, Inhabited

namespace Console

def read (c : Console) (limit : Nat) : Bytes × Console :=
  (c.unread.take limit, { c with unread := c.unread.drop limit })

def write (c : Console) (data : Bytes) : Console := { c with output := c.output.write data }

def writeError (c : Console) (data : Bytes) : Console := { c with error := c.error.write data }

end Console
end LineShell
