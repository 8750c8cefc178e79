import LineShell.Command.Basic
import LineShell.Command.Checked
import LineShell.Network
/-!
# Bench — one command run alone

At a bench a program runs by itself: its streams follow scripts, its stop slot takes the requests the scripts make,
and it has the files and its path to itself.  `Bench.run` answers the program's requests until it is done.
-/
namespace LineShell

/-- What a program run alone can reach. -/
structure Bench where
  reader : Reader := {}
  writer : Writer := {}
  slot : StopSlot := .empty
  /-- The command's own path. -/
  path : String := ""
  files : Files
  network : Network := {}
  deriving Repr

namespace Bench

def requestIf (b : Bench) (stop : Bool) : Bench := if stop then { b with slot := b.slot.request.2 } else b

def answer (b : Bench) : (q : Request) → q.Reply × Bench
  | .poll => let (stop, slot) := b.slot.take; (stop, { b with slot })
  | .read limit =>
    let (reply, reader, stop) := b.reader.read limit
    (reply, { b with reader }.requestIf stop)
  | .write data =>
    let (reply, writer, stop) := b.writer.write data
    (reply, { b with writer }.requestIf stop)
  | .flush => (b.writer.flush, b)
  | .moveTo path => ((), { b with path })
  | .ownPath => (b.path, b)
  | .files q => let (reply, files) := b.files.serve q; (reply, { b with files })
  | .resolve host => (b.network.resolve host, b)
  | .connect target => (b.network.connect target, b)
  | .note _ => ((), b)
  | .isArmed => (false, b)
  | .interrupt => (false, b)
  | .streams => ((.interactive, .interactive), b)

/-- Runs a program for at most `fuel` requests and turns; nothing if it is not done by then. -/
def run {α : Type} : (fuel : Nat) → Program α → Bench → Option (α × Bench)
  | 0, _, _ => none
  | _ + 1, .done a, b => some (a, b)
  | fuel + 1, .ask q next, b => let (reply, b) := b.answer q; run fuel (next reply) b
  | fuel + 1, .loop l state next, b => run fuel (Program.enter l state next) b

def patience : Nat := 1000000000000000

end Bench
end LineShell
