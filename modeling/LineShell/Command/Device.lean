import LineShell.Command.StopSlot
import LineShell.Files.Fault
import LineShell.Text.Bytes
/-!
# Device — streams that follow a script

A reader delivers its data in the pieces its script gives, and may on the way be interrupted, fail, end early or
ask for a stop; a writer accepts as much of each write as its script says, and may do the same.  A command sees
nothing of a stream but the replies to single reads and writes, so scripts can stand for whatever is at the other
end of it.
-/
namespace LineShell

/-- Bytes written piece by piece, the latest piece first. -/
structure Transcript where
  pieces : List Bytes := []
  deriving DecidableEq, Repr, Inhabited

namespace Transcript

def bytes (t : Transcript) : Bytes := t.pieces.reverse.flatten

def write (t : Transcript) (data : Bytes) : Transcript := ⟨data :: t.pieces⟩

@[simp] theorem bytes_empty : (⟨[]⟩ : Transcript).bytes = [] := rfl

@[simp] theorem bytes_write (t : Transcript) (data : Bytes) : (t.write data).bytes = t.bytes ++ data := by
  simp [write, bytes]

end Transcript

inductive ReadEvent where
  | data (bytes : Bytes)
  /-- The read is cut short and may be tried again. -/
  | interrupted
  /-- Asks for a stop and goes on within the same read. -/
  | stop
  /-- The read delivers nothing. -/
  | eof
  | fault (text : String)
  deriving DecidableEq, Repr, Inhabited

/-- A reader that follows a script; after it, reads deliver nothing. -/
structure Reader where
  events : List ReadEvent := []
  deriving DecidableEq, Repr, Inhabited

namespace Reader

def ofBytes (bytes : Bytes) : Reader := ⟨[.data bytes]⟩

def readFrom (limit : Nat) (stop : Bool) : List ReadEvent → Except Fault Bytes × Reader × Bool
  | [] => (.ok [], ⟨[]⟩, stop)
  | .data [] :: rest => readFrom limit stop rest
  | .data (b :: bytes) :: rest =>
    let left := (b :: bytes).drop limit
    (.ok ((b :: bytes).take limit), ⟨if left.isEmpty then rest else .data left :: rest⟩, stop)
  | .interrupted :: rest => (.error .interrupted, ⟨rest⟩, stop)
  | .stop :: rest => readFrom limit true rest
  | .eof :: rest => (.ok [], ⟨rest⟩, stop)
  | .fault text :: rest => (.error (.worded text), ⟨rest⟩, stop)

/-- One read of at most `limit` bytes: its reply, the reader after it and whether a stop was asked for. -/
def read (r : Reader) (limit : Nat) : Except Fault Bytes × Reader × Bool := readFrom limit false r.events

end Reader

structure Writer where
  /-- The most bytes that one write accepts. -/
  most : Option Nat := none
  /-- The write that asks for a stop. -/
  stopOn : Option Nat := none
  /-- The write that fails. -/
  failOn : Option Nat := none
  /-- The write that accepts nothing. -/
  zeroOn : Option Nat := none
  /-- The write that is cut short and may be tried again. -/
  interruptOn : Option Nat := none
  /-- Whether flushing fails. -/
  failFlush : Bool := false
  /-- The writes so far. -/
  writes : Nat := 0
  accepted : Transcript := {}
  deriving DecidableEq, Repr, Inhabited

namespace Writer

def write (w : Writer) (data : Bytes) : Except Fault Nat × Writer × Bool :=
  let now := some (w.writes + 1)
  let w' := { w with writes := w.writes + 1 }
  let stop := w.stopOn == now
  if w.interruptOn == now then (.error .interrupted, w', stop)
  else if w.failOn == now then (.error (.worded "sink full"), w', stop)
  else if w.zeroOn == now then (.ok 0, w', stop)
  else
    let part := match w.most with
      | none => data
      | some most => data.take most
    (.ok part.length, { w' with accepted := w.accepted.write part }, stop)

def writeRounds : (rounds : Nat) → Writer → Bytes → Except Fault Unit × Writer
  | 0, w, _ => (.error .writeZero, w)
  | _ + 1, w, [] => (.ok (), w)
  | rounds + 1, w, data =>
    match w.write data with
    | (.ok 0, w, _) => (.error .writeZero, w)
    | (.ok n, w, _) => writeRounds rounds w (data.drop n)
    | (.error .interrupted, w, _) => writeRounds rounds w data
    | (.error f, w, _) => (.error f, w)

/-- Writes all of some data.  Every write but one takes a byte at least, so the rounds suffice. -/
def writeAll (w : Writer) (data : Bytes) : Except Fault Unit × Writer := writeRounds (data.length + 2) w data

def flush (w : Writer) : Except Fault Unit := if w.failFlush then .error (.worded "flush failed") else .ok ()

end Writer
end LineShell
