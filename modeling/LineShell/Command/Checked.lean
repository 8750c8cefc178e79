import LineShell.Command.Program
/-!
# Checked — input and output at checked points

A command looks for a request to stop before every read and every write, and gives up when it takes one; what it
has written by then stays written.  Copying moves a chunk at a time and looks twice for each, once before the read
and once before the write.  `Loop.turn` says what one turn of each loop does, and `Program.enter` what a program does
that enters a loop.
-/
namespace LineShell

/-- The most bytes that are moved between two checked points. -/
def chunkSize : Nat := 4096

namespace Action

/-- A checked point: fails when a request to stop was pending. -/
def check : Action Unit :=
  Program.ask .poll (fun
    | true => fail .stopped
    | false => Action.pure ())

def visitsOf (dir : Path) (entries : List (Bytes × Kind)) : List Visit :=
  (entries.mergeSort (fun a b => Bytes.precedes a.1 b.1)).map (fun e => .entry (Path.join dir e.1) e.2)

def childVisits (dir : Path) : Action (List Visit) := do
  match ← tryFiles (.listing dir) with
  | .ok (_, entries) => pure (visitsOf dir entries)
  | .error f => pure [.fault dir f]

end Action

namespace Loop

open LineShell.Action

def takeReply (source : Source) (limit : Nat) : Except Fault Bytes → Action (Turn (Source × Nat) (Bytes × Source))
  | .ok data => pure (.finished (data, source.advance data.length))
  | .error .interrupted => pure (.again (source, limit))
  | .error f => fail (.fault f)

def putReply (sink : Sink) (data : Bytes) : Except Fault Nat → Action (Turn (Sink × Bytes) Sink)
  | .ok 0 => fail (.fault .writeZero)
  | .ok n => pure (.again (sink.advance n, data.drop n))
  | .error .interrupted => pure (.again (sink, data))
  | .error f => fail (.fault f)

def takeTurn : Source × Nat → Action (Turn (Source × Nat) (Bytes × Source))
  | (.input, limit) => Program.ask (.read limit) (takeReply .input limit)
  | (.file id offset, limit) => Program.ask (.files (.readAt id offset limit)) (takeReply (.file id offset) limit)

def putTurn : Sink × Bytes → Action (Turn (Sink × Bytes) Sink)
  | (sink, []) => pure (.finished sink)
  | (.output, data) => Program.ask (.write data) (putReply .output data)
  | (.file id offset, data) => Program.ask (.files (.writeAt id offset data)) (putReply (.file id offset) data)
  | (.memory held, data) => pure (.finished (.memory (held.write data)))

def copyTurn : Source × Sink × Nat → Action (Turn (Source × Sink × Nat) (Nat × Sink))
  | (source, sink, moved) => do
    check
    let (data, source) ← loop .take (source, chunkSize)
    if data.isEmpty then pure (.finished (moved, sink))
    else
      check
      let sink ← loop .put (sink, data)
      pure (.again (source, sink, moved + data.length))

def gatherTurn (held : Transcript) : Action (Turn Transcript Bytes) := do
  check
  let (data, _) ← loop .take (.input, chunkSize)
  if data.isEmpty then pure (.finished held.bytes) else pure (.again (held.write data))

def searchTurn : String × List Visit → Action (Turn (String × List Visit) Finding)
  | (_, []) => pure (.finished .missing)
  | (_, .fault path f :: _) => do
    check
    pure (.finished (.failed path f))
  | (name, .entry path kind :: rest) => do
    let children ← if kind = .directory then childVisits path else pure []
    check
    if Bytes.toText path.fileName = name then pure (.finished (.found path))
    else pure (.again (name, children ++ rest))

def turn : (l : Loop) → l.State → Action (Turn l.State l.Value)
  | take => takeTurn
  | put => putTurn
  | copy => copyTurn
  | gather => gatherTurn
  | search => searchTurn

end Loop

/-- What a program does that enters a loop: one turn, and then what the turn leads to. -/
def Program.enter {α : Type} (l : Loop) (state : l.State) (next : Except Failure l.Value → Program α) : Program α :=
  Program.bind (l.turn state) (fun
    | .ok (.again state) => Program.loop l state next
    | .ok (.finished value) => next (.ok value)
    | .error e => next (.error e))

namespace Action

def read (limit : Nat) : Action Bytes := do
  check
  let (data, _) ← loop .take (.input, limit)
  pure data

def write (data : Bytes) : Action Unit := do
  check
  let _ ← loop .put (.output, data)
  pure ()

def print (text : String) : Action Unit := write (Bytes.ofString text)

/-- Moves a source to a sink; the result is the number of bytes and the sink after them. -/
def copy (source : Source) (sink : Sink) : Action (Nat × Sink) := loop .copy (source, sink, 0)

def readAll : Action Bytes := loop .gather {}

def flush : Action Unit := do
  match ← request .flush with
  | .ok () => pure ()
  | .error f => fail (.fault f)

def ask (q : FileRequest) : Action q.Answer := do
  match ← tryFiles q with
  | .ok answer => pure answer
  | .error f => fail (.fault f)

def askOr (q : FileRequest) (message : String) : Action q.Answer := do
  match ← tryFiles q with
  | .ok answer => pure answer
  | .error _ => fail (.other message)

end Action
end LineShell
