import LineShell.Command.Checked
import LineShell.Session.Basic
/-!
# Step — how a session moves

A session moves one step at a time: whoever drives the run launches a stage, takes a message or concludes; a stage
asks one thing and is answered, or reports; or an interrupt arrives.  A stage that reads an empty pipe, writes to a
full one or reports on a full channel cannot move until someone else does.  Every order of moves is a run of the
session (`Session.step?`); how pieces of data travel is left open too, since a move says how much of a pipe it uses
at most.
-/
namespace LineShell

inductive Move where
  /-- The run is driven on. -/
  | drive
  /-- A stage goes on; it moves at most `most + 1` bytes through a pipe. -/
  | advance (stage most : Nat)
  /-- A stage ends without the report it owes. -/
  | vanish (stage : Nat)
  | interrupt
  deriving DecidableEq, Repr

namespace Session

/-! ## Stages -/

def readInput? (s : Session) (id : Nat) (streams : Streams) (limit most : Nat) :
    Option (Except Fault Bytes × Session) :=
  match streams.input with
  | .exhausted => some (.ok [], s)
  | .console =>
    let (data, console) := s.console.read limit
    some (.ok data, { s with console })
  | .file file offset =>
    match s.files.readAt file offset limit with
    | .ok data =>
      let moved : Streams := { streams with input := .file file (offset + data.length) }
      some (.ok data, s.modifyStage id (fun stage => { stage with streams := moved }))
    | .error f => some (.error f, s)
  | .pipe n =>
    let pipe := s.pipe n
    if limit = 0 then some (.ok [], s)
    else if pipe.held.isEmpty then if pipe.writable then none else some (.ok [], s)
    else
      let count := min limit (most + 1)
      some (.ok (pipe.held.take count), s.modifyPipe n (fun p => { p with held := p.held.drop count }))

def writeOutput? (s : Session) (id : Nat) (streams : Streams) (data : Bytes) (most : Nat) :
    Option (Except Fault Nat × Session) :=
  match streams.output with
  | .console => some (.ok data.length, { s with console := s.console.write data })
  | .file file offset =>
    match s.files.writeAt file offset data with
    | (.ok n, files) =>
      let moved : Streams := { streams with output := .file file (offset + n) }
      some (.ok n, { s with files }.modifyStage id (fun stage => { stage with streams := moved }))
    | (.error f, files) => some (.error f, { s with files })
  | .pipe n =>
    let pipe := s.pipe n
    if !pipe.readable then some (.error (.system .brokenPipe), s)
    else
      let room := s.pipeCapacity - pipe.held.length
      if room = 0 then none
      else
        let part := data.take (min room (most + 1))
        some (.ok part.length, s.modifyPipe n (fun p => { p with held := p.held ++ part }))

def answer? (s : Session) (id : Nat) (stage : Stage) (most : Nat) : (q : Request) → Option (q.Reply × Session)
  | .poll =>
    let (stop, slot) := stage.slot.take
    some (stop, s.modifyStage id (fun stage => { stage with slot }))
  | .read limit => s.readInput? id stage.streams limit most
  | .write data => s.writeOutput? id stage.streams data most
  | .flush => some (.ok (), s)
  | .moveTo path => some ((), s.modifyStage id (fun stage => { stage with path }))
  | .ownPath => some (stage.path, s)
  | .files q => let (reply, files) := s.files.serve q; some (reply, { s with files })
  | .resolve host => some (s.network.resolve host, s)
  | .connect target => some (s.network.connect target, s)
  | .note line => some ((), { s with log := line :: s.log })
  | .isArmed => some (s.isArmed, s)
  | .interrupt => some s.trigger
  | .streams => some ((stage.streams.input.kind, stage.streams.output.kind), s)

def closeEnds (s : Session) (streams : Streams) : Session :=
  let s := match streams.input with
    | .pipe n => s.modifyPipe n (fun p => { p with readable := false })
    | _ => s
  match streams.output with
  | .pipe n => s.modifyPipe n (fun p => { p with writable := false })
  | _ => s

/-- What a stage does once its command is done: in the background an error is shown first. -/
def phaseAfter (background : Bool) (status : Status) : Phase :=
  match background, status.error with
  | true, some e => .reporting [status.command, ": ", e, "\n"] status
  | _, _ => .sending status

def setPhase (s : Session) (id : Nat) (phase : Phase) : Session := s.modifyStage id (fun stage => { stage with phase })

/-- A stage ends; nobody will take a request to stop any more. -/
def endStage (s : Session) (id : Nat) : Session :=
  s.modifyStage id (fun stage => { stage with phase := .ended, slot := .gone })

/-- A stage reports its status; nothing while the channel is full.  The report of a run that is over is lost. -/
def send? (s : Session) (id : Nat) (stage : Stage) (status : Status) : Option Session :=
  match s.current with
  | none => some (s.endStage id)
  | some run =>
    if run.number ≠ stage.run then some (s.endStage id)
    else if run.channel.length < run.capacity then
      let told := { run with channel := run.channel ++ [.finished stage.index status stage.path] }
      some { s.endStage id with current := some told }
    else none

def advance? (s : Session) (id most : Nat) : Option Session :=
  match s.stages[id]? with
  | none => none
  | some stage =>
    match stage.phase with
    | .ready _ | .ended => none
    | .running (.done outcome) =>
      let after := phaseAfter stage.background (Status.ofOutcome stage.name outcome)
      some ((s.closeEnds stage.streams).setPhase id after)
    | .running (.loop l state next) => some (s.setPhase id (.running (Program.enter l state next)))
    | .running (.ask q next) =>
      match s.answer? id stage most q with
      | some (reply, s) => some (s.setPhase id (.running (next reply)))
      | none => none
    | .reporting [] status => some (s.setPhase id (.sending status))
    | .reporting (piece :: pieces) status =>
      some ({ s with console := s.console.writeError (Bytes.ofString piece) }.setPhase id (.reporting pieces status))
    | .sending status => s.send? id stage status

def vanish? (s : Session) (id : Nat) : Option Session :=
  match s.stages[id]? with
  | some ⟨_, _, _, _, _, _, _, .sending _⟩ => some (s.endStage id)
  | _ => none

/-! ## The driver of a run -/

/-- Launches a stage; one in the background counts as ended well from here on. -/
def launch (s : Session) (run : Run) (id : Nat) (waiting : List Nat) : Session :=
  match s.stages[id]? with
  | none => { s with current := some { run with phase := .launching waiting } }
  | some stage =>
    let board := if run.background then run.board.record stage.index ⟨.ok, stage.name, none⟩ none else run.board
    let s := match stage.phase with
      | .ready program => s.setPhase id (.running program)
      | _ => s
    { s with current := some { run with board, phase := .launching waiting } }

/-- Ends a run: its statuses are given, and the path of a single stage is adopted where it ended well. -/
def finish (s : Session) (run : Run) (detach : Bool) : Session :=
  { s with
    path := (run.board.pathUpdate run.background).getD s.path
    statuses := run.board.statuses
    current := none
    detached := if detach then s.detached ++ run.stages else s.detached }

/-- Whether a message may still come: an armed run could always be interrupted. -/
def mayReport (s : Session) (run : Run) : Bool := run.armed || run.stages.any (fun id => !s.hasEnded id)

def silence : String := "stage exited without reporting a status"

/-- Drives the run on; nothing if there is none or it has to wait. -/
def drive? (s : Session) : Option Session :=
  match s.current with
  | none => none
  | some run =>
    match run.phase with
    | .launching (id :: waiting) => some (s.launch run id waiting)
    | .launching [] =>
      if run.background then some (s.finish run true)
      else some { s with current := some { run with phase := .collecting } }
    | .collecting =>
      if run.board.isComplete then some { s with current := some { run with phase := .closing false } }
      else
        match run.channel with
        | .finished index status path :: channel =>
          some { s with current := some { run with channel, board := run.board.record index status (some path) } }
        | .interrupt :: channel =>
          let board := run.board.requestStop.2
          some { s with current := some { run with channel, board, phase := .closing true } }
        | [] => if s.mayReport run then none else some { s with current := some { run with phase := .closing false } }
    | .closing interrupted =>
      let concluded := { run with armed := false, board := run.board.conclude silence }
      if interrupted then some (s.finish concluded true)
      else some { s with current := some { concluded with phase := .joining } }
    | .joining => if run.stages.all s.hasEnded then some (s.finish run false) else none

/-! ## Moves -/

/-- **The session after a move**, if the move can be made. -/
def step? (s : Session) : Move → Option Session
  | .drive => s.drive?
  | .advance id most => s.advance? id most
  | .vanish id => s.vanish? id
  | .interrupt => some s.trigger.2

/-- Waits for the stages that nobody waits for; nothing while one of them is at work. -/
def waitBackground? (s : Session) : Option Session :=
  if s.detached.all s.hasEnded then some { s with detached := [] } else none

end Session
end LineShell
