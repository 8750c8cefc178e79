import LineShell.CommandLine.Clause
import LineShell.Network
import LineShell.Session.Board
import LineShell.Session.Console
import LineShell.Session.Registry
import LineShell.Session.Wiring
/-!
# Basic — a session

A session holds what commands share (the console, the files, the pipes), the stages of all its runs, and the run
under way, if there is one.  A stage is a copy of a registered command at work on its streams, with a path and a
stop slot of its own.  The stages of a run report on the run's channel, which holds as many messages as the run has
stages; an interrupt is a message on that channel too.
-/
namespace LineShell

structure Pipe where
  /-- Written and not yet read. -/
  held : Bytes := []
  /-- Whether someone may still read. -/
  readable : Bool := false
  /-- Whether someone may still write. -/
  writable : Bool := false
  deriving DecidableEq, Repr, Inhabited

inductive Phase where
  /-- Prepared and not launched. -/
  | ready (program : Program Outcome)
  | running (program : Program Outcome)
  /-- Writes an error to the console, piece by piece. -/
  | reporting (pieces : List String) (status : Status)
  /-- Has a status to report on the channel of its run. -/
  | sending (status : Status)
  | ended

def Phase.isEnded : Phase → Bool
  | ended => true
  | _ => false

structure Stage where
  /-- The run it belongs to, and its place there. -/
  run : Nat
  index : Nat
  name : String
  background : Bool
  /-- The command's own path. -/
  path : String
  slot : StopSlot := .empty
  streams : Streams
  phase : Phase

inductive Event where
  | finished (index : Nat) (status : Status) (path : String)
  | interrupt
  deriving DecidableEq, Repr

inductive RunPhase where
  /-- Stages are still to be launched. -/
  | launching (waiting : List Nat)
  | collecting
  /-- No more messages are taken. -/
  | closing (interrupted : Bool)
  /-- Waits for the stages to end. -/
  | joining
  deriving DecidableEq, Repr

structure Run where
  number : Nat
  background : Bool
  board : Board
  channel : List Event := []
  capacity : Nat
  /-- Whether an interrupt reaches the run. -/
  armed : Bool
  /-- The stages that run, by their numbers in the session. -/
  stages : List Nat
  phase : RunPhase
  deriving Repr

structure Session where
  /-- The working path. -/
  path : String
  registry : Registry := {}
  console : Console := {}
  files : Files
  network : Network := {}
  pipes : Array Pipe := #[]
  pipeCapacity : Nat := 65536
  stages : Array Stage := #[]
  /-- The number of runs so far. -/
  runs : Nat := 0
  current : Option Run := none
  /-- The statuses of the last run. -/
  statuses : List Status := []
  /-- Stages that nobody waits for and that may still be at work. -/
  detached : List Nat := []
  /-- The notes of commands, latest first. -/
  log : List String := []

namespace Session

def isArmed (s : Session) : Bool := s.current.any Run.armed

def modifyStage (s : Session) (id : Nat) (f : Stage → Stage) : Session := { s with stages := s.stages.modify id f }

def modifyPipe (s : Session) (number : Nat) (f : Pipe → Pipe) : Session := { s with pipes := s.pipes.modify number f }

def pipe (s : Session) (number : Nat) : Pipe := s.pipes.getD number {}

/-- Whether a stage has ended; one that was never launched has. -/
def hasEnded (s : Session) (id : Nat) : Bool :=
  match s.stages[id]? with
  | some stage => stage.phase.isEnded
  | none => true

/-! ## Interrupts -/

def requestStops (s : Session) (ids : List Nat) : Session :=
  ids.foldl (fun s id => s.modifyStage id (fun stage => { stage with slot := stage.slot.request.2 })) s

/-- Interrupts the run that is armed: its stages are asked to stop, and whoever drives it is told, unless the
channel is full.  The result says whether a run was armed.  It is one move, at the moment when the driver is to be told.
A handle makes its requests one by one before that moment; what a stage sends in between stands in front of the move. -/
def trigger (s : Session) : Bool × Session :=
  match s.current with
  | none => (false, s)
  | some run =>
    if run.armed then
      let told := if run.channel.length < run.capacity then { run with channel := run.channel ++ [.interrupt] } else run
      (true, { s.requestStops run.stages with current := some told })
    else (false, s)

/-! ## Starting a run -/

structure Job where
  command : Command
  call : Call
  streams : Streams

/-- The job of a clause, or its status where it does not run: exit keywords come first, then unknown names, then
streams that could not be opened. -/
def prepare (s : Session) (clause : Clause) (streams : Except String Streams) : Except Status Job :=
  if s.registry.isExit clause.name then .error ⟨.exitRequested, clause.name, none⟩
  else
    match s.registry.lookup clause.name with
    | none => .error ⟨.unknownCommand, clause.name, none⟩
    | some command =>
      match streams with
      | .error e => .error ⟨.ok, clause.name, some e⟩
      | .ok streams => .ok ⟨command, ⟨s.path, clause.arguments, clause.options⟩, streams⟩

def Job.stage (job : Job) (run index : Nat) (background : Bool) : Stage where
  run := run
  index := index
  name := job.command.name
  background := background
  path := job.command.path
  streams := job.streams
  phase := .ready (job.command.execute job.call)

def pipeFor (jobs : List Job) (number : Nat) : Pipe where
  readable := jobs.any (fun job => job.streams.input == .pipe number)
  writable := jobs.any (fun job => job.streams.output == .pipe number)

/-- Starts a run: its files are opened, its stages prepared, the pipe ends that none of them holds closed, and a
run that is not in the background is armed.  Nothing starts for an empty run. -/
def start (s : Session) (clauses : List Clause) : Session :=
  let s := { s with detached := s.detached.filter (fun id => !s.hasEnded id), statuses := [] }
  if clauses.isEmpty then s
  else
    let first := s.pipes.size
    let (streams, files) := wire s.path first clauses s.files
    let prepared := (clauses.zip streams).map (fun (clause, streams) => s.prepare clause streams)
    let background := clauses.any Clause.background
    let indexed := prepared.zipIdx
    let board := indexed.foldl (fun board (p, index) =>
      match p with
      | .error status => board.record index status none
      | .ok _ => board) (Board.ofNames (clauses.map Clause.name))
    let jobs := indexed.filterMap (fun (p, index) =>
      match p with
      | .ok job => some (index, job)
      | .error _ => none)
    let ids := (List.range jobs.length).map (· + s.stages.size)
    let pipes := (List.range (clauses.length - 1)).map (fun i => pipeFor (jobs.map Prod.snd) (first + i))
    { s with
      files
      pipes := s.pipes ++ pipes
      stages := s.stages ++ jobs.map (fun (index, job) => job.stage s.runs index background)
      runs := s.runs + 1
      current := some {
        number := s.runs, background, board, capacity := clauses.length, armed := !background, stages := ids,
        phase := .launching ids } }

end Session
end LineShell
