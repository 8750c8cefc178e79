import LineShell.Command.Device
import LineShell.Files.Request
/-!
# Program — what a command does, step by step

A command's program is a tree of requests: it is done, or it asks something and goes on with the reply, or it
enters a loop and goes on with the loop's result.  A program does nothing by itself.  Whoever runs it answers its
requests, alone at a bench or as one of several stages in a session, so the same program has one meaning under
every schedule.  Loops are named (`Loop`) because they go on as long as the world keeps them going; what one turn of
a loop does is said in `Checked`.

An `Action` is a program that may fail.  `Action.attempt` catches the failure.
-/
namespace LineShell

/-- What a stream is, as far as a command can tell. -/
inductive InputKind where
  | interactive
  | file
  | pipe
  | exhausted
  deriving DecidableEq, Repr

inductive OutputKind where
  | interactive
  | file
  | pipe
  deriving DecidableEq, Repr

structure Endpoint where
  address : String
  port : Nat
  deriving DecidableEq, Repr

inductive Request where
  /-- Takes a pending request to stop. -/
  | poll
  /-- One read of the input. -/
  | read (limit : Nat)
  /-- One write to the output. -/
  | write (data : Bytes)
  | flush
  /-- Sets the command's own path. -/
  | moveTo (path : String)
  /-- The command's own path. -/
  | ownPath
  | files (q : FileRequest)
  /-- The addresses of a host. -/
  | resolve (host : String)
  /-- Opens a connection and closes it again. -/
  | connect (target : Endpoint)
  /-- Leaves a note in the session's log. -/
  | note (line : String)
  /-- Whether an interrupt would reach a foreground run. -/
  | isArmed
  /-- Interrupts the foreground run. -/
  | interrupt
  /-- What the streams are. -/
  | streams
  deriving DecidableEq, Repr

def Request.Reply : Request → Type
  | poll => Bool
  | read _ => Except Fault Bytes
  | write _ => Except Fault Nat
  | flush => Except Fault Unit
  | moveTo _ => Unit
  | ownPath => String
  | files q => Except Fault q.Answer
  | resolve _ => Except Fault (List String)
  | connect _ => Except Fault Nat
  | note _ => Unit
  | isArmed => Bool
  | interrupt => Bool
  | streams => InputKind × OutputKind

inductive Failure where
  /-- A request to stop was taken at a checked point. -/
  | stopped
  /-- The options or arguments were refused. -/
  | usage (message : String)
  | fault (f : Fault)
  /-- Whatever else the command has to report. -/
  | other (message : String)
  deriving DecidableEq, Repr

def Failure.message : Failure → String
  | stopped => "execution was stopped"
  | usage m => m
  | fault f => f.message
  | other m => m

/-- Where bytes are read from: the command's input, or an open file at an offset. -/
inductive Source where
  | input
  | file (id : NodeId) (offset : Nat)
  deriving DecidableEq, Repr

def Source.advance (n : Nat) : Source → Source
  | input => input
  | file id offset => file id (offset + n)

/-- Where bytes are written to: the command's output, an open file at an offset, or memory. -/
inductive Sink where
  | output
  | file (id : NodeId) (offset : Nat)
  | memory (held : Transcript)
  deriving DecidableEq, Repr

def Sink.advance (n : Nat) : Sink → Sink
  | file id offset => file id (offset + n)
  | sink => sink

inductive Visit where
  | entry (path : Path) (kind : Kind)
  /-- A place that could not be visited. -/
  | fault (path : Path) (f : Fault)
  deriving DecidableEq, Repr

inductive Finding where
  | found (path : Path)
  | missing
  | failed (path : Path) (f : Fault)
  deriving DecidableEq, Repr

inductive Loop where
  /-- Reads once, again after an interrupted read. -/
  | take
  /-- Writes all of some data, in as many writes as it takes. -/
  | put
  /-- Moves a source to a sink, to the end of the source. -/
  | copy
  /-- Reads the input to its end. -/
  | gather
  /-- Looks for a name on a walk. -/
  | search
  deriving DecidableEq, Repr

namespace Loop

/-- Where a loop stands: the source and the most bytes to read; the sink and the data left to write; source, sink
and the bytes moved so far; what was read so far; the name and the visits to come. -/
def State : Loop → Type
  | take => Source × Nat
  | put => Sink × Bytes
  | copy => Source × Sink × Nat
  | gather => Transcript
  | search => String × List Visit

def Value : Loop → Type
  | take => Bytes × Source
  | put => Sink
  | copy => Nat × Sink
  | gather => Bytes
  | search => Finding

end Loop

inductive Turn (σ α : Type) where
  /-- The loop goes on from here. -/
  | again (state : σ)
  | finished (value : α)

inductive Program (α : Type) where
  | done (a : α)
  | ask (q : Request) (next : q.Reply → Program α)
  | loop (l : Loop) (state : l.State) (next : Except Failure l.Value → Program α)

namespace Program

variable {α β γ : Type}

def bind : Program α → (α → Program β) → Program β
  | done a, f => f a
  | ask q next, f => ask q (fun reply => bind (next reply) f)
  | loop l state next, f => loop l state (fun result => bind (next result) f)

instance : Monad Program where
  pure := done
  bind := bind

@[simp] theorem done_bind (a : α) (f : α → Program β) : (done a).bind f = f a := rfl

@[simp] theorem ask_bind (q : Request) (next : q.Reply → Program α) (f : α → Program β) :
    (ask q next).bind f = ask q (fun reply => (next reply).bind f) := rfl

@[simp] theorem loop_bind (l : Loop) (state : l.State) (next : Except Failure l.Value → Program α)
    (f : α → Program β) : (loop l state next).bind f = loop l state (fun result => (next result).bind f) := rfl

@[simp] theorem bind_done : ∀ p : Program α, p.bind done = p
  | done _ => rfl
  | ask q next => by simp only [ask_bind]; congr; funext reply; exact bind_done (next reply)
  | loop l state next => by simp only [loop_bind]; congr; funext result; exact bind_done (next result)

theorem bind_assoc : ∀ (p : Program α) (f : α → Program β) (g : β → Program γ),
    (p.bind f).bind g = p.bind (fun a => (f a).bind g)
  | done _, _, _ => rfl
  | ask q next, f, g => by simp only [ask_bind]; congr; funext reply; exact bind_assoc (next reply) f g
  | loop l state next, f, g => by simp only [loop_bind]; congr; funext result; exact bind_assoc (next result) f g

end Program

def Action (α : Type) : Type := Program (Except Failure α)

namespace Action

variable {α β : Type}

protected def pure (a : α) : Action α := Program.done (.ok a)

def fail (f : Failure) : Action α := Program.done (.error f)

protected def bind (x : Action α) (f : α → Action β) : Action β :=
  Program.bind x (fun
    | .ok a => f a
    | .error e => fail e)

instance : Monad Action where
  pure := Action.pure
  bind := Action.bind

def attempt (x : Action α) : Action (Except Failure α) := Program.bind x (fun result => Action.pure result)

def request (q : Request) : Action q.Reply := Program.ask q Action.pure

def tryFiles (q : FileRequest) : Action (Except Fault q.Answer) := request (.files q)

def loop (l : Loop) (state : l.State) : Action l.Value := Program.loop l state Program.done

end Action
end LineShell
