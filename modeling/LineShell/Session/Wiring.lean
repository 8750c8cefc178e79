import LineShell.CommandLine.Clause
import LineShell.Command.Program
/-!
# Wiring — the streams of each stage

A stage reads the file its clause names, else the pipe from the stage before it, else the console, or nothing at all
where any stage of the run is in the background; it writes to the file its clause names, else to the pipe to the
next stage, else to the console.  Files are opened stage by stage, the input before the output, and an input that
cannot be opened leaves the output alone.  Pipe `first + i` joins stages `i` and `i + 1`.
-/
namespace LineShell

inductive Input where
  | console
  | exhausted
  | file (id : NodeId) (offset : Nat)
  | pipe (number : Nat)
  deriving DecidableEq, Repr, Inhabited

inductive Output where
  | console
  | file (id : NodeId) (offset : Nat)
  | pipe (number : Nat)
  deriving DecidableEq, Repr, Inhabited

def Input.kind : Input → InputKind
  | console => .interactive
  | exhausted => .exhausted
  | file .. => .file
  | pipe _ => .pipe

def Output.kind : Output → OutputKind
  | console => .interactive
  | file .. => .file
  | pipe _ => .pipe

structure Streams where
  input : Input := .console
  output : Output := .console
  deriving DecidableEq, Repr, Inhabited

namespace Wiring

/-- A run to be wired: the path that files are named from, whether it is in the background, the number of its first
pipe and of its stages. -/
structure Plan where
  base : String
  background : Bool
  first : Nat
  count : Nat
  deriving DecidableEq, Repr

def Plan.path (p : Plan) (name : String) : Path := Path.join (Path.ofString p.base) (Path.ofString name)

def Plan.input (p : Plan) (index : Nat) : Input :=
  if index ≠ 0 then .pipe (p.first + index - 1) else if p.background then .exhausted else .console

def Plan.output (p : Plan) (index : Nat) : Output :=
  if index + 1 < p.count then .pipe (p.first + index) else .console

def inputFault (p : Plan) (name : String) (f : Fault) : String :=
  if f.isNotFound then "File for reading the input with name " ++ name ++ " does not exist"
  else "cannot open " ++ (p.path name).render ++ " for reading: " ++ f.message

def outputFault (p : Plan) (name : String) (f : Fault) : String :=
  "cannot open " ++ (p.path name).render ++ " for writing: " ++ f.message

def openInput (p : Plan) (index : Nat) (c : Clause) (fs : Files) : Except String Input :=
  if c.input = "" then .ok (p.input index)
  else
    match fs.openRead (p.path c.input) with
    | .ok id => .ok (.file id 0)
    | .error f => .error (inputFault p c.input f)

def openOutput (p : Plan) (index : Nat) (c : Clause) (fs : Files) : Except String Output × Files :=
  if c.output = "" then (.ok (p.output index), fs)
  else
    match fs.create (p.path c.output) with
    | (.ok id, fs) => (.ok (.file id 0), fs)
    | (.error f, fs) => (.error (outputFault p c.output f), fs)

def openStreams (p : Plan) (index : Nat) (c : Clause) (fs : Files) : Except String Streams × Files :=
  match openInput p index c fs with
  | .error e => (.error e, fs)
  | .ok input =>
    match openOutput p index c fs with
    | (.ok output, fs) => (.ok ⟨input, output⟩, fs)
    | (.error e, fs) => (.error e, fs)

def openFrom (p : Plan) : (index : Nat) → List Clause → Files → List (Except String Streams) × Files
  | _, [], fs => ([], fs)
  | index, c :: cs, fs =>
    let (streams, fs) := openStreams p index c fs
    let (rest, fs) := openFrom p (index + 1) cs fs
    (streams :: rest, fs)

end Wiring

/-- **The streams of all stages of a run**, the first of its pipes having the number `first`. -/
def wire (base : String) (first : Nat) (clauses : List Clause) (fs : Files) : List (Except String Streams) × Files :=
  Wiring.openFrom ⟨base, clauses.any Clause.background, first, clauses.length⟩ 0 clauses fs

end LineShell
