import LineShell.Command.Basic
import LineShell.Command.Checked
/-!
# Probe — a command that does what its arguments say

A probe makes what surrounds a command visible.  Each argument is an instruction, a verb with perhaps a text behind
a colon; they are followed in order until one fails.  What a probe finds out it leaves as notes.
-/
namespace LineShell
namespace Probe

inductive Instruction where
  | write (text : String)
  /-- Writes so many bytes, the letters of the alphabet over and over. -/
  | emit (count : Nat)
  | read (limit : Nat)
  | drain
  | copy
  | kinds
  | words
  | givenPath
  | ownPath
  | adoptPath
  | moveTo (path : String)
  | isArmed
  | interrupt
  | isRequested
  | check
  | fail (f : Failure)
  | breakDown
  | unknown (argument : String)
  deriving DecidableEq, Repr

def readNumber (text : List Char) : Nat :=
  let digits := match text with
    | '+' :: rest => rest
    | text => text
  if digits.all Char.isDigit then digits.foldl (fun n c => n * 10 + (c.toNat - 0x30)) 0 else 0

def Instruction.ofArgument (argument : String) : Instruction :=
  let verb := argument.toList.takeWhile (· != ':')
  let rest := (argument.toList.dropWhile (· != ':')).tail
  let text := String.ofList rest
  match String.ofList verb with
  | "write" => .write text
  | "emit" => .emit (readNumber rest)
  | "read" => .read (readNumber rest)
  | "drain" => .drain
  | "copy" => .copy
  | "kinds" => .kinds
  | "argv" => .words
  | "ctxpath" => .givenPath
  | "ownpath" => .ownPath
  | "adopt" => .adoptPath
  | "path" => .moveTo text
  | "armed" => .isArmed
  | "trigger" => .interrupt
  | "requested" => .isRequested
  | "check" => .check
  | "fail" => .fail (.other text)
  | "context" => .fail (.other text)
  | "usage" => .fail (.usage text)
  | "io" => .fail (.fault (.worded text))
  | "stopped" => .fail .stopped
  | "panic" => .breakDown
  | _ => .unknown argument

def letters (position count : Nat) : Bytes :=
  (List.range count).map (fun i => UInt8.ofNat (0x61 + (position + i) % 26))

def emitSize : Nat := 1000

/-- Writes letters in checked writes; each round is one write. -/
def emit : (rounds : Nat) → (position left : Nat) → Action Unit
  | 0, _, _ => pure ()
  | rounds + 1, position, left =>
    if left = 0 then pure ()
    else do
      Action.write (letters position (min left emitSize))
      emit rounds (position + emitSize) (left - emitSize)

def note (line : String) : Action Unit := Action.request (.note line)

def ownPath : Action String := Action.request .ownPath

def boolText (b : Bool) : String := if b then "true" else "false"

def inputText : InputKind → String
  | .interactive => "Input::interactive"
  | .file => "Input::file"
  | .pipe => "Input::pipe"
  | .exhausted => "Input::exhausted"

def outputText : OutputKind → String
  | .interactive => "Output::interactive"
  | .file => "Output::file"
  | .pipe => "Output::pipe"

def follow (call : Call) : Instruction → Action Bool
  | .write text => do Action.print text; pure true
  | .emit count => do emit (count / emitSize + 1) 0 count; pure true
  | .read limit => do
    let data ← Action.read limit
    note ("read " ++ Bytes.toText data)
    pure true
  | .drain => do
    let data ← Action.readAll
    note ("drained " ++ toString data.length)
    pure true
  | .copy => do
    let (moved, _) ← Action.copy .input .output
    note ("copied " ++ toString moved)
    pure true
  | .kinds => do
    let kinds ← (Action.request .streams : Action (InputKind × OutputKind))
    note (inputText kinds.1 ++ " " ++ outputText kinds.2)
    pure true
  | .words => do note ("argv " ++ String.intercalate "|" call.words); pure true
  | .givenPath => do note ("ctxpath " ++ call.path); pure true
  | .ownPath => do
    let path ← ownPath
    note ("ownpath " ++ path)
    pure true
  | .adoptPath => do Action.request (.moveTo call.path); pure true
  | .moveTo path => do Action.request (.moveTo path); pure true
  | .isArmed => do
    let armed ← (Action.request .isArmed : Action Bool)
    note ("armed " ++ boolText armed)
    pure true
  | .interrupt => do
    let reached ← (Action.request .interrupt : Action Bool)
    note ("trigger " ++ boolText reached)
    pure true
  | .isRequested => do
    let requested ← (Action.request .poll : Action Bool)
    note ("requested " ++ boolText requested)
    pure true
  | .check => do Action.check; pure true
  | .fail f => Action.fail f
  | .breakDown => pure false
  | .unknown argument => do note ("? " ++ argument); pure true

/-- Follows instructions up to the first that fails or breaks the probe down. -/
def followAll (call : Call) : List Instruction → Action Bool
  | [] => pure true
  | i :: rest => do
    if ← follow call i then followAll call rest else pure false

def command (name path : String) : Command where
  name := name
  path := path
  execute call := Program.bind (followAll call (call.arguments.map Instruction.ofArgument)) (fun
    | .ok true => .done .done
    | .ok false => .done .brokeDown
    | .error f => .done (.failed f))

end Probe
end LineShell
