import LineShell.Command.Basic
import LineShell.Command.Checked
import LineShell.Text.Blank
import LineShell.Usage
/-!
# Basic — commands that come with the shell

A builtin declares how its words are sorted and what it does with them.  Its run takes over the path it is called
with, sorts the words, shows the help or refuses them, and otherwise does its work; whatever it wrote is flushed
when nothing failed.  A builtin with several operands takes them one after the other (`eachOperand`): an operand
that has something to report does not keep the later ones from their turn, and the reports are given together at
the end.
-/
namespace LineShell

structure Builtin where
  name : String
  usage : Usage
  /-- What it does, from a path, with the words it was given. -/
  run : (path : String) → Operands → Action Unit

namespace Builtin

def refusal (name : String) (stop : UsageStop) : Failure :=
  .usage (name ++ ": " ++ String.ofList (trimEnd stop.message.toList))

/-- The work of a call after its words were sorted. -/
def work (b : Builtin) (call : Call) : Action Unit :=
  match b.usage.read call.words with
  | .ok operands => b.run call.path operands
  | .error (.help text) => Action.print text
  | .error stop => Action.fail (refusal b.name stop)

def action (b : Builtin) (call : Call) : Action Unit := do
  Action.request (.moveTo call.path)
  b.work call
  Action.flush

def command (b : Builtin) : Command where
  name := b.name
  execute call := Program.bind (b.action call) (fun result => .done (Outcome.ofResult result))

end Builtin

namespace Action

def eachOperand (f : String → Action (Option String)) : List String → Action (List String)
  | [] => pure []
  | operand :: rest => do
    let report ← f operand
    let reports ← eachOperand f rest
    pure (report.toList ++ reports)

def report : List String → Action Unit
  | [] => pure ()
  | reports => fail (.other (String.intercalate "\n" reports))

def forOperands (operands : List String) (f : String → Action (Option String)) : Action Unit := do
  let reports ← eachOperand f operands
  report reports

def resolve (path name : String) : Path := Path.join (Path.ofString path) (Path.ofString name)

end Action
end LineShell
