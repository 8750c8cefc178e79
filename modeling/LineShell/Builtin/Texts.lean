import LineShell.Builtin.Basic
import LineShell.Text.Lines
/-!
# Texts — `cat`, `echo` and `wc`

`cat` moves its files, or its input, to its output; `wc` counts the lines, words and bytes of them; `echo` prints
its arguments.  A file that cannot be opened or read is reported at the end.
-/
namespace LineShell

namespace Cat

/-- Prints one file; any failure but a stop is reported. -/
def printOne (path name : String) : Action (Option String) := do
  match ← Action.tryFiles (.openRead (Action.resolve path name)) with
  | .error f =>
    if f.isNotFound then pure (some (name ++ " - file does not exist"))
    else pure (some (name ++ " - " ++ f.message))
  | .ok id =>
    match ← Action.attempt (Action.copy (.file id 0) .output) with
    | .ok _ => pure none
    | .error .stopped => Action.fail .stopped
    | .error e => pure (some (name ++ " - " ++ e.message))

def run (path : String) : (files : List String) → Action Unit
  | [] => do
    let _ ← Action.copy .input .output
    pure ()
  | files => Action.forOperands files (printOne path)

def usage : Usage where
  positionals := [("files", .greedy)]
  help := "Usage: cat [files...]\n\nPrint files to standard output; without files, copy standard input.\n\n" ++
    "Options:\n  --help, help      display usage information\n"

def builtin : Builtin where
  name := "cat"
  usage := usage
  run path operands := run path (operands.wordsOf "files")

end Cat

namespace Echo

def run (bare : Bool) (words : List String) : Action Unit :=
  Action.print (String.intercalate " " words ++ if bare then "" else "\n")

def usage : Usage where
  flags := [("-n", "bare", .switch), ("--no-newline", "bare", .switch)]
  positionals := [("args", .greedy)]
  help := "Usage: echo [-n] [args...]\n\n" ++
    "write the arguments to standard output, separated by spaces. by default, a trailing newline is printed.\n\n" ++
    "Options:\n  -n, --no-newline  do not output the trailing newline.\n" ++
    "  --help, help      display usage information\n"

def builtin : Builtin where
  name := "echo"
  usage := usage
  run _ operands := run (operands.hasSwitch "bare") (operands.wordsOf "args")

end Echo

namespace Action

def readFile (path name : String) : Action Bytes := do
  let id ← ask (.openRead (resolve path name))
  let (_, sink) ← copy (.file id 0) (.memory {})
  match sink with
  | .memory held => pure held.bytes
  | _ => pure []

/-- Goes on with the content of a file; a failure to read it that is no stop is reported under a label. -/
def withFile (path name label : String) (f : Bytes → Action Unit) : Action (Option String) := do
  match ← attempt (readFile path name) with
  | .ok data => do
    f data
    pure none
  | .error .stopped => fail .stopped
  | .error e => pure (some (label ++ ": " ++ name ++ ": " ++ e.message))

end Action

namespace Wc

structure Counts where
  lines : Nat
  words : Nat
  bytes : Nat
  deriving DecidableEq, Repr

def counts (data : Bytes) : Counts :=
  let text := Utf8.decode data
  ⟨(textLines text).length, wordCount text, data.length⟩

def Counts.render (c : Counts) : String := toString c.lines ++ " " ++ toString c.words ++ " " ++ toString c.bytes

def countOne (path name : String) : Action (Option String) :=
  Action.withFile path name "wc" (fun data => Action.print ((counts data).render ++ " " ++ name ++ "\n"))

def run (path : String) : (files : List String) → Action Unit
  | [] => do
    let data ← Action.readAll
    Action.print ((counts data).render ++ "\n")
  | files => Action.forOperands files (countOne path)

def usage : Usage where
  positionals := [("files", .greedy)]
  help := "Usage: wc [files...]\n\ncount lines, words and bytes\n\nOptions:\n" ++
    "  --help, help      display usage information\n"

def builtin : Builtin where
  name := "wc"
  usage := usage
  run path operands := run path (operands.wordsOf "files")

end Wc
end LineShell
