import LineShell.Files.Tree
import LineShell.Shell.Run
/-!
# Main — the program

Hands the words of the command line, the standard input and the environment to the shell, and passes on what the
shell shows.  The shell has a tree of files to itself, which lasts as long as the shell does.
-/
namespace LineShell

def invocationOf (words : List String) (input : Bytes) (filterVariable terminal workingDirectory : Option String) :
    Invocation where
  words := words
  input := input
  filterVariable := filterVariable
  prompts := terminal == some "dumb"
  files := Files.ofDirectory (Path.ofString (workingDirectory.getD "/"))

end LineShell

def main (words : List String) : IO UInt32 := do
  let input ← (← IO.getStdin).readBinToEnd
  let filterVariable ← IO.getEnv "RUST_LOG"
  let terminal ← IO.getEnv "TERM"
  let workingDirectory ← IO.getEnv "PWD"
  let completion :=
    LineShell.Shell.run (LineShell.invocationOf words input.toList filterVariable terminal workingDirectory)
  let output ← IO.getStdout
  output.write ⟨completion.output.toArray⟩
  output.flush
  (← IO.getStderr).write ⟨completion.error.toArray⟩
  return UInt32.ofNat completion.status
