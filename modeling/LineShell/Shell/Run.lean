import LineShell.Session.Line
import LineShell.Shell.LogFilter
import LineShell.Shell.Settings
import LineShell.Text.Cluster
/-!
# Run — the shell from start to end

The shell is started with words, an input and files.  It runs the one line it is told to, or reads lines until the
input ends or an exit keyword is run; before each line it shows an empty line and the working path, and on a plain
terminal the prompt.  Commands read from the same input, so a line that a command has read is not run.
-/
namespace LineShell

structure Invocation where
  words : List String := []
  input : Bytes := []
  /-- The filter for log lines that the environment sets. -/
  filterVariable : Option String := none
  /-- Whether the prompt is shown before each line. -/
  prompts : Bool := false
  files : Files
  network : Network := {}

structure Completion where
  status : Nat
  output : Bytes
  error : Bytes
  files : Files

namespace Shell

def dropBreak (line : List Char) : List Char :=
  match line.reverse with
  | '\n' :: '\r' :: rest => rest.reverse
  | '\n' :: rest => rest.reverse
  | _ => line

/-- A line in which each backspace has taken away what is seen as the character before it. -/
def applyBackspaces (line : List Char) : List Char :=
  ((clusters line).foldl (fun done cluster =>
    if cluster = [Char.ofNat 8] then done.tail else cluster :: done) []).reverse.flatten

def takeLine (input : Bytes) : Bytes :=
  let body := input.takeWhile (· != Bytes.newline)
  if body.length < input.length then body ++ [Bytes.newline] else body

def textOf? (bytes : Bytes) : Option String :=
  let text := bytes.toText
  if Bytes.ofString text = bytes then some text else none

def illFormedLine : String := "stream did not contain valid UTF-8"

def display (s : Session) (text : String) : Session := { s with console := s.console.write (Bytes.ofString text) }

def runLine (settings : Settings) (s : Session) (line : String) : LineOutcome × Session :=
  let (report, s) := s.runLine settings.farewell line
  (report.outcome, display s report.text)

/-- Reads and runs lines; each round takes one.  The result says whether a line was ill-formed. -/
def readLines (settings : Settings) (prompts : Bool) : (rounds : Nat) → Session → Bool × Session
  | 0, s => (false, s)
  | rounds + 1, s =>
    let s := display s ("\n" ++ s.path ++ "\n" ++ if prompts then settings.prompt else "")
    let bytes := takeLine s.console.unread
    let s := { s with console := (s.console.read bytes.length).2 }
    if bytes.isEmpty then (false, s)
    else
      match textOf? bytes with
      | none => (true, s)
      | some text =>
        match runLine settings s (String.ofList (applyBackspaces (dropBreak text.toList))) with
        | (.exit, s) => (false, s)
        | (.goOn, s) => readLines settings prompts rounds s

def session (settings : Settings) (i : Invocation) : Except (String × String) Session :=
  match (({} : Registry).install) with
  | (some e, _) => .error ("cannot register builtin commands", e.message)
  | (none, registry) =>
    match settings.exitKeywords.foldlM Registry.registerExit registry with
    | .error e => .error ("cannot register exit keyword", e.message)
    | .ok registry =>
      .ok {
        path := settings.startDir, registry, files := i.files, network := i.network,
        console := { unread := i.input } }

def errorText (message cause : String) : String := "Error: " ++ message ++ "\n\nCaused by:\n    " ++ cause ++ "\n"

def filterWarning (filter : String) : String :=
  match LogFilter.fault? filter with
  | some f => "invalid log filter " ++ Quoted.render filter.toList ++ ": " ++ f.message ++ "\n"
  | none => ""

def runWith (settings : Settings) (i : Invocation) : Completion :=
  let warning := Bytes.ofString (filterWarning settings.logFilter)
  match session settings i with
  | .error (message, cause) => ⟨1, [], warning ++ Bytes.ofString (errorText message cause), i.files⟩
  | .ok s =>
    let (illFormed, s) := match settings.command with
      | some line => (false, (runLine settings s line).2)
      | none => readLines settings i.prompts (i.input.length + 1) s
    let complaint := if illFormed then Bytes.ofString (errorText illFormedLine illFormedLine) else []
    ⟨if illFormed then 1 else 0, s.console.output.bytes, warning ++ s.console.error.bytes ++ complaint, s.files⟩

def run (i : Invocation) : Completion :=
  match Choices.ofWords i.words with
  | .error (.help text) => ⟨0, Bytes.ofString (text ++ "\n"), [], i.files⟩
  | .error stop =>
    ⟨1, [], Bytes.ofString (stop.message ++ "\nRun pipeline-shell --help for more information.\n"), i.files⟩
  | .ok choices =>
    match Settings.resolve i.files choices i.filterVariable with
    | .error e => ⟨1, [], Bytes.ofString ("Error: " ++ e ++ "\n"), i.files⟩
    | .ok settings => runWith settings i

end Shell
end LineShell
