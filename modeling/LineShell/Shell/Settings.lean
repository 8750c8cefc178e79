import LineShell.Files.Lookup
import LineShell.Usage
/-!
# Settings — what a session starts with

The words of the command line say where to start, what to run, what to log and which keywords end the session;
settings fill in what they leave open.
-/
namespace LineShell

structure Choices where
  dir : Option String := none
  command : Option String := none
  logFilter : Option String := none
  exitKeywords : List String := []
  deriving DecidableEq, Repr, Inhabited

namespace Choices

def usage : Usage where
  flags := [("--dir", "dir", .single), ("-c", "command", .single), ("--command", "command", .single),
    ("--log-filter", "log-filter", .single), ("--exit-keyword", "exit-keyword", .repeated)]
  help := "Usage: pipeline-shell [--dir <dir>] [-c <command>] [--log-filter <log-filter>] " ++
    "[--exit-keyword <exit-keyword...>]\n\n" ++
    "Line-oriented command interpreter with pipes, redirection and background runs.\n\nOptions:\n" ++
    "  --dir             directory to start in; defaults to the process working\n                    directory.\n" ++
    "  -c, --command     run a single command line and exit.\n" ++
    "  --log-filter      tracing filter directive, e.g. `debug` or\n" ++
    "                    `pipeline_shell=trace`; overrides RUST_LOG.\n" ++
    "  --exit-keyword    keyword that ends the session; repeatable. Defaults to exit,\n" ++
    "                    logout and bye.\n" ++
    "  --help, help      display usage information\n"

def ofWords (words : List String) : Except UsageStop Choices :=
  match usage.read words with
  | .error stop => .error stop
  | .ok o =>
    .ok {
      dir := (o.valuesOf "dir").head?
      command := (o.valuesOf "command").head?
      logFilter := (o.valuesOf "log-filter").head?
      exitKeywords := o.valuesOf "exit-keyword" }

end Choices

structure Settings where
  startDir : String
  exitKeywords : List String
  /-- The keyword that says farewell before it ends the session. -/
  farewell : String := "bye"
  prompt : String := "$ "
  logFilter : String
  /-- The one line to run. -/
  command : Option String := none
  deriving DecidableEq, Repr, Inhabited

namespace Settings

def defaultExitKeywords : List String := ["exit", "logout", "bye"]

def defaultLogFilter : String := "warn"

/-- The directory to start in: the one given, which has to be there, or the process' own. -/
def startDirOf (fs : Files) : Option String → Except String String
  | none => .ok fs.cwd.path.render
  | some dir =>
    match fs.canonical (Path.ofString dir) with
    | .ok p => .ok (Path.render p)
    | .error f => .error (dir ++ " - cannot start here: " ++ f.message)

/-- Settings from choices; `fromEnvironment` is the filter that the environment sets, and counts unless it is empty. -/
def resolve (fs : Files) (choices : Choices) (fromEnvironment : Option String) : Except String Settings :=
  match startDirOf fs choices.dir with
  | .error e => .error e
  | .ok startDir =>
    .ok {
      startDir
      exitKeywords := if choices.exitKeywords.isEmpty then defaultExitKeywords else choices.exitKeywords
      logFilter := (choices.logFilter.orElse (fun _ => fromEnvironment.filter (· ≠ ""))).getD defaultLogFilter
      command := choices.command }

end Settings
end LineShell
