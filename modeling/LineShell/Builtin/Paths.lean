import LineShell.Builtin.Basic
/-!
# Paths — `pwd` and `cd`

`pwd` prints the path it starts from.  `cd` moves the command's own path: to the directory that its target names,
spelled without links, `.` and `..`, or without a target to the root of the path.
-/
namespace LineShell

namespace Pwd

def run (path : String) : Action Unit := Action.print path

def usage : Usage where
  help := "Usage: pwd\n\nPrint the current working directory to standard output.\n\nOptions:\n" ++
    "  --help, help      display usage information\n"

def builtin : Builtin where
  name := "pwd"
  usage := usage
  run path _ := run path

end Pwd

namespace Cd

def toRoot (path : String) : Action Unit :=
  Action.request (.moveTo (Path.rootOf (Path.ofString path)).render)

def toDirectory (candidate : Path) : Action Unit := do
  match ← Action.tryFiles (.metadata true candidate) with
  | .ok found =>
    if found.kind = .directory then
      let canonical ← Action.askOr (.canonical candidate) ("cd: can't canonicalize " ++ candidate.render)
      Action.request (.moveTo (Path.render canonical))
    else Action.fail (.other (candidate.render ++ " - path leads to file, not directory"))
  | .error f =>
    if f.isNotFound then Action.fail (.other (candidate.render ++ " - path does not exist"))
    else Action.fail (.fault f)

/-- Moves to the one target, or to the root without one; an empty target is none. -/
def run (path : String) : (targets : List String) → Action Unit
  | [] => toRoot path
  | [target] => if target = "" then toRoot path else toDirectory (Action.resolve path target)
  | _ => Action.fail (.other "Too many arguments")

def usage : Usage where
  positionals := [("target", .greedy)]
  help := "Usage: cd [target...]\n\n" ++
    "Change the current working directory. Without a target, changes to the root of the current path.\n\n" ++
    "Options:\n  --help, help      display usage information\n"

def builtin : Builtin where
  name := "cd"
  usage := usage
  run path operands := run path (operands.wordsOf "target")

end Cd
end LineShell
