import LineShell.Builtin.Basic
/-!
# Search — `find`

Each name is looked for on a walk of its own: the directory the command starts from first, every directory before
what is in it, the entries of a directory in byte order, links not followed but where the walk starts.  The first
entry of that name is reported.
-/
namespace LineShell
namespace Find

def visitFault (path : Path) (f : Fault) : String :=
  "IO error for operation on " ++ path.render ++ ": " ++ f.message

def firstVisit (root : Path) : Action Visit := do
  match ← Action.tryFiles (.metadata false root) with
  | .error f => pure (.fault root f)
  | .ok found =>
    if found.kind = .link then
      match ← Action.tryFiles (.metadata true root) with
      | .error f => pure (.fault root f)
      | .ok target => pure (.entry root (if target.kind = .directory then .directory else .link))
    else pure (.entry root found.kind)

def findOne (path name : String) : Action (Option String) := do
  Action.check
  let first ← firstVisit (Path.ofString path)
  match ← Action.loop .search (name, [first]) with
  | .found found => do
    Action.print (name ++ " found - " ++ found.render ++ "\n")
    pure none
  | .missing => do
    Action.print (name ++ " not found\n")
    pure none
  | .failed place f => pure (some (visitFault place f))

def run (path : String) (names : List String) : Action Unit :=
  if names.isEmpty then Action.fail (.other "At least one argument is needed")
  else Action.forOperands names (findOne path)

def usage : Usage where
  positionals := [("names", .greedy)]
  help := "Usage: find [names...]\n\nSearch the current directory tree for entries with the given names.\n\n" ++
    "Options:\n  --help, help      display usage information\n"

def builtin : Builtin where
  name := "find"
  usage := usage
  run path operands := run path (operands.wordsOf "names")

end Find
end LineShell
