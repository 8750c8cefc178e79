import LineShell.Builtin.Basic
/-!
# Entries — `mkdir` and `rm`

`mkdir` makes each directory it is given unless something is there already, be it only a link.  `rm` removes each
name it is given: without `-r` what is no directory, with `-r` what is one, with all that is in it.  What a name
leads to decides its kind, and the name itself is removed.
-/
namespace LineShell

namespace Mkdir

def makeOne (path name : String) : Action (Option String) := do
  Action.check
  let full := Action.resolve path name
  match ← Action.tryFiles (.metadata false full) with
  | .ok _ => pure (some (full.render ++ " - exists"))
  | .error f =>
    if f.isNotFound then
      match ← Action.tryFiles (.makeDirectory full) with
      | .ok _ => pure none
      | .error f => pure (some (full.render ++ " - " ++ f.message))
    else pure (some (full.render ++ " - " ++ f.message))

def run (path : String) (names : List String) : Action Unit :=
  if names.isEmpty then Action.fail (.other "At least one argument is needed")
  else Action.forOperands names (makeOne path)

def usage : Usage where
  positionals := [("dirs", .greedy)]
  help := "Usage: mkdir [dirs...]\n\nCreate directories.\n\nOptions:\n  --help, help      display usage information\n"

def builtin : Builtin where
  name := "mkdir"
  usage := usage
  run path operands := run path (operands.wordsOf "dirs")

end Mkdir

namespace Rm

def removal (recursive : Bool) (full : Path) (kind : Kind) : Except String FileRequest :=
  match recursive, kind == .directory with
  | true, true => .ok (.removeTree full)
  | false, false => .ok (.unlink full)
  | true, false => .error (full.render ++ " is a file")
  | false, true => .error (full.render ++ " is a directory")

def removeOne (path : String) (recursive : Bool) (name : String) : Action (Option String) := do
  Action.check
  let full := Action.resolve path name
  match ← Action.tryFiles (.metadata true full) with
  | .error f =>
    if f.isNotFound then pure (some (full.render ++ " is not a valid name in the file system"))
    else pure (some f.message)
  | .ok found =>
    match removal recursive full found.kind with
    | .error message => pure (some message)
    | .ok request =>
      match ← Action.tryFiles request with
      | .ok _ => pure none
      | .error f => pure (some (full.render ++ " - " ++ f.message))

def run (path : String) (recursive : Bool) (names : List String) : Action Unit :=
  if names.isEmpty then Action.fail (.other "At least one argument is needed")
  else Action.forOperands names (removeOne path recursive)

def usage : Usage where
  flags := [("-r", "recursive", .switch), ("--recursive", "recursive", .switch)]
  positionals := [("names", .greedy)]
  help := "Usage: rm [-r] [names...]\n\nRemove files, or directories with -r.\n\nOptions:\n" ++
    "  -r, --recursive   remove directories and their contents; files are left alone.\n" ++
    "  --help, help      display usage information\n"

def builtin : Builtin where
  name := "rm"
  usage := usage
  run path operands := run path (operands.hasSwitch "recursive") (operands.wordsOf "names")

end Rm
end LineShell
