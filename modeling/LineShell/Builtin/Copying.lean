import LineShell.Builtin.Basic
/-!
# Copying — `cp` and `mv`

Both take a source, which has to be there and be no directory, and a target that is spelled differently.  `cp`
opens the source and empties or makes the target before it copies; `mv` gives the source the target's name.
-/
namespace LineShell

namespace Action

def sourceAndTarget (path : String) : (files : List String) → Action (Path × Path)
  | [source, target] => do
    let source := resolve path source
    let target := resolve path target
    if source.components = target.components then fail (.other "Source and target file are the same")
    else
      match ← tryFiles (.metadata true source) with
      | .ok found =>
        if found.kind = .directory then fail (.other (source.render ++ " - is a directory"))
        else pure (source, target)
      | .error f =>
        if f.isNotFound then fail (.other (source.render ++ " - is not a valid name in the file system"))
        else fail (.fault f)
  | _ => fail (.other "Two arguments are needed")

end Action

namespace Cp

def run (path : String) (files : List String) : Action Unit := do
  let (source, target) ← Action.sourceAndTarget path files
  let input ← Action.askOr (.openRead source) ("cannot open " ++ source.render)
  let output ← Action.askOr (.create target) ("cannot create " ++ target.render)
  let _ ← Action.copy (.file input 0) (.file output 0)
  pure ()

def usage : Usage where
  positionals := [("files", .greedy)]
  help := "Usage: cp [files...]\n\nCopy a file.\n\nOptions:\n  --help, help      display usage information\n"

def builtin : Builtin where
  name := "cp"
  usage := usage
  run path operands := run path (operands.wordsOf "files")

end Cp

namespace Mv

def run (path : String) (files : List String) : Action Unit := do
  let (source, target) ← Action.sourceAndTarget path files
  Action.check
  let _ ← Action.askOr (.rename source target) ("cannot move " ++ source.render ++ " to " ++ target.render)
  pure ()

def usage : Usage where
  positionals := [("files", .greedy)]
  help := "Usage: mv [files...]\n\nMove or rename a file.\n\nOptions:\n  --help, help      display usage information\n"

def builtin : Builtin where
  name := "mv"
  usage := usage
  run path operands := run path (operands.wordsOf "files")

end Mv
end LineShell
