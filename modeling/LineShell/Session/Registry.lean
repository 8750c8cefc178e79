import LineShell.Builtin.Catalogue
/-!
# Registry — commands and exit keywords by name

Commands and exit keywords are registered under names, each name once.  The two lists have nothing to do with each
other, and grow only at their ends.
-/
namespace LineShell

structure Registry where
  exits : List String := []
  commands : List Command := []

inductive RegistryError where
  | alreadyRegistered (name : String)
  deriving DecidableEq, Repr

def RegistryError.message : RegistryError → String
  | alreadyRegistered name => name ++ " - command with that name already exists"

namespace Registry

def lookup (r : Registry) (name : String) : Option Command := r.commands.find? (fun c => c.name == name)

def isExit (r : Registry) (name : String) : Bool := r.exits.contains name

def names (r : Registry) : List String := r.commands.map Command.name

def register (r : Registry) (c : Command) : Except RegistryError Registry :=
  match r.lookup c.name with
  | some _ => .error (.alreadyRegistered c.name)
  | none => .ok { r with commands := r.commands ++ [c] }

def registerExit (r : Registry) (name : String) : Except RegistryError Registry :=
  if r.isExit name then .error (.alreadyRegistered name) else .ok { r with exits := r.exits ++ [name] }

/-- Registers commands up to the first that fails; what was registered before it stays. -/
def registerAll (r : Registry) : List Command → Option RegistryError × Registry
  | [] => (none, r)
  | c :: cs =>
    match r.register c with
    | .error e => (some e, r)
    | .ok r => r.registerAll cs

def install (r : Registry) : Option RegistryError × Registry := r.registerAll (Builtin.all.map Builtin.command)

end Registry
end LineShell
