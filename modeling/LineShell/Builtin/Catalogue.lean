import LineShell.Builtin.Copying
import LineShell.Builtin.Entries
import LineShell.Builtin.Listing
import LineShell.Builtin.Paths
import LineShell.Builtin.Reaching
import LineShell.Builtin.Search
import LineShell.Builtin.Selecting
import LineShell.Builtin.Texts
/-!
# Catalogue — all builtins

The builtins in the order in which they are registered.
-/
namespace LineShell
namespace Builtin

def all : List Builtin :=
  [Pwd.builtin, Cd.builtin, Ls.builtin, Cat.builtin, Cp.builtin, Mv.builtin, Mkdir.builtin, Rm.builtin, Find.builtin,
    Ping.builtin, Echo.builtin, Wc.builtin, Grep.builtin]

def named? (name : String) : Option Builtin := all.find? (fun b => b.name == name)

end Builtin
end LineShell
