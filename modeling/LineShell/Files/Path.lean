import LineShell.Text.Utf8
/-!
# Path — names that lead to files

A path is the text of names parted by slashes; one that starts with a slash is absolute.  `Path.join` reads a path
from a directory, `Path.components` gives the names that matter when two paths are compared, and `Path.steps` the
names that are looked up one after the other.
-/
namespace LineShell

abbrev Path := Bytes

namespace Path

def ofString (s : String) : Path := Bytes.ofString s

def render (p : Path) : String := Bytes.toText p

def isAbsolute (p : Path) : Bool := p.head? == some Bytes.slash

/-- `name` read from the directory `base`: an absolute name stands alone, any other is put behind a slash. -/
def join (base name : Path) : Path :=
  if isAbsolute name then name
  else
    match base.getLast? with
    | none => name
    | some b => if b = Bytes.slash then base ++ name else base ++ Bytes.slash :: name

/-- The texts between the slashes of a path: at least one, some perhaps empty. -/
def pieces (p : Path) : List Bytes :=
  let (current, done) := p.foldl (fun (current, done) b =>
    if b = Bytes.slash then ([], List.reverse current :: done) else (b :: current, done))
    (([], []) : Bytes × List Bytes)
  (current.reverse :: done).reverse

def here : Bytes := [0x2E]

def up : Bytes := [0x2E, 0x2E]

/-- What two spellings of a path have in common. -/
inductive Component where
  | root
  | here
  | up
  | name (n : Bytes)
  deriving DecidableEq, Repr

/-- The components of a path.  Repeated slashes count once, and a `.` counts only at the start of a path that is
not absolute. -/
def components (p : Path) : List Component :=
  let named (n : Bytes) : List Component :=
    if n.isEmpty || n == Path.here then [] else if n == Path.up then [.up] else [.name n]
  if isAbsolute p then .root :: (pieces p).flatMap named
  else
    match pieces p with
    | [] => []
    | first :: rest =>
      (if first == Path.here then [.here] else named first) ++ rest.flatMap named

def rootOf (p : Path) : Path :=
  match components p with
  | [] => [Bytes.slash]
  | .root :: _ => [Bytes.slash]
  | .here :: _ => Path.here
  | .up :: _ => Path.up
  | .name n :: _ => n

/-- The names that a path looks up in turn; a path that ends with a slash ends with an empty name. -/
def steps (p : Path) : List Bytes :=
  let all := pieces p
  let named := all.filter (fun n => !n.isEmpty)
  if !named.isEmpty && (all.getLast?.getD []).isEmpty then named ++ [[]] else named

/-- The last name of a path, or all of it when it does not end with a name. -/
def fileName (p : Path) : Bytes :=
  match (components p).getLast? with
  | some (.name n) => n
  | _ => p

def maxName : Nat := 255

def maxPath : Nat := 4095

end Path
end LineShell
