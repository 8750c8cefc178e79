import LineShell.Files.Basic
/-!
# Lookup — where a path leads

A path is walked name by name.  Every name but the last is looked up in a directory; `.` stays, `..` goes back up
the trail (and stays at the root), and a link puts the names of its path in its place.  `advance` walks until it
arrives, meets a link it has to follow, or fails; `resolve` follows up to `maxLinks` links.  A name that is only
missing as the last of its path leads to the place where it could be entered.
-/
namespace LineShell

inductive Ending where
  /-- A link stands for what it leads to. -/
  | follow
  /-- A link stands for itself. -/
  | keep
  /-- A link stands for what it leads to, and a file is to be made where none is; a slash at the end refuses. -/
  | make
  deriving DecidableEq, Repr

inductive Place where
  | found (trail : Trail)
  /-- Nothing is there, but the directory is. -/
  | absent (dir : Trail) (name : Bytes)
  deriving DecidableEq, Repr

inductive Halt where
  | arrived (place : Place)
  /-- A link found in `dir` has to be followed before the names of `rest`. -/
  | link (dir : Trail) (target : Path) (rest : List Bytes)
  | failed (fault : SystemFault)
  deriving DecidableEq, Repr

namespace Files

def maxLinks : Nat := 40

def advance (fs : Files) (ending : Ending) (here : Trail) : List Bytes → Halt
  | [] => .arrived (.found here)
  | name :: rest =>
    match fs.entries? here.node with
    | none => .failed .notDirectory
    | some entries =>
      if name.isEmpty || name == Path.here then advance fs ending here rest
      else if name == Path.up then advance fs ending here.tail rest
      else if Path.maxName < name.length then .failed .nameTooLong
      else if ending = .make ∧ rest ≠ [] ∧ rest.all List.isEmpty then .failed .isDirectory
      else
        match entries.lookup name with
        | none => if rest.isEmpty then .arrived (.absent here name) else .failed .notFound
        | some id =>
          match (fs.node? id).map Node.content with
          | some (.link target) =>
            if rest.isEmpty && ending == .keep then .arrived (.found ((name, id) :: here))
            else .link here target rest
          | _ => advance fs ending ((name, id) :: here) rest

/-- The directory from which a path is read, when it is met in `dir`. -/
def startOf (dir : Trail) (p : Path) : Trail := if p.isAbsolute then [] else dir

/-- Walks along names and follows at most `hops` links. -/
def resolve (fs : Files) (ending : Ending) : (hops : Nat) → Trail → List Bytes → Except SystemFault Place
  | hops, here, names =>
    match fs.advance ending here names with
    | .arrived place => .ok place
    | .failed f => .error f
    | .link dir target rest =>
      match hops with
      | 0 => .error .tooManyLinks
      | hops + 1 => resolve fs ending hops (startOf dir target) (target.steps ++ rest)

def checkPath (p : Path) : Except Fault Unit :=
  if p.contains 0 then .error .nulInName
  else if p.isEmpty then .error (.system .notFound)
  else if Path.maxPath < p.length then .error (.system .nameTooLong)
  else .ok ()

/-- **Where a path leads.** -/
def lookup (fs : Files) (ending : Ending) (p : Path) : Except Fault Place := do
  checkPath p
  match fs.resolve ending maxLinks (startOf fs.cwd p) p.steps with
  | .ok place => .ok place
  | .error f => .error (.system f)

def trailTo (fs : Files) (ending : Ending) (p : Path) : Except Fault Trail := do
  match ← fs.lookup ending p with
  | .found trail => .ok trail
  | .absent .. => .error (.system .notFound)

/-- The last name of a path, as it stands there. -/
inductive LastName where
  /-- `slash` says that a slash follows the name. -/
  | name (n : Bytes) (slash : Bool)
  | here
  | up
  | root
  deriving DecidableEq, Repr

def parent (fs : Files) (p : Path) : Except Fault (Trail × LastName) := do
  checkPath p
  let steps := p.steps
  let names := steps.filter (fun n => !n.isEmpty)
  match names.getLast? with
  | none => .ok (startOf fs.cwd p, .root)
  | some last =>
    match fs.resolve .follow maxLinks (startOf fs.cwd p) (names.dropLast ++ [[]]) with
    | .error f => .error (.system f)
    | .ok (.absent ..) => .error (.system .notFound)
    | .ok (.found dir) =>
      .ok (dir,
        if last == Path.here then .here else if last == Path.up then .up
        else .name last (steps.length != names.length))

def metadata (fs : Files) (ending : Ending) (p : Path) : Except Fault Metadata := do
  let trail ← fs.trailTo ending p
  match fs.node? trail.node with
  | some n => .ok n.metadata
  | none => .error (.system .notFound)

/-- The path without links, `.` and `..` to what a path names, if it can be looked up itself. -/
def canonical (fs : Files) (p : Path) : Except Fault Path := do
  let trail ← fs.trailTo .follow p
  if Path.maxPath < trail.path.length then .error (.system .nameTooLong) else .ok trail.path

/-- The metadata of an entry, a link standing for itself. -/
def entryMetadata (fs : Files) (dir : NodeId) (name : Bytes) : Except Fault Metadata :=
  match (fs.child? dir name).bind fs.node? with
  | some n => .ok n.metadata
  | none => .error (.system .notFound)

/-- The directory that a path names, with the names and kinds of its entries in the order it lists them. -/
def listing (fs : Files) (p : Path) : Except Fault (NodeId × List (Bytes × Kind)) := do
  let trail ← fs.trailTo .follow p
  match fs.entries? trail.node with
  | none => .error (.system .notDirectory)
  | some entries =>
    .ok (trail.node, entries.map (fun e => (e.1, ((fs.node? e.2).map (fun n => n.content.kind)).getD .file)))

end Files
end LineShell
