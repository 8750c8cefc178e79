import LineShell.Files.Fault
import LineShell.Files.Path
/-!
# Basic — a tree of files

Files are nodes, numbered in the order they came into being, and a node is never taken away: what is removed is
the name that led to it, so a file that is still open keeps its content.  A directory lists names and the nodes
they lead to, in the order in which the names were entered; a link holds a path; the null device swallows what is
written to it.  Node 0 is the root.
-/
namespace LineShell

abbrev NodeId := Nat

inductive Content where
  | file (data : Bytes)
  /-- `removed` says that no name leads here any more, and then none can be entered. -/
  | directory (entries : List (Bytes × NodeId)) (removed : Bool)
  | link (target : Path)
  | device
  deriving DecidableEq, Repr, Inhabited

inductive Kind where
  | file
  | directory
  | link
  | device
  deriving DecidableEq, Repr, Inhabited

def Content.kind : Content → Kind
  | file _ => .file
  | directory .. => .directory
  | link _ => .link
  | device => .device

structure Node where
  content : Content
  /-- The permission bits. -/
  mode : Nat
  /-- When it was last modified, in seconds since 1970. -/
  modified : Int := 0
  deriving DecidableEq, Repr, Inhabited

def directorySize : Nat := 4096

/-- The size of a node in bytes; a link is as long as its path. -/
def Node.size (n : Node) : Nat :=
  match n.content with
  | .file data => data.length
  | .directory .. => directorySize
  | .link target => target.length
  | .device => 0

structure Metadata where
  kind : Kind
  mode : Nat
  size : Nat
  modified : Int
  deriving DecidableEq, Repr, Inhabited

def Node.metadata (n : Node) : Metadata := ⟨n.content.kind, n.mode, n.size, n.modified⟩

/-- The way down from the root to a node: each name with the node it leads to, the last one first. -/
abbrev Trail := List (Bytes × NodeId)

def Trail.node : Trail → NodeId
  | [] => 0
  | (_, id) :: _ => id

def Trail.path (t : Trail) : Path :=
  if t.isEmpty then [Bytes.slash] else t.reverse.flatMap (fun step => Bytes.slash :: step.1)

/-- A tree of files, as a process sees it. -/
structure Files where
  nodes : Array Node
  /-- The directory from which names that are not absolute are read. -/
  cwd : Trail := []
  /-- The time stamped on what is made or changed. -/
  now : Int := 0
  deriving DecidableEq, Repr, Inhabited

namespace Files

def fileMode : Nat := 0o644

def directoryMode : Nat := 0o755

def linkMode : Nat := 0o777

def blank : Files := { nodes := #[⟨.directory [] false, directoryMode, 0⟩] }

def node? (fs : Files) (id : NodeId) : Option Node := fs.nodes[id]?

def entries? (fs : Files) (id : NodeId) : Option (List (Bytes × NodeId)) :=
  match fs.node? id with
  | some ⟨.directory entries _, _, _⟩ => some entries
  | _ => none

def isDirectory (fs : Files) (id : NodeId) : Bool := (fs.entries? id).isSome

def child? (fs : Files) (dir : NodeId) (name : Bytes) : Option NodeId :=
  (fs.entries? dir).bind (fun entries => entries.lookup name)

def data? (fs : Files) (id : NodeId) : Option Bytes :=
  match fs.node? id with
  | some ⟨.file data, _, _⟩ => some data
  | _ => none

def setNode (fs : Files) (id : NodeId) (n : Node) : Files := { fs with nodes := fs.nodes.setIfInBounds id n }

def setContent (fs : Files) (id : NodeId) (content : Content) : Files :=
  match fs.node? id with
  | some n => fs.setNode id { n with content, modified := fs.now }
  | none => fs

/-- A new node, which no name leads to yet. -/
def addNode (fs : Files) (n : Node) : NodeId × Files := (fs.nodes.size, { fs with nodes := fs.nodes.push n })

def enter (fs : Files) (dir : NodeId) (name : Bytes) (id : NodeId) : Files :=
  match fs.node? dir with
  | some ⟨.directory entries removed, _, _⟩ => fs.setContent dir (.directory (entries ++ [(name, id)]) removed)
  | _ => fs

def leave (fs : Files) (dir : NodeId) (name : Bytes) : Files :=
  match fs.node? dir with
  | some ⟨.directory entries removed, _, _⟩ =>
    fs.setContent dir (.directory (entries.filter (fun e => e.1 != name)) removed)
  | _ => fs

def isRemoved (fs : Files) (dir : NodeId) : Bool :=
  match fs.node? dir with
  | some ⟨.directory _ removed, _, _⟩ => removed
  | _ => false

theorem node?_setNode (fs : Files) (id id' : NodeId) (n : Node) :
    (fs.setNode id n).node? id' = if id = id' ∧ id < fs.nodes.size then some n else fs.node? id' := by
  unfold setNode node?
  simp only [Array.getElem?_setIfInBounds]
  by_cases h : id = id'
  · subst h
    by_cases hlt : id < fs.nodes.size
    · simp [hlt]
    · simp [hlt]
  · simp [h]

theorem node?_addNode (fs : Files) (n : Node) (id : NodeId) :
    (fs.addNode n).2.node? id = if id = fs.nodes.size then some n else fs.node? id := by
  unfold addNode node?
  simp only [Array.getElem?_push]

end Files
end LineShell
