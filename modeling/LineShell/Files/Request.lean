import LineShell.Files.Change
/-!
# Request — what commands ask of the files

Commands reach files only through requests.  Each has a type of reply, and `Files.serve` answers it from a tree and
gives the tree that is left.  `FileRequest.isReading` tells the requests that cannot change anything.
-/
namespace LineShell

inductive FileRequest where
  | openRead (p : Path)
  | create (p : Path)
  | readAt (id : NodeId) (offset limit : Nat)
  | writeAt (id : NodeId) (offset : Nat) (data : Bytes)
  /-- `follow` says whether a link stands for what it leads to. -/
  | metadata (follow : Bool) (p : Path)
  | canonical (p : Path)
  | listing (p : Path)
  | entryMetadata (dir : NodeId) (name : Bytes)
  | makeDirectory (p : Path)
  | unlink (p : Path)
  | rename (source target : Path)
  | removeTree (p : Path)
  deriving DecidableEq, Repr

namespace FileRequest

def Answer : FileRequest → Type
  | openRead _ => NodeId
  | create _ => NodeId
  | readAt .. => Bytes
  | writeAt .. => Nat
  | metadata .. => Metadata
  | canonical _ => Path
  | listing _ => NodeId × List (Bytes × Kind)
  | entryMetadata .. => Metadata
  | makeDirectory _ => Unit
  | unlink _ => Unit
  | rename .. => Unit
  | removeTree _ => Unit

/-- The requests that leave every tree as it is. -/
def isReading : FileRequest → Bool
  | openRead _ | readAt .. | metadata .. | canonical _ | listing _ | entryMetadata .. => true
  | create _ | writeAt .. | makeDirectory _ | unlink _ | rename .. | removeTree _ => false

end FileRequest

def Files.serve (fs : Files) : (q : FileRequest) → Except Fault q.Answer × Files
  | .openRead p => (fs.openRead p, fs)
  | .create p => fs.create p
  | .readAt id offset limit => (fs.readAt id offset limit, fs)
  | .writeAt id offset data => fs.writeAt id offset data
  | .metadata follow p => (fs.metadata (if follow then .follow else .keep) p, fs)
  | .canonical p => (fs.canonical p, fs)
  | .listing p => (fs.listing p, fs)
  | .entryMetadata dir name => (fs.entryMetadata dir name, fs)
  | .makeDirectory p => fs.makeDirectory p
  | .unlink p => fs.unlink p
  | .rename source target => fs.rename source target
  | .removeTree p => fs.removeTree p

theorem Files.serve_of_isReading (fs : Files) (q : FileRequest) (h : q.isReading = true) : (fs.serve q).2 = fs := by
  cases q <;> first | rfl | simp [FileRequest.isReading] at h

end LineShell
