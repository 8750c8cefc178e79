import LineShell.Files.Lookup
/-!
# Change — making, writing, moving and removing files

Each operation gives its result and the tree it leaves behind.  One that fails leaves the tree as it was, but for
`removeTree`, which may fail after it has emptied the directory it was to remove.
-/
namespace LineShell
namespace Files

def openRead (fs : Files) (p : Path) : Except Fault NodeId := do
  let trail ← fs.trailTo .follow p
  .ok trail.node

/-- The file that a path names, empty and open for writing; it is made where there is none. -/
def create (fs : Files) (p : Path) : Except Fault NodeId × Files :=
  match fs.lookup .make p with
  | .error f => (.error f, fs)
  | .ok (.found trail) =>
    match (fs.node? trail.node).map Node.content with
    | some (.file _) => (.ok trail.node, fs.setContent trail.node (.file []))
    | some .device => (.ok trail.node, fs)
    | some (.directory ..) => (.error (.system .isDirectory), fs)
    | _ => (.error (.system .notFound), fs)
  | .ok (.absent dir name) =>
    if fs.isRemoved dir.node then (.error (.system .notFound), fs)
    else
      let (id, made) := fs.addNode ⟨.file [], fileMode, fs.now⟩
      (.ok id, made.enter dir.node name id)

def readAt (fs : Files) (id : NodeId) (offset limit : Nat) : Except Fault Bytes :=
  match (fs.node? id).map Node.content with
  | some (.file data) => .ok ((data.drop offset).take limit)
  | some (.directory ..) => .error (.system .isDirectory)
  | _ => .ok []

/-- Data with some of it overwritten from an offset on; a gap before the offset is filled with zeros. -/
def overwrite (old : Bytes) (offset : Nat) (data : Bytes) : Bytes :=
  old.take offset ++ List.replicate (offset - old.length) 0 ++ data ++ old.drop (offset + data.length)

def writeAt (fs : Files) (id : NodeId) (offset : Nat) (data : Bytes) : Except Fault Nat × Files :=
  match (fs.node? id).map Node.content with
  | some (.file old) => (.ok data.length, fs.setContent id (.file (overwrite old offset data)))
  | _ => (.ok data.length, fs)

def makeDirectory (fs : Files) (p : Path) : Except Fault Unit × Files :=
  match fs.parent p with
  | .error f => (.error f, fs)
  | .ok (dir, .name n _) =>
    if Path.maxName < n.length then (.error (.system .nameTooLong), fs)
    else if (fs.child? dir.node n).isSome then (.error (.system .alreadyExists), fs)
    else if fs.isRemoved dir.node then (.error (.system .notFound), fs)
    else
      let (id, made) := fs.addNode ⟨.directory [] false, directoryMode, fs.now⟩
      (.ok (), made.enter dir.node n id)
  | .ok _ => (.error (.system .alreadyExists), fs)

def unlink (fs : Files) (p : Path) : Except Fault Unit × Files :=
  match fs.parent p with
  | .error f => (.error f, fs)
  | .ok (dir, .name n slash) =>
    if Path.maxName < n.length then (.error (.system .nameTooLong), fs)
    else
      match fs.child? dir.node n with
      | none => (.error (.system .notFound), fs)
      | some id =>
        if fs.isDirectory id then (.error (.system .isDirectory), fs)
        else if slash then (.error (.system .notDirectory), fs)
        else (.ok (), fs.leave dir.node n)
  | .ok _ => (.error (.system .isDirectory), fs)

/-- Gives a file or link another name, which it takes from whatever has it; directories are not moved. -/
def rename (fs : Files) (source target : Path) : Except Fault Unit × Files :=
  match fs.parent source, fs.parent target with
  | .error f, _ => (.error f, fs)
  | _, .error f => (.error f, fs)
  | .ok (sourceDir, .name s sourceSlash), .ok (targetDir, .name t targetSlash) =>
    if Path.maxName < s.length ∨ Path.maxName < t.length then (.error (.system .nameTooLong), fs)
    else
      match fs.child? sourceDir.node s with
      | none => (.error (.system .notFound), fs)
      | some id =>
        if fs.isDirectory id then (.error (.system .isDirectory), fs)
        else if sourceSlash || targetSlash then (.error (.system .notDirectory), fs)
        else
          match fs.child? targetDir.node t with
          | none =>
            if fs.isRemoved targetDir.node then (.error (.system .notFound), fs)
            else (.ok (), (fs.leave sourceDir.node s).enter targetDir.node t id)
          | some old =>
            if fs.isDirectory old then (.error (.system .isDirectory), fs)
            else if old = id then (.ok (), fs)
            else (.ok (), ((fs.leave sourceDir.node s).leave targetDir.node t).enter targetDir.node t id)
  | .ok _, .ok _ => (.error (.system .busy), fs)

/-- Empties a directory down to `depth` levels, marking the directories in it as removed. -/
def clear (fs : Files) : (depth : Nat) → NodeId → Files
  | 0, _ => fs
  | depth + 1, dir =>
    match fs.node? dir with
    | some ⟨.directory entries removed, _, _⟩ =>
      let emptied := entries.foldl (fun fs e =>
        let fs := clear fs depth e.2
        match fs.node? e.2 with
        | some ⟨.directory inner _, _, _⟩ => fs.setContent e.2 (.directory inner true)
        | _ => fs) fs
      emptied.setContent dir (.directory [] removed)
    | _ => fs

def removeDirectory (fs : Files) (p : Path) : Except Fault Unit × Files :=
  match fs.parent p with
  | .error f => (.error f, fs)
  | .ok (_, .root) => (.error (.system .busy), fs)
  | .ok (_, .here) => (.error (.system .invalidArgument), fs)
  | .ok (_, .up) => (.error (.system .notEmpty), fs)
  | .ok (dir, .name n _) =>
    match fs.child? dir.node n with
    | none => (.error (.system .notFound), fs)
    | some id =>
      match fs.entries? id with
      | none => (.error (.system .notDirectory), fs)
      | some (_ :: _) => (.error (.system .notEmpty), fs)
      | some [] => (.ok (), (fs.setContent id (.directory [] true)).leave dir.node n)

/-- Removes a link, or a directory with all that is in it, links not followed. -/
def removeTree (fs : Files) (p : Path) : Except Fault Unit × Files :=
  match fs.trailTo .keep p with
  | .error f => (.error f, fs)
  | .ok trail =>
    match (fs.node? trail.node).map Node.content with
    | some (.link _) => fs.unlink p
    | some (.directory ..) =>
      let cleared := fs.clear (fs.nodes.size + 1) trail.node
      match cleared.removeDirectory p with
      | (.error f, left) => (if f.isNotFound then .ok () else .error f, left)
      | removed => removed
    | _ => (.error (.system .notDirectory), fs)

end Files
end LineShell
