import LineShell.Files.Change
/-!
# Tree — planting files and surveying them

`plant` makes a file, a directory with its missing parents, or a link; `survey` lists everything below a
directory, each directory followed by what is in it and the names of a directory in byte order.
-/
namespace LineShell

inductive Planted where
  | file (data : Bytes)
  | directory
  | link (target : Path)
  | device
  deriving DecidableEq, Repr

namespace Files

def makeDirectories (fs : Files) (p : Path) : Files :=
  let start : Path := if p.isAbsolute then [Bytes.slash] else []
  (p.pieces.foldl (fun (fs, done) name =>
    if name.isEmpty then (fs, done)
    else
      let path := if done.isEmpty then name else Path.join done name
      ((fs.makeDirectory path).2, path)) (fs, start)).1

def place (fs : Files) (p : Path) (n : Node) : Files :=
  match fs.parent p with
  | .ok (dir, .name name _) =>
    let (id, made) := fs.addNode n
    made.enter dir.node name id
  | _ => fs

def plant (fs : Files) (p : Path) : Planted → Files
  | .file data =>
    match fs.create p with
    | (.ok id, made) => (made.writeAt id 0 data).2
    | (.error _, left) => left
  | .directory => fs.makeDirectories p
  | .link target => fs.place p ⟨.link target, linkMode, fs.now⟩
  | .device => fs.place p ⟨.device, 0o666, fs.now⟩

/-- A tree with the null device, and a directory with nothing in it as the place of the process. -/
def ofDirectory (workingDirectory : Path) : Files :=
  let fs := (blank.plant (Path.ofString "/dev") .directory).plant (Path.ofString "/dev/null") .device
  let fs := fs.plant workingDirectory .directory
  { fs with cwd := (fs.trailTo .follow workingDirectory).toOption.getD [] }

def adjust (fs : Files) (ending : Ending) (p : Path) (f : Node → Node) : Files :=
  match fs.trailTo ending p with
  | .ok trail =>
    match fs.node? trail.node with
    | some n => fs.setNode trail.node (f n)
    | none => fs
  | .error _ => fs

def surveyFrom (fs : Files) : (depth : Nat) → (above : Path) → NodeId → List (Path × Planted)
  | 0, _, _ => []
  | depth + 1, above, dir =>
    let entries := ((fs.entries? dir).getD []).mergeSort (fun a b => Bytes.precedes a.1 b.1)
    entries.flatMap (fun e =>
      let path := Path.join above e.1
      match (fs.node? e.2).map Node.content with
      | some (.file data) => [(path, .file data)]
      | some (.link target) => [(path, .link target)]
      | some .device => [(path, .device)]
      | some (.directory ..) => (path, .directory) :: surveyFrom fs depth path e.2
      | none => [])

def survey (fs : Files) (p : Path) : List (Path × Planted) :=
  match fs.trailTo .follow p with
  | .ok trail => surveyFrom fs (fs.nodes.size + 1) [] trail.node
  | .error _ => []

end Files
end LineShell
