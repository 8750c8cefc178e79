import LineShell.Builtin.Basic
import LineShell.Files.Stamp
/-!
# Listing — `ls`

A directory is read to its end before anything is printed.  Its entries are shown in the order of their names, a
directory with a slash behind it: short in one line, or long with a line each, mode, size, time and name, the sizes
ending in one column.
-/
namespace LineShell
namespace Ls

structure Entry where
  name : String
  found : Metadata
  deriving DecidableEq, Repr, Inhabited

namespace Entry

def marked (e : Entry) : String := e.name ++ if e.found.kind = .directory then "/" else ""

def kindMark : Kind → Char
  | .directory => 'd'
  | .link => 'L'
  | .file | .device => '-'

def permissions (bits : Nat) : List Char :=
  [if bits &&& 4 ≠ 0 then 'r' else '-', if bits &&& 2 ≠ 0 then 'w' else '-', if bits &&& 1 ≠ 0 then 'x' else '-']

def modeText (m : Metadata) : String :=
  String.ofList (kindMark m.kind :: ([m.mode >>> 6, m.mode >>> 3, m.mode].flatMap permissions))

def sizeText (e : Entry) : String := toString e.found.size

end Entry

def alignRight (width : Nat) (text : String) : String :=
  String.ofList (List.replicate (width - text.length) ' ') ++ text

def longLine (width : Nat) (e : Entry) : String :=
  Entry.modeText e.found ++ " " ++ alignRight width e.sizeText ++ " " ++ Stamp.render e.found.modified ++ " " ++
    e.marked ++ "\n"

def sizeWidth (entries : List Entry) : Nat := (entries.map (fun e => e.sizeText.length)).foldl max 0

/-- Entries in the order of their names, those of one name as they came. -/
def sorted (entries : List Entry) : List Entry :=
  entries.mergeSort (fun a b => Bytes.precedes (Bytes.ofString a.name) (Bytes.ofString b.name))

def lookUp (dir : NodeId) : List (Bytes × Kind) → Action (List Entry)
  | [] => pure []
  | (name, _) :: rest => do
    Action.check
    let found ← Action.ask (.entryMetadata dir name)
    let entries ← lookUp dir rest
    pure (⟨Bytes.toText name, found⟩ :: entries)

def entries (dir : Path) : Action (List Entry) := do
  let (id, names) ← Action.askOr (.listing dir) ("ls: cannot read " ++ dir.render)
  let entries ← lookUp id names
  pure (sorted entries)

def printEach : List String → Action Unit
  | [] => pure ()
  | text :: rest => do
    Action.print text
    printEach rest

def texts (long : Bool) (entries : List Entry) : List String :=
  if long then entries.map (longLine (sizeWidth entries))
  else if entries.isEmpty then []
  else entries.map (fun e => e.marked ++ "    ") ++ ["\n"]

def run (path : String) (long : Bool) (dir : Option String) : Action Unit := do
  let entries ← entries (match dir with
    | some dir => Action.resolve path dir
    | none => Path.ofString path)
  printEach (texts long entries)

def usage : Usage where
  flags := [("-l", "long", .switch), ("--long", "long", .switch)]
  positionals := [("dir", .optional)]
  help := "Usage: ls [-l] [--] [<dir>]\n\nList the entries of a directory, sorted by name.\n\n" ++
    "Positional Arguments:\n  dir               directory to list; defaults to the current directory.\n\n" ++
    "Options:\n  -l, --long        long format: mode, size, modification time and name, one per\n" ++
    "                    line.\n  --help, help      display usage information\n"

def builtin : Builtin where
  name := "ls"
  usage := usage
  run path operands := run path (operands.hasSwitch "long") (operands.wordsOf "dir").head?

end Ls
end LineShell
