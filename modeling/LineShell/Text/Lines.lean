import LineShell.Text.Blank
/-!
# Lines — the lines and words of a text

A line ends at `\n`, and a `\r` before that `\n` belongs to the ending; what stands after the last `\n` is a line
only if it is not empty.  Words are the runs of characters that are not blank.
-/
namespace LineShell

/-- A text cut into lines up to some point: the finished lines and the characters after them, both latest first. -/
structure LineCutter where
  lines : List (List Char) := []
  current : List Char := []
  deriving DecidableEq, Repr

namespace LineCutter

def feed (l : LineCutter) (c : Char) : LineCutter :=
  if c = '\n' then
    match l.current with
    | '\r' :: rest => ⟨rest.reverse :: l.lines, []⟩
    | rest => ⟨rest.reverse :: l.lines, []⟩
  else ⟨l.lines, c :: l.current⟩

def finish (l : LineCutter) : List (List Char) :=
  match l.current with
  | [] => l.lines.reverse
  | rest => (rest.reverse :: l.lines).reverse

end LineCutter

/-- The lines of a text, without their endings. -/
def textLines (text : List Char) : List (List Char) := (text.foldl LineCutter.feed {}).finish

/-- Words counted up to some point, and whether that point is inside one. -/
structure WordCounter where
  count : Nat := 0
  inside : Bool := false
  deriving DecidableEq, Repr

def WordCounter.feed (w : WordCounter) (c : Char) : WordCounter :=
  if isBlank c then ⟨w.count, false⟩ else if w.inside then w else ⟨w.count + 1, true⟩

def wordCount (text : List Char) : Nat := (text.foldl WordCounter.feed {}).count

end LineShell
