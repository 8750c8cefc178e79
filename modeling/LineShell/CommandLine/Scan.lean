import LineShell.Text.Blank
/-!
# Scan — the words of a line in one pass

The words of each clause of a line, found by going through the line once: a quote switches between outside and
inside, a blank outside ends the word, a pipe outside ends the word and the clause, and every other character, the
quotes included, goes into the word under way.  `LineScan.feed` keeps no empty word.
-/
namespace LineShell

/-- A line gone through up to some point: whether that point is inside quotes, the words of the finished clauses
and of the clause under way, and the characters of the word under way, all latest first. -/
structure LineScan where
  quoted : Bool := false
  clauses : List (List (List Char)) := []
  words : List (List Char) := []
  current : List Char := []
  deriving DecidableEq, Repr

namespace LineScan

def endWord (s : LineScan) : LineScan :=
  if s.current.isEmpty then s else { s with words := s.current.reverse :: s.words, current := [] }

def endClause (s : LineScan) : LineScan :=
  let s := s.endWord
  { s with clauses := s.words.reverse :: s.clauses, words := [] }

def feed (s : LineScan) (c : Char) : LineScan :=
  if c = '"' then { s with quoted := !s.quoted, current := c :: s.current }
  else if s.quoted then { s with current := c :: s.current }
  else if isBlank c then s.endWord
  else if c = '|' then s.endClause
  else { s with current := c :: s.current }

def finish (s : LineScan) : List (List (List Char)) := s.endClause.clauses.reverse

end LineScan

/-- **The words of each clause of a line**, the blanks at the end of the line left out. -/
def scanLine (line : List Char) : List (List (List Char)) := ((trimEnd line).foldl LineScan.feed {}).finish

end LineShell
