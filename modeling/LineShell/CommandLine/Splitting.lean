/-!
# Splitting — cutting text outside quotes

Text is cut at the separators that stand outside double quotes.  A quote character switches between outside and
inside and stays in its piece, so the pieces joined by their separators give the text back; a quote that is never
closed protects the rest of the text.
-/
namespace LineShell

/-- Text cut up to some point: whether that point is inside quotes, the finished pieces (latest first) and the
characters of the piece under way (latest first). -/
structure Splitter where
  quoted : Bool := false
  pieces : List (List Char) := []
  current : List Char := []
  deriving DecidableEq, Repr

namespace Splitter

def feed (isSeparator : Char → Bool) (s : Splitter) (c : Char) : Splitter :=
  let quoted := if c = '"' then !s.quoted else s.quoted
  if !quoted && isSeparator c then ⟨quoted, s.current.reverse :: s.pieces, []⟩
  else ⟨quoted, s.pieces, c :: s.current⟩

def finish (s : Splitter) : List (List Char) := (s.current.reverse :: s.pieces).reverse

end Splitter

/-- The pieces of a text between the separators outside double quotes: always at least one. -/
def splitUnquoted (isSeparator : Char → Bool) (text : List Char) : List (List Char) :=
  (text.foldl (Splitter.feed isSeparator) {}).finish

theorem splitUnquoted_ne_nil (isSeparator : Char → Bool) (text : List Char) : splitUnquoted isSeparator text ≠ [] := by
  simp [splitUnquoted, Splitter.finish]

end LineShell
