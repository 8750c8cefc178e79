import LineShell.Pattern.Machine
import LineShell.Pattern.Reading
import LineShell.Pattern.Weight
/-!
# Matcher — patterns that lines are tried against

A text is read as a pattern (`Pattern.ofText?`) or refused; a pattern then says of every line whether some part of
it matches (`Pattern.matchesLine`).
-/
namespace LineShell

structure Pattern where
  machine : Pattern.Machine
  deriving Repr, Inhabited

namespace Pattern

/-- The pattern that a text spells, if it spells one that is small enough. -/
def ofText? (ignoreCase : Bool) (text : List Char) : Option Pattern := do
  let ast ← readAst text
  let (expr, _) ← ast.toExpr { ignoreCase }
  if expr.fits then some ⟨Machine.ofExpr expr⟩ else none

def matchesLine (p : Pattern) (line : List Char) : Bool := p.machine.search line

end Pattern
end LineShell
