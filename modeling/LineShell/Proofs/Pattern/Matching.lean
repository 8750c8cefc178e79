import LineShell.Pattern.Machine
/-!
# Matching — what part of a line an expression spans

An expression is read as a relation between two places of a line, from where a match starts to where it ends
(`Expr.Spans`).  A line matches an expression that spans some part of it (`Expr.MatchesIn`).
-/
namespace LineShell
namespace Pattern

/-- A place of a line: the character before it, and the line from there on. -/
structure Spot where
  before : Option Char
  rest : List Char
  deriving DecidableEq, Repr

inductive Spot.Takes : Char → Spot → Spot → Prop
  | take (before : Option Char) (c : Char) (rest : List Char) : Takes c ⟨before, c :: rest⟩ ⟨some c, rest⟩

def Look.At (l : Look) (p : Spot) : Prop := l.holds p.before p.rest.head? = true

/-- **What comes at a place or behind it.** -/
inductive Spot.Onward : Spot → Spot → Prop
  | here (p : Spot) : Onward p p
  | on {p q r : Spot} {c : Char} (h : Takes c p q) (hon : Onward q r) : Onward p r

inductive Iterates (step : Spot → Spot → Prop) : Nat → Spot → Spot → Prop
  | zero (p : Spot) : Iterates step 0 p p
  | succ {n : Nat} {p q r : Spot} (h : step p q) (hmore : Iterates step n q r) : Iterates step (n + 1) p r

mutual

/-- **What an expression spans**, from the place where it starts to the one where it ends. -/
def Expr.Spans : Expr → Spot → Spot → Prop
  | .empty => fun p q => p = q
  | .set s => fun p q => ∃ c, s.contains c = true ∧ Spot.Takes c p q
  | .look l => fun p q => l.At p ∧ p = q
  | .group body => body.Spans
  | .concat parts => Expr.SpansAll parts
  | .alternation branches => Expr.SpansAny branches
  | .repetition least most body => fun p q =>
    ∃ n, least ≤ n ∧ (∀ m ∈ most, n ≤ max least m) ∧ Iterates body.Spans n p q

def Expr.SpansAll : List Expr → Spot → Spot → Prop
  | [] => fun p q => p = q
  | e :: es => fun p q => ∃ r, e.Spans p r ∧ Expr.SpansAll es r q

def Expr.SpansAny : List Expr → Spot → Spot → Prop
  | [] => fun _ _ => False
  | e :: es => fun p q => e.Spans p q ∨ Expr.SpansAny es p q

end

/-- **Some part of a line is spanned.** -/
def Expr.MatchesIn (e : Expr) (line : List Char) : Prop :=
  ∃ p q, Spot.Onward ⟨none, line⟩ p ∧ e.Spans p q

end Pattern
end LineShell
