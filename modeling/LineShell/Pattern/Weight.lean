import LineShell.Pattern.Expr
/-!
# Weight — how large a pattern may grow

A pattern is refused when its automaton over bytes would take more than `maxWeight`, read forwards or backwards.
The weight is reckoned from the expression without building anything: a state weighs `stateWeight`, a
repetition weighs as much as its copies, and a set beyond ASCII weighs what the tree of its UTF-8 sequences
(`CharSet.sequences`) does, whose equal ends are shared forwards and whose equal beginnings are shared backwards.
-/
namespace LineShell

/-- A row of byte ranges: the characters whose encodings take one byte from each. -/
abbrev ByteRanges := List (Nat × Nat)

namespace CharSet

/-- The sequences of a span of characters whose encodings have `more` bytes behind the first.  A byte is written
as the number its free bits spell. -/
def sequencesFrom : (more : Nat) → (lo hi : Nat) → List ByteRanges
  | 0, lo, hi => [[(lo, hi)]]
  | more + 1, lo, hi =>
    let block := 64 ^ (more + 1)
    let first := lo / block
    let last := hi / block
    if first = last then (sequencesFrom more (lo % block) (hi % block)).map ((first, first) :: ·)
    else
      let opening := if lo % block = 0 then [] else
        (sequencesFrom more (lo % block) (block - 1)).map ((first, first) :: ·)
      let closing := if hi % block = block - 1 then [] else
        (sequencesFrom more 0 (hi % block)).map ((last, last) :: ·)
      let lo := if lo % block = 0 then first else first + 1
      let hi := if hi % block = block - 1 then last else last - 1
      let whole := if lo ≤ hi then [(lo, hi) :: List.replicate (more + 1) (0, 63)] else []
      opening ++ whole ++ closing

/-- The spans of code points that are encoded with the same number of bytes, and how many follow the first. -/
def encodedSpans : List (Nat × Nat × Nat) :=
  [(0, 0x7F, 0), (0x80, 0x7FF, 1), (0x800, 0xD7FF, 2), (0xE000, 0xFFFF, 2), (0x10000, lastCode, 3)]

def sequences (s : CharSet) : List ByteRanges :=
  s.toList.flatMap (fun span =>
    encodedSpans.flatMap (fun (lo, hi, more) =>
      if max lo span.1 ≤ min hi span.2 then
        (sequencesFrom more (max lo span.1) (min hi span.2)).map (fun ranges =>
          -- the first byte tells how many follow
          match ranges with
          | (a, b) :: rest => (a + 1000 * more, b + 1000 * more) :: rest
          | [] => [])
      else []))

end CharSet

namespace Pattern

def byFirst (seqs : List ByteRanges) : List ((Nat × Nat) × List ByteRanges) :=
  (seqs.foldl (fun done seq =>
    match seq, done with
    | [], _ => done
    | first :: rest, (range, group) :: others =>
      if range = first then (range, rest :: group) :: others else (first, [rest]) :: done
    | first :: rest, [] => [(first, [rest])]) []).reverse.map (fun (range, group) => (range, group.reverse))

/-- The ranges in the tree of sequences, sequences sharing their equal beginnings; `depth` bounds their length. -/
def countRanges : (depth : Nat) → List ByteRanges → Nat
  | 0, _ => 0
  | depth + 1, seqs => (byFirst seqs).foldl (fun n branch => n + 1 + countRanges depth branch.2) 0

/-- The nodes of the tree of sequences with the ranges that leave each, nodes with equal subtrees taken once. -/
def gatherNodes : (depth : Nat) → (nodes : List (List ByteRanges × Nat)) → List ByteRanges →
    List (List ByteRanges × Nat)
  | 0, nodes, _ => nodes
  | depth + 1, nodes, seqs =>
    if seqs.all List.isEmpty || (nodes.lookup seqs).isSome then nodes
    else
      let branches := byFirst seqs
      branches.foldl (fun nodes branch => gatherNodes depth nodes branch.2) ((seqs, branches.length) :: nodes)

def stateWeight : Nat := 32

def rangeWeight : Nat := 8

def choiceWeight : Nat := 4

def choosing (n : Nat) : Nat := stateWeight + n * choiceWeight

def setWeight (backwards : Bool) (s : CharSet) : Nat :=
  match s.toList with
  | [] => stateWeight
  | spans =>
    let single := match spans with
      | [(lo, hi)] => lo == hi
      | _ => false
    if single then stateWeight * ((s.sequences.head?.getD []).length)
    else if isAscii s then 2 * stateWeight + spans.length * rangeWeight
    else if backwards then
      let seqs := s.sequences
      stateWeight + choosing seqs.length + stateWeight * countRanges 4 seqs
    else
      let nodes := gatherNodes 4 [] s.sequences
      stateWeight + nodes.foldl (fun n node => n + stateWeight + node.2 * rangeWeight) 0

mutual

/-- Whether an expression never matches without a character. -/
def Expr.consumes : Expr → Bool
  | .empty | .look _ => false
  | .set s => !s.isEmpty
  | .group body => body.consumes
  | .concat parts => Expr.anyConsumes parts
  | .alternation branches => Expr.allConsume branches
  | .repetition least _ body => least != 0 && body.consumes

def Expr.anyConsumes : List Expr → Bool
  | [] => false
  | e :: es => e.consumes || Expr.anyConsumes es

def Expr.allConsume : List Expr → Bool
  | [] => true
  | e :: es => e.consumes && Expr.allConsume es

end

def repetitionWeight (least : Nat) (most : Option Nat) (consumes : Bool) (body : Nat) : Nat :=
  match most with
  | none =>
    if least = 0 then
      if consumes then body + choosing 2 else body + 2 * choosing 2 + stateWeight
    else least * body + choosing 2
  | some most =>
    let required := if least = 0 then (if most = 1 then 0 else stateWeight) else least * body
    if least = most then required else required + (most - least) * (body + choosing 2) + stateWeight

mutual

def Expr.weight (backwards : Bool) : Expr → Nat
  | .empty => stateWeight
  | .set s => setWeight backwards s
  | .look _ => stateWeight
  | .group body => body.weight backwards + if backwards then 0 else 2 * stateWeight
  | .concat parts => Expr.weights backwards parts
  | .alternation branches => Expr.weights backwards branches + Expr.choices branches + 2 * stateWeight
  | .repetition least most body => repetitionWeight least most body.consumes (body.weight backwards)

def Expr.weights (backwards : Bool) : List Expr → Nat
  | [] => 0
  | e :: es => e.weight backwards + Expr.weights backwards es

def Expr.choices : List Expr → Nat
  | [] => 0
  | _ :: es => choiceWeight + Expr.choices es

end

def maxWeight : Nat := 10 * 1024 * 1024

/-- What surrounds every pattern: the search for its start, the whole match and the end. -/
def frameWeight : Nat := 3 * stateWeight + choosing 2

def Expr.fits (e : Expr) : Bool :=
  e.weight false + 2 * stateWeight + frameWeight ≤ maxWeight && e.weight true + frameWeight ≤ maxWeight

end Pattern
end LineShell
