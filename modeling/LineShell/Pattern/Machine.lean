import LineShell.Pattern.Expr
/-!
# Machine — searching a line in one pass

An expression is turned into a row of instructions (`Machine`), and a line is searched by moving a set of places
in that row along it, one character at a time.  The work is the product of both lengths, whatever the pattern is.
`assemble` builds from the end: given where to go on, it gives where to enter, and a loop is entered into its own
row once its body stands.
-/
namespace LineShell
namespace Pattern

inductive Instruction where
  /-- Takes one character of a set. -/
  | take (s : CharSet) (next : Nat)
  /-- Goes on at any of several places. -/
  | fork (next : List Nat)
  /-- Goes on if the place passes a test. -/
  | look (l : Look) (next : Nat)
  | accept
  deriving Repr, Inhabited

structure Machine where
  code : Array Instruction
  entry : Nat
  deriving Repr, Inhabited

def push (i : Instruction) (code : Array Instruction) : Nat × Array Instruction := (code.size, code.push i)

def times {α : Type} (f : α → α) : Nat → α → α
  | 0, a => a
  | n + 1, a => times f n (f a)

/-- Adds as many copies of a body as a repetition makes, each going on at the one before it. -/
def assembleRepeated (body : Nat × Array Instruction → Nat × Array Instruction) (least : Nat) (most : Option Nat)
    (after : Nat × Array Instruction) : Nat × Array Instruction :=
  let tail := match most with
    | some most =>
      times (fun (entry : Nat × Array Instruction) =>
        let (start, code) := body entry
        push (.fork [start, after.1]) code) (most - least) after
    | none =>
      let (loop, code) := push (.fork []) after.2
      let (start, code) := body (loop, code)
      (loop, code.setIfInBounds loop (.fork [start, after.1]))
  times body least tail

mutual

/-- Adds the instructions of an expression that go on at `after`. -/
def assemble : Expr → Nat × Array Instruction → Nat × Array Instruction
  | .empty, after => after
  | .set s, (next, code) => push (.take s next) code
  | .look l, (next, code) => push (.look l next) code
  | .group body, after => assemble body after
  | .concat parts, after => assembleConcat parts after
  | .alternation branches, after =>
    let (starts, code) := assembleBranches branches after
    push (.fork starts) code
  | .repetition least most body, after => assembleRepeated (assemble body) least most after

def assembleConcat : List Expr → Nat × Array Instruction → Nat × Array Instruction
  | [], after => after
  | e :: es, after => assemble e (assembleConcat es after)

def assembleBranches : List Expr → Nat × Array Instruction → List Nat × Array Instruction
  | [], (_, code) => ([], code)
  | e :: es, (next, code) =>
    let (start, code) := assemble e (next, code)
    let (starts, code) := assembleBranches es (next, code)
    (start :: starts, code)

end

def Machine.ofExpr (e : Expr) : Machine :=
  let (entry, code) := assemble e (0, #[.accept])
  ⟨code, entry⟩

/-! ## Searching -/

def isWord (unicode : Bool) : Option Char → Bool
  | none => false
  | some c => if unicode then Unicode.wordCharacters.contains c else asciiWord.contains c

/-- Whether the place between two characters passes a test; nothing stands before the start and after the end. -/
def Look.holds (before after : Option Char) : Look → Bool
  | .textStart => before.isNone
  | .textEnd => after.isNone
  | .lineStart => before.isNone || before == some '\n'
  | .lineEnd => after.isNone || after == some '\n'
  | .lineStartCrlf => before.isNone || before == some '\n' || (before == some '\r' && after != some '\n')
  | .lineEndCrlf => after.isNone || after == some '\r' || (after == some '\n' && before != some '\r')
  | .wordBoundary u => isWord u before != isWord u after
  | .notWordBoundary u => isWord u before == isWord u after
  | .wordStart u => !isWord u before && isWord u after
  | .wordEnd u => isWord u before && !isWord u after
  | .wordStartHalf u => !isWord u before
  | .wordEndHalf u => !isWord u after

/-- The places reached at one point of a line: those that take a character, and whether one accepts.  `marks` holds
for each place the last point at which it was reached. -/
structure Reach where
  marks : Array Nat
  takers : List (CharSet × Nat) := []
  accepted : Bool := false

/-- Follows all that can be followed without a character, from the places that wait.  Each round leaves one place;
a place is entered once. -/
def follow (code : Array Instruction) (point : Nat) (before after : Option Char) :
    (fuel : Nat) → List Nat → Reach → Reach
  | 0, _, r => r
  | _ + 1, [], r => r
  | fuel + 1, place :: waiting, r =>
    if r.marks[place]? == some point then follow code point before after fuel waiting r
    else
      let r := { r with marks := r.marks.setIfInBounds place point }
      match code[place]? with
      | none => follow code point before after fuel waiting r
      | some (.take s next) => follow code point before after fuel waiting { r with takers := (s, next) :: r.takers }
      | some (.fork next) => follow code point before after fuel (next ++ waiting) r
      | some (.look l next) =>
        follow code point before after fuel (if l.holds before after then next :: waiting else waiting) r
      | some .accept => follow code point before after fuel waiting { r with accepted := true }

/-- The rounds that following may take: every place is entered once, and left as often as it is pointed at. -/
def followRounds (code : Array Instruction) : Nat :=
  code.foldl (fun n i =>
    match i with
    | .fork next => n + 1 + next.length
    | _ => n + 2) 2

namespace Machine

/-- Searches the rest of a line from the places that wait at this point, a match starting at any point. -/
def searchFrom (m : Machine) (rounds : Nat) :
    (point : Nat) → (before : Option Char) → List Char → List Nat → Array Nat → Bool
  | point, before, rest, waiting, marks =>
    let r := follow m.code point before rest.head? (rounds + waiting.length) (waiting ++ [m.entry]) { marks }
    if r.accepted then true
    else
      match rest with
      | [] => false
      | c :: rest =>
        searchFrom m rounds (point + 1) (some c) rest
          (r.takers.filterMap (fun (s, next) => if s.contains c then some next else none)) r.marks

def search (m : Machine) (line : List Char) : Bool :=
  m.searchFrom (followRounds m.code) 1 none line [] (Array.replicate m.code.size 0)

end Machine

end Pattern
end LineShell
