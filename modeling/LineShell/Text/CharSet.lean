/-!
# CharSet — sets of characters as spans of code points

A set is a row of spans, each from its first to its last code point, in rising order and with a gap between
neighbours.  `ofSpans` brings any spans into that form; union, complement and the operations built from them keep
it.  Membership is a binary search.  Code points that are no characters (the surrogates) may lie inside a span;
no character is ever one of them.
-/
namespace LineShell

structure CharSet where
  spans : Array (Nat × Nat) := #[]
  deriving DecidableEq, Repr, Inhabited

namespace CharSet

def lastCode : Nat := 0x10FFFF

/-- Joins spans in rising order of their starts where they touch or overlap. -/
def joinSpans : List (Nat × Nat) → List (Nat × Nat) :=
  fun spans => (spans.foldl (fun done span =>
    match done with
    | (lo, hi) :: rest =>
      if span.1 ≤ hi + 1 then (lo, max hi span.2) :: rest else span :: (lo, hi) :: rest
    | [] => [span]) []).reverse

def ofSpans (spans : List (Nat × Nat)) : CharSet :=
  ⟨(joinSpans (spans.mergeSort (fun a b => a.1 ≤ b.1))).toArray⟩

def toList (s : CharSet) : List (Nat × Nat) := s.spans.toList

def empty : CharSet := ⟨#[]⟩

def isEmpty (s : CharSet) : Bool := s.spans.isEmpty

def all : CharSet := ⟨#[(0, lastCode)]⟩

def span (lo hi : Nat) : CharSet := ⟨#[(lo, hi)]⟩

def singleton (c : Char) : CharSet := span c.toNat c.toNat

/-- Whether one of the spans from `lo` up to `hi` holds a code point; each of `fuel` rounds halves them. -/
def search (spans : Array (Nat × Nat)) (code : Nat) : (fuel lo hi : Nat) → Bool
  | 0, _, _ => false
  | fuel + 1, lo, hi =>
    if lo < hi then
      let mid := (lo + hi) / 2
      match spans[mid]? with
      | none => false
      | some (first, last) =>
        if code < first then search spans code fuel lo mid
        else if last < code then search spans code fuel (mid + 1) hi
        else true
    else false

def hasCode (s : CharSet) (code : Nat) : Bool := search s.spans code (s.spans.size + 1) 0 s.spans.size

def contains (s : CharSet) (c : Char) : Bool := s.hasCode c.toNat

def union (s t : CharSet) : CharSet := ofSpans (s.toList ++ t.toList)

def gaps : (next : Nat) → List (Nat × Nat) → List (Nat × Nat)
  | next, [] => if next ≤ lastCode then [(next, lastCode)] else []
  | next, (lo, hi) :: rest => if next < lo then (next, lo - 1) :: gaps (hi + 1) rest else gaps (hi + 1) rest

def complement (s : CharSet) : CharSet := ⟨(gaps 0 s.toList).toArray⟩

def inter (s t : CharSet) : CharSet := (s.complement.union t.complement).complement

def difference (s t : CharSet) : CharSet := s.inter t.complement

def symmetricDifference (s t : CharSet) : CharSet := (s.union t).difference (s.inter t)

def unions (sets : List CharSet) : CharSet := ofSpans (sets.flatMap toList)

def hexDigit? (c : Char) : Option Nat :=
  if '0' ≤ c ∧ c ≤ '9' then some (c.toNat - 0x30)
  else if 'A' ≤ c ∧ c ≤ 'F' then some (c.toNat - 0x37)
  else if 'a' ≤ c ∧ c ≤ 'f' then some (c.toNat - 0x57)
  else none

/-- Hexadecimal code points read up to some point of a text: the spans before it, latest first, the start of the
span under way, and the number under way. -/
structure HexReader where
  spans : List (Nat × Nat) := []
  start : Option Nat := none
  code : Option Nat := none

namespace HexReader

def close (r : HexReader) : HexReader :=
  match r.code with
  | some code => { spans := (r.start.getD code, code) :: r.spans }
  | none => r

def feed (r : HexReader) (c : Char) : HexReader :=
  match hexDigit? c with
  | some d => { r with code := some (r.code.getD 0 * 16 + d) }
  | none => if c = '-' then { r with start := r.code, code := none } else r.close

end HexReader

/-- Reads `41-5A 61-7A B5`: hexadecimal code points, a span written with a dash, with blanks between them. -/
def ofHex (text : String) : CharSet := ⟨(text.foldl HexReader.feed {}).close.spans.reverse.toArray⟩

end CharSet
end LineShell
