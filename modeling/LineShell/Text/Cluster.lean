import LineShell.Text.Unicode.Property
/-!
# Cluster — what is seen as one character

A text falls into clusters: a character with the marks that attach to it, the letters of one Korean syllable, two
regional indicators that make a flag, pictures tied together by joiners, consonants tied together by linkers.
`ClusterState.joins` says whether a character belongs to the cluster before it; `clusters` cuts a text accordingly,
and its clusters in a row are the text again (`flatten_clusters`).
-/
namespace LineShell

inductive ClusterRole where
  | carriageReturn
  | lineFeed
  | control
  /-- Attaches to whatever is before it. -/
  | extender
  | joiner
  | spacing
  /-- Attaches to whatever comes after it. -/
  | prepended
  | leading
  | vowel
  | trailing
  /-- A leading letter and a vowel in one character. -/
  | leadingVowel
  /-- A leading letter, a vowel and a trailing letter in one character. -/
  | syllable
  | regional
  | picture
  | other
  deriving DecidableEq, Repr

namespace ClusterRole

/-- The characters of each role; all others have none. -/
def sets : List (ClusterRole × CharSet) :=
  let breaks (name : String) : CharSet :=
    ((Unicode.find? Unicode.graphemeBreaks name).map Unicode.Named.set).getD CharSet.empty
  [(carriageReturn, breaks "cr"), (lineFeed, breaks "lf"), (control, breaks "cn"), (extender, breaks "ex"),
    (joiner, breaks "zwj"), (spacing, breaks "sm"), (prepended, breaks "pp"), (leading, breaks "l"),
    (vowel, breaks "v"), (trailing, breaks "t"), (leadingVowel, breaks "lv"), (syllable, breaks "lvt"),
    (regional, breaks "ri"), (picture, (Unicode.property? "extpict").getD CharSet.empty)]

def ofChar (c : Char) : ClusterRole := ((sets.find? (fun s => s.2.contains c)).map Prod.fst).getD other

def isAlone : ClusterRole → Bool
  | carriageReturn | lineFeed | control => true
  | _ => false

end ClusterRole

namespace Unicode

def conjunctConsonants : CharSet := CharSet.ofHex
  "915-939 958-95F 978-97F 995-9A8 9AA-9B0 9B2 9B6-9B9 9DC-9DD 9DF 9F0-9F1 A95-AA8 AAA-AB0 AB2-AB3 AB5-AB9 AF9
   B15-B28 B2A-B30 B32-B33 B35-B39 B5C-B5D B5F B71 C15-C28 C2A-C39 C58-C5A D15-D3A"

def conjunctLinkers : CharSet := CharSet.ofHex "94D 9CD ACD B4D C4D D4D"

end Unicode

/-- How far something that needs three parts has come: not begun, its first part, its first and second part. -/
inductive Tie where
  | none
  | begun
  | tied
  deriving DecidableEq, Repr

structure ClusterState where
  /-- The role of the last character. -/
  last : Option ClusterRole := none
  /-- Whether the text ends with an odd number of regional indicators. -/
  halfFlag : Bool := false
  /-- A picture and extenders, and then a joiner. -/
  pictures : Tie := .none
  /-- A consonant, and then a linker among extenders. -/
  consonants : Tie := .none
  deriving DecidableEq, Repr

namespace ClusterState

def joins (s : ClusterState) (c : Char) : Bool :=
  match s.last, ClusterRole.ofChar c with
  | none, _ => false
  | some .carriageReturn, .lineFeed => true
  | some last, role =>
    if last.isAlone || role.isAlone then false
    else
      match last, role with
      | _, .extender | _, .joiner | _, .spacing => true
      | .prepended, _ => true
      | .leading, .leading | .leading, .vowel | .leading, .leadingVowel | .leading, .syllable => true
      | .leadingVowel, .vowel | .leadingVowel, .trailing | .vowel, .vowel | .vowel, .trailing => true
      | .syllable, .trailing | .trailing, .trailing => true
      | .regional, .regional => s.halfFlag
      | .joiner, .picture => s.pictures == .tied
      | _, _ => s.consonants == .tied && Unicode.conjunctConsonants.contains c

def nextPictures (s : ClusterState) : ClusterRole → Tie
  | .picture => .begun
  | .extender => if s.pictures = .begun then .begun else .none
  | .joiner => if s.pictures = .begun then .tied else .none
  | _ => .none

def nextConsonants (s : ClusterState) (c : Char) (role : ClusterRole) : Tie :=
  if Unicode.conjunctConsonants.contains c then .begun
  else if s.consonants = .none then .none
  else if Unicode.conjunctLinkers.contains c then .tied
  else if (role = .extender ∨ role = .joiner) ∧ c.toNat ≠ 0x200C then s.consonants
  else .none

def feed (s : ClusterState) (c : Char) : ClusterState :=
  let role := ClusterRole.ofChar c
  { last := some role
    halfFlag := role == .regional && !s.halfFlag
    pictures := s.nextPictures role
    consonants := s.nextConsonants c role }

end ClusterState

/-- The clusters of a text that goes on from some state; a character that belongs to the cluster before it goes on
with `current`, which is latest first. -/
def clustersFrom (s : ClusterState) (current : List Char) : List Char → List (List Char)
  | [] => if current.isEmpty then [] else [current.reverse]
  | c :: cs =>
    if s.joins c || current.isEmpty then clustersFrom (s.feed c) (c :: current) cs
    else current.reverse :: clustersFrom (s.feed c) [c] cs

def clusters (text : List Char) : List (List Char) := clustersFrom {} [] text

theorem flatten_clustersFrom : ∀ (text : List Char) (s : ClusterState) (current : List Char),
    (clustersFrom s current text).flatten = current.reverse ++ text
  | [], s, current => by
    unfold clustersFrom
    split
    · rename_i h; simp [List.isEmpty_iff.1 h]
    · simp
  | c :: cs, s, current => by
    unfold clustersFrom
    split
    · rw [flatten_clustersFrom cs]; simp
    · rw [List.flatten_cons, flatten_clustersFrom cs]; simp

/-- **The clusters of a text, in a row, are the text.** -/
theorem flatten_clusters (text : List Char) : (clusters text).flatten = text := flatten_clustersFrom text {} []

end LineShell
