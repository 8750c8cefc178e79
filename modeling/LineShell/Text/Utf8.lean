import LineShell.Text.Bytes
/-!
# Utf8 — bytes read as text

Any bytes read as text.  A decoder takes one byte at a time and remembers what the character it is in the
middle of still owes; a byte that cannot continue that character turns what was read of it into one U+FFFD and is
read afresh, so each maximal piece of an ill-formed sequence becomes exactly one replacement character.  A byte
below 0x80 always leaves the decoder between characters (`pending_feed_of_lt`), which is why text may be decoded
line by line.
-/
namespace LineShell
namespace Utf8

def replacement : Char := Char.ofNat 0xFFFD

inductive Pending where
  /-- Between characters. -/
  | nothing
  /-- A byte from `low` to `high`, then `more` continuation bytes; `value` holds the bits read so far. -/
  | owed (value : Nat) (low high : UInt8) (more : Nat)
  deriving DecidableEq, Repr

/-- A decoder: the characters read so far, latest first, and what is pending. -/
structure Decoder where
  read : List Char := []
  pending : Pending := .nothing
  deriving DecidableEq, Repr

namespace Decoder

def start (read : List Char) (b : UInt8) : Decoder :=
  if b < 0x80 then ⟨Char.ofNat b.toNat :: read, .nothing⟩
  else if b < 0xC2 then ⟨replacement :: read, .nothing⟩
  else if b < 0xE0 then ⟨read, .owed (b.toNat - 0xC0) 0x80 0xBF 0⟩
  else if b = 0xE0 then ⟨read, .owed 0 0xA0 0xBF 1⟩
  else if b = 0xED then ⟨read, .owed 0xD 0x80 0x9F 1⟩
  else if b < 0xF0 then ⟨read, .owed (b.toNat - 0xE0) 0x80 0xBF 1⟩
  else if b = 0xF0 then ⟨read, .owed 0 0x90 0xBF 2⟩
  else if b < 0xF4 then ⟨read, .owed (b.toNat - 0xF0) 0x80 0xBF 2⟩
  else if b = 0xF4 then ⟨read, .owed 4 0x80 0x8F 2⟩
  else ⟨replacement :: read, .nothing⟩

def feed (d : Decoder) (b : UInt8) : Decoder :=
  match d.pending with
  | .nothing => start d.read b
  | .owed value low high more =>
    if 0x80 ≤ b ∧ low ≤ b ∧ b ≤ high then
      let value := value * 64 + (b.toNat - 0x80)
      match more with
      | 0 => ⟨Char.ofNat value :: d.read, .nothing⟩
      | more + 1 => ⟨d.read, .owed value 0x80 0xBF more⟩
    else start (replacement :: d.read) b

/-- The characters read once the bytes have ended: a character cut short is replaced. -/
def text (d : Decoder) : List Char :=
  match d.pending with
  | .nothing => d.read.reverse
  | .owed .. => (replacement :: d.read).reverse

end Decoder

def decode (bytes : Bytes) : List Char := (bytes.foldl Decoder.feed {}).text

/-- **A byte below 0x80 ends whatever was being read**: the decoder stands between characters after it. -/
theorem pending_feed_of_lt (d : Decoder) {b : UInt8} (hb : b < 0x80) : (d.feed b).pending = .nothing := by
  unfold Decoder.feed
  split
  · simp [Decoder.start, hb]
  · have hn : ¬ (0x80 : UInt8) ≤ b := UInt8.not_le.2 hb
    simp [hn, Decoder.start, hb]

end Utf8

/-- Bytes as a string, each piece that is no character replaced by U+FFFD. -/
def Bytes.toText (bytes : Bytes) : String := String.ofList (Utf8.decode bytes)

end LineShell
