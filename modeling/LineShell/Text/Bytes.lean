/-!
# Bytes — the data that moves between commands

Streams, files and names hold bytes; text is written to them in UTF-8.  Names are ordered byte by byte
(`Bytes.precedes`), which is the order directory walks follow.
-/
namespace LineShell

/-- A run of bytes: the content of a stream or a file, or a name in a directory. -/
abbrev Bytes := List UInt8

namespace Bytes

def ofString (s : String) : Bytes := s.toList.flatMap String.utf8EncodeChar

def newline : UInt8 := 0x0A

def slash : UInt8 := 0x2F

/-- The order of names: byte by byte, a shorter name before its extensions. -/
def precedes : Bytes → Bytes → Bool
  | [], _ => true
  | _ :: _, [] => false
  | a :: as, b :: bs => if a < b then true else if b < a then false else precedes as bs

theorem ofString_append (s t : String) : ofString (s ++ t) = ofString s ++ ofString t := by
  simp [ofString]

end Bytes
end LineShell
