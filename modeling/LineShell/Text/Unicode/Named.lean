import LineShell.Text.CharSet
/-!
# Named — a named set of characters

The tables of character properties are lists of named sets.  Names are in their loose form: lower case, without
blanks, dashes and underscores.
-/
namespace LineShell
namespace Unicode

structure Named where
  names : List String
  /-- The code points, in hexadecimal, as `CharSet.ofHex` reads them. -/
  spans : String
  deriving Repr

def Named.set (n : Named) : CharSet := CharSet.ofHex n.spans

def find? (table : List Named) (name : String) : Option Named := table.find? (fun n => n.names.contains name)

end Unicode
end LineShell
