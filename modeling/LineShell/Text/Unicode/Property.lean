import LineShell.Text.Unicode.Category
import LineShell.Text.Unicode.Script
import LineShell.Text.Unicode.ScriptExtension
import LineShell.Text.Unicode.Binary
import LineShell.Text.Unicode.Age
import LineShell.Text.Unicode.Segmentation
/-!
# Property — the sets of characters that have names

`property?` finds the set of a single name: a binary property, else a general category, else a script.  `value?`
finds the set of a property's value.  Names are compared in their loose form (`looseName`).  The sets behind
digits, blanks and word characters are named here too.
-/
namespace LineShell
namespace Unicode

/-- A name in its loose form: an `is` in front, blanks, dashes and underscores dropped, in lower case. -/
def looseName (name : String) : String :=
  let chars := name.toList
  let (stripped, rest) := match chars with
    | 'i' :: 's' :: rest | 'I' :: 's' :: rest | 'i' :: 'S' :: rest | 'I' :: 'S' :: rest => (true, rest)
    | rest => (false, rest)
  let kept := (rest.filter (fun c => c.toNat < 0x80 && c != ' ' && c != '_' && c != '-')).map Char.toLower
  if stripped && kept == ['c'] then "isc" else String.ofList kept

/-- The categories that gather others, with the names of those they gather. -/
def categoryGroups : List (List String × List String) := [
  (["l", "letter"], ["lu", "ll", "lt", "lm", "lo"]),
  (["lc", "casedletter"], ["lu", "ll", "lt"]),
  (["m", "mark", "combiningmark"], ["mn", "mc", "me"]),
  (["n", "number"], ["nd", "nl", "no"]),
  (["p", "punctuation", "punct"], ["pc", "pd", "ps", "pe", "pi", "pf", "po"]),
  (["s", "symbol"], ["sm", "sc", "sk", "so"]),
  (["z", "separator"], ["zs", "zl", "zp"]),
  (["c", "other"], ["cc", "cf", "co", "cn"])]

def category? (name : String) : Option CharSet :=
  if name = "any" then some CharSet.all
  else if name = "ascii" then some (CharSet.span 0 0x7F)
  else if name = "assigned" then (find? categories "cn").map (fun n => n.set.complement)
  else
    match categoryGroups.find? (fun group => group.1.contains name) with
    | some (_, parts) => some (CharSet.unions (parts.filterMap (fun part => (find? categories part).map Named.set)))
    | none => (find? categories name).map Named.set

def script? (name : String) : Option CharSet := (find? scripts name).map Named.set

def scriptExtension? (name : String) : Option CharSet :=
  match find? scriptExtensions name with
  | some n => some n.set
  | none => script? name

def age? (name : String) : Option CharSet :=
  let older := ages.takeWhile (fun n => !n.names.contains name)
  match ages[older.length]? with
  | some version => some (CharSet.unions ((older ++ [version]).map Named.set))
  | none => none

/-- The binary properties that no table lists, as differences of those that are listed. -/
def derivedProperty? (name : String) : Option CharSet :=
  let get (n : String) : CharSet := (category? n).getD CharSet.empty
  let binary (n : String) : CharSet := ((find? binaryProperties n).map Named.set).getD CharSet.empty
  let minus (n : String) (categories : List String) : CharSet :=
    (binary n).difference (CharSet.unions (categories.map get))
  if name = "oalpha" ∨ name = "otheralphabetic" then some (minus "alpha" ["l", "nl"])
  else if name = "olower" ∨ name = "otherlowercase" then some (minus "lower" ["ll"])
  else if name = "oupper" ∨ name = "otheruppercase" then some (minus "upper" ["lu"])
  else if name = "omath" ∨ name = "othermath" then some (minus "math" ["sm"])
  else if name = "oids" ∨ name = "otheridstart" then some (minus "ids" ["l", "nl"])
  else if name = "oidc" ∨ name = "otheridcontinue" then
    some ((minus "idc" ["mn", "mc", "nd", "pc"]).difference (binary "ids"))
  else if name = "ogrext" ∨ name = "othergraphemeextend" then some (minus "grext" ["me", "mn"])
  else if name = "odi" ∨ name = "otherdefaultignorablecodepoint" then some ((minus "di" ["cf"]).difference (binary "vs"))
  else none

/-- The set that a single name denotes.  Three names of categories are also names of properties that are not
binary; they denote the category. -/
def property? (name : String) : Option CharSet :=
  let name := looseName name
  let binary :=
    if name = "cf" ∨ name = "sc" ∨ name = "lc" then none
    else match find? binaryProperties name with
      | some n => some n.set
      | none => derivedProperty? name
  match binary with
  | some set => some set
  | none =>
    match category? name with
    | some set => some set
    | none => script? name

def value? (property value : String) : Option CharSet :=
  let property := looseName property
  let value := looseName value
  if property = "gc" ∨ property = "generalcategory" then category? value
  else if property = "sc" ∨ property = "script" then script? value
  else if property = "scx" ∨ property = "scriptextensions" then scriptExtension? value
  else if property = "age" then age? value
  else if property = "gcb" ∨ property = "graphemeclusterbreak" then (find? graphemeBreaks value).map Named.set
  else if property = "wb" ∨ property = "wordbreak" then (find? wordBreaks value).map Named.set
  else if property = "sb" ∨ property = "sentencebreak" then (find? sentenceBreaks value).map Named.set
  else none

def alphabetic : CharSet := (property? "alphabetic").getD CharSet.empty

def digits : CharSet := (category? "nd").getD CharSet.empty

def numbers : CharSet := (category? "n").getD CharSet.empty

def blanks : CharSet := (property? "whitespace").getD CharSet.empty

/-- The characters of words: letters, marks, decimal digits, connectors and joiners. -/
def wordCharacters : CharSet :=
  CharSet.unions [alphabetic, (category? "m").getD CharSet.empty, digits, (category? "pc").getD CharSet.empty,
    (property? "joincontrol").getD CharSet.empty]

/-- The characters that are not shown as themselves: controls, separators but the blank, unassigned ones. -/
def unprintable : CharSet :=
  (CharSet.unions [(category? "c").getD CharSet.empty, (category? "z").getD CharSet.empty]).difference
    (CharSet.singleton ' ')

/-- The characters that attach to the one before them. -/
def graphemeExtenders : CharSet := (property? "graphemeextend").getD CharSet.empty

end Unicode
end LineShell
