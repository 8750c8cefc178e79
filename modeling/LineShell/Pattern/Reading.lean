import LineShell.Pattern.Syntax
import LineShell.Text.Blank
import LineShell.Text.Unicode.Property
/-!
# Reading — from text to a pattern

Patterns are read by descent.  A cursor holds the text still to be read, whether blanks and comments are skipped,
and the names that groups have taken.  Every reader gives the tree and the cursor behind it, or nothing where the
text is no pattern.  `fuel` bounds the readers that call themselves; every call reads a character first, so the
length of the text is enough.
-/
namespace LineShell
namespace Pattern

structure Cursor where
  rest : List Char
  verbose : Bool := false
  names : List (List Char) := []

namespace Cursor

/-- The text behind blanks and comments; a comment goes from `#` to the end of its line. -/
def skipBlanks (comment : Bool) : List Char → List Char
  | [] => []
  | c :: cs =>
    if comment then skipBlanks (c != '\n') cs
    else if isBlank c then skipBlanks false cs
    else if c = '#' then skipBlanks true cs
    else c :: cs

def settle (k : Cursor) : Cursor := if k.verbose then { k with rest := skipBlanks false k.rest } else k

def moveTo (k : Cursor) (rest : List Char) : Cursor := { k with rest }

def next (k : Cursor) : Cursor := (k.moveTo k.rest.tail).settle

/-- The character behind the next one, blanks skipped where they are; what follows a `#` is not skipped. -/
def peek (k : Cursor) : Option Char :=
  if k.verbose then
    match k.rest.tail.dropWhile isBlank with
    | '#' :: cs => (cs.dropWhile isBlank).head?
    | cs => cs.head?
  else k.rest.tail.head?

end Cursor

def isMeta (c : Char) : Bool := "\\.+*?()|[]\x7b\x7d^$#&-~".toList.contains c

def isEscapable (c : Char) : Bool :=
  isMeta c || (c.toNat < 0x80 && !c.isAlphanum && c != '<' && c != '>')

/-- The longest run of characters with a property, blanks between them skipped where they are. -/
def takeRun (p : Char → Bool) : (fuel : Nat) → Cursor → List Char × Cursor
  | 0, k => ([], k)
  | fuel + 1, k =>
    match k.rest with
    | c :: _ => if p c then let (run, k) := takeRun p fuel k.next; (c :: run, k) else ([], k)
    | [] => ([], k)

def valueOf (base : Nat) (digits : List Char) : Nat :=
  digits.foldl (fun n c => n * base + (CharSet.hexDigit? c).getD 0) 0

def charOf? (code : Nat) : Option Char := if h : code.isValidChar then some ⟨code.toUInt32, by
  simpa [UInt32.isValidChar, Nat.toUInt32, UInt32.toNat_ofNat_of_lt' (Nat.lt_of_lt_of_le (n := code) (m := 0x110000)
    (by unfold Nat.isValidChar at h; omega) (by decide))] using h⟩ else none

def readDecimal (k : Cursor) : Option Nat × Cursor :=
  let k := k.moveTo (k.rest.dropWhile isBlank)
  let (digits, k) := takeRun (fun c => c.isDigit) k.rest.length k
  let k := (k.moveTo (k.rest.dropWhile isBlank)).settle
  let n := valueOf 10 digits
  (if digits.isEmpty || 0xFFFFFFFF < n then none else some n, k)

inductive Escape where
  | letter (l : Letter)
  | anchor (a : Anchor)
  | property (name : PropertyName) (negated : Bool)
  | shorthand (s : Shorthand) (negated : Bool)

def cutAtUnequal (before : List Char) : List Char → Option (List Char × List Char)
  | [] => none
  | '!' :: '=' :: after => some (before.reverse, after)
  | c :: cs => cutAtUnequal (c :: before) cs

def cutAt (mark : Char) (text : List Char) : Option (List Char × List Char) :=
  if text.contains mark then some (text.takeWhile (· != mark), (text.dropWhile (· != mark)).tail) else none

/-- The name of a property, between braces.  A property and its value are parted by `!=`, else by the first `:`,
else by the first `=`; the three mean the same. -/
def propertyName (negated : Bool) (name : List Char) : Escape :=
  match (cutAtUnequal [] name).orElse (fun _ => (cutAt ':' name).orElse (fun _ => cutAt '=' name)) with
  | some (property, value) => .property (.valued (String.ofList property) (String.ofList value)) negated
  | none => .property (.single (String.ofList name)) negated

def readProperty (k : Cursor) : Option (Escape × Cursor) :=
  let negated := k.rest.head? == some 'P'
  let k := k.next
  match k.rest with
  | [] => none
  | '\x7b' :: _ =>
    let (name, k) := takeRun (· != '\x7d') k.rest.length k.next
    match k.rest with
    | [] => none
    | _ :: rest => some (propertyName negated name, k.moveTo rest)
  | '\\' :: _ => none
  | c :: _ => some (.property (.single (String.singleton c)) negated, k.next)

/-- Exactly `count` hexadecimal digits, blanks between them skipped where they are. -/
def readDigits : (count : Nat) → Cursor → Option (List Char × Cursor)
  | 0, k => some ([], k)
  | count + 1, k =>
    match k.rest with
    | c :: _ =>
      if (CharSet.hexDigit? c).isSome then (readDigits count k.next).map (fun (digits, k) => (c :: digits, k)) else none
    | [] => none

def readCode (k : Cursor) : Option (Escape × Cursor) :=
  let count := if k.rest.head? = some 'x' then 2 else if k.rest.head? = some 'u' then 4 else 8
  let k := k.next
  match k.rest with
  | [] => none
  | '\x7b' :: _ =>
    let (digits, k) := takeRun (fun c => (CharSet.hexDigit? c).isSome) k.rest.length k.next
    match k.rest with
    | '\x7d' :: _ =>
      if digits.isEmpty then none else (charOf? (valueOf 16 digits)).map (fun c => (.letter ⟨c, false⟩, k.next))
    | _ => none
  | _ =>
    match readDigits count k with
    | none => none
    | some (digits, k) => (charOf? (valueOf 16 digits)).map (fun c => (.letter ⟨c, count == 2⟩, k))

def boundaryNamed? (name : List Char) : Option Anchor :=
  match String.ofList name with
  | "start" => some .wordStart
  | "end" => some .wordEnd
  | "start-half" => some .wordStartHalf
  | "end-half" => some .wordEndHalf
  | _ => none

/-- What follows `\b`: a name in braces, or nothing of it. -/
def readBoundary (k : Cursor) : Option (Escape × Cursor) :=
  let isNameChar (c : Char) : Bool := c.isAlpha || c == '-'
  match k.rest with
  | '\x7b' :: _ =>
    let inside := k.next
    match inside.rest with
    | [] => none
    | c :: _ =>
      if isNameChar c then
        let (name, k) := takeRun isNameChar inside.rest.length inside
        match k.rest with
        | '\x7d' :: rest => (boundaryNamed? name).map (fun a => (.anchor a, k.moveTo rest))
        | _ => none
      else some (.anchor .wordBoundary, k)
  | _ => some (.anchor .wordBoundary, k)

def readEscape (k : Cursor) : Option (Escape × Cursor) :=
  let k := k.moveTo k.rest.tail
  match k.rest with
  | [] => none
  | c :: rest =>
    let after := k.moveTo rest
    let plain (code : Nat) : Option (Escape × Cursor) := some (.letter ⟨Char.ofNat code, false⟩, after)
    if c.isDigit then none
    else if c = 'x' ∨ c = 'u' ∨ c = 'U' then readCode k
    else if c = 'p' ∨ c = 'P' then readProperty k
    else if isEscapable c then some (.letter ⟨c, false⟩, after)
    else
      match c with
      | 'd' => some (.shorthand .digit false, after)
      | 'D' => some (.shorthand .digit true, after)
      | 's' => some (.shorthand .blank false, after)
      | 'S' => some (.shorthand .blank true, after)
      | 'w' => some (.shorthand .word false, after)
      | 'W' => some (.shorthand .word true, after)
      | 'a' => plain 0x07
      | 'f' => plain 0x0C
      | 't' => plain 0x09
      | 'n' => plain 0x0A
      | 'r' => plain 0x0D
      | 'v' => plain 0x0B
      | 'A' => some (.anchor .textStart, after)
      | 'z' => some (.anchor .textEnd, after)
      | 'b' => readBoundary after
      | 'B' => some (.anchor .notWordBoundary, after)
      | '<' => some (.anchor .wordStart, after)
      | '>' => some (.anchor .wordEnd, after)
      | _ => none

/-! ## Bracketed classes -/

def asciiClass? (name : List Char) : Option (List (Nat × Nat)) :=
  match String.ofList name with
  | "alnum" => some [(0x30, 0x39), (0x41, 0x5A), (0x61, 0x7A)]
  | "alpha" => some [(0x41, 0x5A), (0x61, 0x7A)]
  | "ascii" => some [(0, 0x7F)]
  | "blank" => some [(0x09, 0x09), (0x20, 0x20)]
  | "cntrl" => some [(0, 0x1F), (0x7F, 0x7F)]
  | "digit" => some [(0x30, 0x39)]
  | "graph" => some [(0x21, 0x7E)]
  | "lower" => some [(0x61, 0x7A)]
  | "print" => some [(0x20, 0x7E)]
  | "punct" => some [(0x21, 0x2F), (0x3A, 0x40), (0x5B, 0x60), (0x7B, 0x7E)]
  | "space" => some [(0x09, 0x0D), (0x20, 0x20)]
  | "upper" => some [(0x41, 0x5A)]
  | "word" => some [(0x30, 0x39), (0x41, 0x5A), (0x5F, 0x5F), (0x61, 0x7A)]
  | "xdigit" => some [(0x30, 0x39), (0x41, 0x46), (0x61, 0x66)]
  | _ => none

def readAsciiClass (k : Cursor) : Option (ClassAst × Cursor) :=
  match k.rest with
  | '[' :: ':' :: rest =>
    let (negated, rest) := match rest with
      | '^' :: rest => (true, rest)
      | rest => (false, rest)
    match rest.dropWhile (· != ':') with
    | ':' :: ']' :: after =>
      (asciiClass? (rest.takeWhile (· != ':'))).map (fun spans => (.ascii spans negated, k.moveTo after))
    | _ => none
  | _ => none

def readClassPiece (k : Cursor) : Option (Escape × Cursor) :=
  match k.rest with
  | [] => none
  | '\\' :: _ => readEscape k
  | c :: rest => some (.letter ⟨c, false⟩, k.moveTo rest)

def readClassItem (k : Cursor) : Option (ClassAst × Cursor) := do
  let (first, k) ← readClassPiece k
  let k := k.settle
  if k.rest.isEmpty then none
  else if k.rest.head? != some '-' || k.peek == some ']' || k.peek == some '-' then
    match first with
    | .letter l => some (.letter l, k)
    | .property name negated => some (.property name negated, k)
    | .shorthand s negated => some (.shorthand s negated, k)
    | .anchor _ => none
  else
    let k := k.next
    let (last, k) ← readClassPiece k
    match first, last with
    | .letter first, .letter last => if first.char ≤ last.char then some (.range first last, k) else none
    | _, _ => none

def readDashes : (fuel : Nat) → Cursor → List ClassAst × Cursor
  | 0, k => ([], k)
  | fuel + 1, k =>
    match k.rest with
    | '-' :: _ => let (items, k) := readDashes fuel k.next; (.letter ⟨'-', false⟩ :: items, k)
    | _ => ([], k)

/-- The start of brackets: whether they are negated, and the items that stand there and nowhere else for
themselves.  The cursor stands on the opening bracket. -/
def readClassStart (k : Cursor) : Bool × List ClassAst × Cursor :=
  let k := k.next
  let (negated, k) := match k.rest with
    | '^' :: _ => (true, k.next)
    | _ => (false, k)
  let (dashes, k) := readDashes k.rest.length k
  match dashes, k.rest with
  | [], ']' :: _ => (negated, [.letter ⟨']', false⟩], k.next)
  | _, _ => (negated, dashes, k)

def joinOperation (left : Option (SetOperation × ClassAst)) (right : ClassAst) : ClassAst :=
  match left with
  | some (op, left) => .operation op left right
  | none => right

/-- What stands between brackets, to the closing one.  Operations apply from left to right. -/
def readClassBody : (fuel : Nat) → Cursor → (left : Option (SetOperation × ClassAst)) → (items : List ClassAst) →
    Option (ClassAst × Cursor)
  | 0, _, _, _ => none
  | fuel + 1, k, left, items =>
    let k := k.settle
    let operate (op : SetOperation) (rest : List Char) : Option (ClassAst × Cursor) :=
      readClassBody fuel (k.moveTo rest) (some (op, joinOperation left (ClassAst.ofItems items.reverse))) []
    match k.rest with
    | [] => none
    | '[' :: _ =>
      match readAsciiClass k with
      | some (item, k) => readClassBody fuel k left (item :: items)
      | none =>
        let (negated, start, inside) := readClassStart k
        match readClassBody fuel inside none start.reverse with
        | some (inner, k) => readClassBody fuel k left (.bracket negated inner :: items)
        | none => none
    | ']' :: rest => some (joinOperation left (ClassAst.ofItems items.reverse), k.moveTo rest)
    | '&' :: '&' :: rest => operate .intersection rest
    | '-' :: '-' :: rest => operate .difference rest
    | '~' :: '~' :: rest => operate .symmetricDifference rest
    | _ =>
      match readClassItem k with
      | some (item, k) => readClassBody fuel k left (item :: items)
      | none => none

def readClass (k : Cursor) : Option (Ast × Cursor) :=
  let (negated, start, inside) := readClassStart k
  (readClassBody k.rest.length inside none start.reverse).map (fun (inner, k) => (.bracket negated inner, k))

/-! ## Groups -/

def switchOf? : Char → Option Switch
  | 'i' => some .ignoreCase
  | 'm' => some .multiLine
  | 's' => some .dotMatchesNewline
  | 'U' => some .swapGreed
  | 'u' => some .unicode
  | 'R' => some .crlf
  | 'x' => some .verbose
  | _ => none

/-- Flags up to the `:` or `)` behind them; none may be given twice, nor a dash stand last. -/
def readSwitches (items : List SwitchItem) : List Char → Option (List SwitchItem × List Char)
  | [] => none
  | c :: cs =>
    if c = ':' ∨ c = ')' then if items.head? = some .negation then none else some (items.reverse, c :: cs)
    else
      let item := if c = '-' then some SwitchItem.negation else (switchOf? c).map SwitchItem.switch
      match item with
      | none => none
      | some item => if items.contains item then none else readSwitches (item :: items) cs

def isNameChar (first : Bool) (c : Char) : Bool :=
  c == '_' || Unicode.alphabetic.contains c ||
    (!first && (c == '.' || c == '[' || c == ']' || Unicode.numbers.contains c))

def readName (name : List Char) : List Char → Option (List Char × List Char)
  | [] => none
  | '>' :: cs => if name.isEmpty then none else some (name.reverse, cs)
  | c :: cs => if isNameChar name.isEmpty c then readName (c :: name) cs else none

inductive Opening where
  /-- Flags for the rest of the group around it. -/
  | switches (items : List SwitchItem)
  | group (kind : GroupKind)

/-- The value that flags give to the skipping of blanks. -/
def verboseOf (items : List SwitchItem) (otherwise : Bool) : Bool :=
  ((switchSettings items).lookup .verbose).getD otherwise

def readOpening (k : Cursor) : Option (Opening × Cursor) :=
  let k := k.next
  let named (rest : List Char) : Option (Opening × Cursor) :=
    match readName [] rest with
    | some (name, rest) =>
      if k.names.contains name then none else some (.group .capturing, { k with rest, names := name :: k.names })
    | none => none
  match k.rest with
  | '?' :: '=' :: _ | '?' :: '!' :: _ | '?' :: '<' :: '=' :: _ | '?' :: '<' :: '!' :: _ => none
  | '?' :: 'P' :: '<' :: rest => named rest
  | '?' :: '<' :: rest => named rest
  | '?' :: rest =>
    match readSwitches [] rest with
    | some (items, ')' :: rest) => if items.isEmpty then none else some (.switches items, k.moveTo rest)
    | some (items, _ :: rest) => some (.group (.plain items), k.moveTo rest)
    | _ => none
  | _ => some (.group .capturing, k)

/-! ## Repetitions -/

def skipReluctant (k : Cursor) : Cursor :=
  match k.rest with
  | '?' :: rest => k.moveTo rest
  | _ => k

def isRepeatable : Ast → Bool
  | .empty | .switches _ => false
  | _ => true

def readCount (k : Cursor) : Option (Nat × Option Nat × Cursor) :=
  let k := k.next
  if k.rest.isEmpty then none
  else
    let (least, k) := readDecimal k
    let close (least : Nat) (most : Option Nat) (k : Cursor) : Option (Nat × Option Nat × Cursor) :=
      match k.rest with
      | '\x7d' :: _ =>
        if most.any (· < least) then none else some (least, most, skipReluctant k.next)
      | _ => none
    match k.rest, least with
    | ',' :: _, some least =>
      let k := k.next
      match k.rest with
      | '\x7d' :: _ => close least none k
      | [] => none
      | _ =>
        match readDecimal k with
        | (some most, k) => close least (some most) k
        | (none, _) => none
    | _, some least => close least (some least) k
    | _, none => none

/-! ## Patterns -/

/-- Reads parts and branches to the end of the text, or to the parenthesis that closes a group. -/
def readBody : (fuel : Nat) → (inGroup : Bool) → Cursor → (branches parts : List Ast) → Option (Ast × Cursor)
  | 0, _, _, _, _ => none
  | fuel + 1, inGroup, k, branches, parts =>
    let k := k.settle
    let finish : Ast := Ast.ofBranches (Ast.ofParts parts.reverse :: branches).reverse
    let repeated (least : Nat) (most : Option Nat) (k : Cursor) : Option (Ast × Cursor) :=
      match parts with
      | part :: parts =>
        if isRepeatable part then readBody fuel inGroup k branches (.repetition least most part :: parts) else none
      | [] => none
    match k.rest with
    | [] => if inGroup then none else some (finish, k)
    | '(' :: _ =>
      match readOpening k with
      | none => none
      | some (.switches items, k) =>
        readBody fuel inGroup { k with verbose := verboseOf items k.verbose } branches (.switches items :: parts)
      | some (.group kind, inside) =>
        let verbose := match kind with
          | .plain items => verboseOf items k.verbose
          | .capturing => k.verbose
        match readBody fuel true { inside with verbose } [] [] with
        | some (body, after) =>
          readBody fuel inGroup { after with verbose := k.verbose } branches (.group kind body :: parts)
        | none => none
    | ')' :: rest => if inGroup then some (finish, k.moveTo rest) else none
    | '|' :: rest => readBody fuel inGroup (k.moveTo rest) (Ast.ofParts parts.reverse :: branches) []
    | '[' :: _ =>
      match readClass k with
      | some (part, k) => readBody fuel inGroup k branches (part :: parts)
      | none => none
    | '?' :: rest => repeated 0 (some 1) (skipReluctant (k.moveTo rest))
    | '*' :: rest => repeated 0 none (skipReluctant (k.moveTo rest))
    | '+' :: rest => repeated 1 none (skipReluctant (k.moveTo rest))
    | '\x7b' :: _ =>
      match readCount k with
      | some (least, most, k) => repeated least most k
      | none => none
    | '\\' :: _ =>
      match readEscape k with
      | none => none
      | some (.letter l, k) => readBody fuel inGroup k branches (.letter l :: parts)
      | some (.anchor a, k) => readBody fuel inGroup k branches (.anchor a :: parts)
      | some (.property name negated, k) => readBody fuel inGroup k branches (.property name negated :: parts)
      | some (.shorthand s negated, k) => readBody fuel inGroup k branches (.shorthand s negated :: parts)
    | '.' :: rest => readBody fuel inGroup (k.moveTo rest) branches (.dot :: parts)
    | '^' :: rest => readBody fuel inGroup (k.moveTo rest) branches (.anchor .lineStart :: parts)
    | '$' :: rest => readBody fuel inGroup (k.moveTo rest) branches (.anchor .lineEnd :: parts)
    | c :: rest => readBody fuel inGroup (k.moveTo rest) branches (.letter ⟨c, false⟩ :: parts)

def maxDepth : Nat := 250

def readAst (text : List Char) : Option Ast :=
  match readBody (text.length + 1) false ⟨text, false, []⟩ [] [] with
  | some (ast, _) => if ast.depth ≤ maxDepth then some ast else none
  | none => none

end Pattern
end LineShell
