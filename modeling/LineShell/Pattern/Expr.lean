import LineShell.Pattern.Syntax
import LineShell.Text.Unicode.Folding
import LineShell.Text.Unicode.Property
/-!
# Expr — patterns with their flags worked in

A pattern as written leaves to its flags what a letter, a dot or an anchor stands for.  `Ast.toExpr` goes through
it from left to right with the flags in force (`Mode`) and gives an expression in which every character is a set
and every anchor a plain test of a place.  Flags set inside a group end with it.  With the flag `u` cleared a
pattern speaks of ASCII, and whatever could then match part of a character is refused.
-/
namespace LineShell
namespace Pattern

structure Mode where
  ignoreCase : Bool := false
  multiLine : Bool := false
  dotMatchesNewline : Bool := false
  unicode : Bool := true
  crlf : Bool := false
  deriving DecidableEq, Repr

def Mode.adjust (m : Mode) : Switch × Bool → Mode
  | (.ignoreCase, on) => { m with ignoreCase := on }
  | (.multiLine, on) => { m with multiLine := on }
  | (.dotMatchesNewline, on) => { m with dotMatchesNewline := on }
  | (.unicode, on) => { m with unicode := on }
  | (.crlf, on) => { m with crlf := on }
  | (.swapGreed, _) | (.verbose, _) => m

def Mode.apply (m : Mode) (items : List SwitchItem) : Mode := (switchSettings items).foldl Mode.adjust m

inductive Look where
  | textStart
  | textEnd
  | lineStart
  | lineEnd
  | lineStartCrlf
  | lineEndCrlf
  /-- Tests of words; `unicode` says whose letters count. -/
  | wordBoundary (unicode : Bool)
  | notWordBoundary (unicode : Bool)
  | wordStart (unicode : Bool)
  | wordEnd (unicode : Bool)
  | wordStartHalf (unicode : Bool)
  | wordEndHalf (unicode : Bool)
  deriving DecidableEq, Repr

inductive Expr where
  | empty
  /-- One character of a set. -/
  | set (s : CharSet)
  | look (l : Look)
  | group (body : Expr)
  | concat (parts : List Expr)
  | alternation (branches : List Expr)
  | repetition (least : Nat) (most : Option Nat) (body : Expr)
  deriving Repr, Inhabited

mutual

/-- Whether an expression can match only between characters. -/
def Expr.isPlace : Expr → Bool
  | .empty | .look _ => true
  | .set _ => false
  | .group body => body.isPlace
  | .concat parts => Expr.allPlaces parts
  | .alternation branches => Expr.allPlaces branches
  | .repetition _ most body => most == some 0 || body.isPlace

def Expr.allPlaces : List Expr → Bool
  | [] => true
  | e :: es => e.isPlace && Expr.allPlaces es

end

/-- A repetition; one between characters need not be made more than once. -/
def Expr.repeated (least : Nat) (most : Option Nat) (body : Expr) : Expr :=
  let (least, most) := if body.isPlace then (min least 1, some (min (most.getD 1) 1)) else (least, most)
  match least, most with
  | 0, some 0 => .empty
  | 1, some 1 => body
  | _, _ => .repetition least most body

def Anchor.look (m : Mode) : Anchor → Look
  | .lineStart => if m.multiLine then (if m.crlf then .lineStartCrlf else .lineStart) else .textStart
  | .lineEnd => if m.multiLine then (if m.crlf then .lineEndCrlf else .lineEnd) else .textEnd
  | .textStart => .textStart
  | .textEnd => .textEnd
  | .wordBoundary => .wordBoundary m.unicode
  | .notWordBoundary => .notWordBoundary m.unicode
  | .wordStart => .wordStart m.unicode
  | .wordEnd => .wordEnd m.unicode
  | .wordStartHalf => .wordStartHalf m.unicode
  | .wordEndHalf => .wordEndHalf m.unicode

/-! ## Sets of characters -/

def isAscii (s : CharSet) : Bool := s.toList.all (fun span => span.2 < 0x80)

/-- A set of ASCII characters with the letters that differ in case alone from one of its own. -/
def foldAscii (s : CharSet) : CharSet :=
  let other (span : Nat × Nat) : List (Nat × Nat) :=
    let meet (lo hi : Nat) : Option (Nat × Nat) :=
      if max lo span.1 ≤ min hi span.2 then some (max lo span.1, min hi span.2) else none
    ((meet 0x41 0x5A).map (fun s => (s.1 + 0x20, s.2 + 0x20))).toList ++
      ((meet 0x61 0x7A).map (fun s => (s.1 - 0x20, s.2 - 0x20))).toList
  CharSet.ofSpans (s.toList ++ s.toList.flatMap other)

def Mode.fold (m : Mode) (s : CharSet) : CharSet :=
  if m.ignoreCase then (if m.unicode then s.foldCase else foldAscii s) else s

/-- A set with case and negation worked in; without `u` it has to be one of ASCII characters. -/
def Mode.close (m : Mode) (negated : Bool) (s : CharSet) : Option CharSet :=
  let s := m.fold s
  let s := if negated then s.complement else s
  if m.unicode || isAscii s then some s else none

/-- Whether a letter may be used at all: without `u`, two hexadecimal digits beyond ASCII are no character. -/
def Mode.admits (m : Mode) (l : Letter) : Bool := m.unicode || !l.byte || l.char.toNat < 0x80

def Letter.set? (m : Mode) (l : Letter) : Option CharSet :=
  if !m.admits l then none
  else if m.ignoreCase && !m.unicode && !(l.char.toNat < 0x80) then none
  else some (m.fold (CharSet.singleton l.char))

/-- The code point of a letter inside brackets; without `u` it has to be in ASCII. -/
def Letter.code? (m : Mode) (l : Letter) : Option Nat :=
  if m.unicode || l.char.toNat < 0x80 then some l.char.toNat else none

def PropertyName.set? (m : Mode) (negated : Bool) (name : PropertyName) : Option CharSet :=
  if !m.unicode then none
  else
    let named := match name with
      | .single name => Unicode.property? name
      | .valued property value => Unicode.value? property value
    named.bind (m.close negated)

def asciiWord : CharSet := ⟨#[(0x30, 0x39), (0x41, 0x5A), (0x5F, 0x5F), (0x61, 0x7A)]⟩

def Shorthand.set? (m : Mode) (negated : Bool) (s : Shorthand) : Option CharSet :=
  let members := match s, m.unicode with
    | .digit, true => Unicode.digits
    | .blank, true => Unicode.blanks
    | .word, true => Unicode.wordCharacters
    | .digit, false => CharSet.span 0x30 0x39
    | .blank, false => ⟨#[(0x09, 0x0D), (0x20, 0x20)]⟩
    | .word, false => asciiWord
  let members := if negated then members.complement else members
  if m.unicode || isAscii members then some members else none

def SetOperation.apply : SetOperation → CharSet → CharSet → CharSet
  | .intersection => CharSet.inter
  | .difference => CharSet.difference
  | .symmetricDifference => CharSet.symmetricDifference

mutual

/-- The set that stands in brackets, before its own case and negation are worked in. -/
def ClassAst.set? (m : Mode) : ClassAst → Option CharSet
  | .letter l => (l.code? m).map (fun code => CharSet.span code code)
  | .range first last =>
    match first.code? m, last.code? m with
    | some lo, some hi => some (CharSet.span lo hi)
    | _, _ => none
  | .ascii spans negated => m.close negated (CharSet.ofSpans spans)
  | .property name negated => name.set? m negated
  | .shorthand s negated => s.set? m negated
  | .bracket negated inner => (inner.set? m).bind (m.close negated)
  | .union items => (ClassAst.sets? m items).map CharSet.unions
  | .operation op left right =>
    match left.set? m, right.set? m with
    | some left, some right => some (op.apply (m.fold left) (m.fold right))
    | _, _ => none

def ClassAst.sets? (m : Mode) : List ClassAst → Option (List CharSet)
  | [] => some []
  | item :: items =>
    match item.set? m, ClassAst.sets? m items with
    | some set, some sets => some (set :: sets)
    | _, _ => none

end

def Mode.dot? (m : Mode) : Option CharSet :=
  if !m.unicode then none
  else if m.dotMatchesNewline then some CharSet.all
  else if m.crlf then some (CharSet.complement ⟨#[(0x0A, 0x0A), (0x0D, 0x0D)]⟩)
  else some (CharSet.complement (CharSet.span 0x0A 0x0A))

/-! ## Patterns -/

mutual

/-- The expression of a pattern, and the flags in force behind it. -/
def Ast.toExpr (m : Mode) : Ast → Option (Expr × Mode)
  | .empty => some (.empty, m)
  | .switches items => some (.empty, m.apply items)
  | .letter l => (l.set? m).map (fun s => (.set s, m))
  | .dot => m.dot?.map (fun s => (.set s, m))
  | .anchor a => some (.look (a.look m), m)
  | .property name negated => (name.set? m negated).map (fun s => (.set s, m))
  | .shorthand s negated => (s.set? m negated).map (fun s => (.set s, m))
  | .bracket negated inner => ((inner.set? m).bind (m.close negated)).map (fun s => (.set s, m))
  | .repetition least most body =>
    match body.toExpr m with
    | some (body, m) => some (Expr.repeated least most body, m)
    | none => none
  | .group .capturing body =>
    match body.toExpr m with
    | some (body, _) => some (.group body, m)
    | none => none
  | .group (.plain items) body =>
    match body.toExpr (m.apply items) with
    | some (body, _) => some (body, m)
    | none => none
  | .alternation branches =>
    match Ast.toExprs m branches with
    | some (branches, m) => some (.alternation branches, m)
    | none => none
  | .concat parts =>
    match Ast.toExprs m parts with
    | some (parts, m) => some (.concat parts, m)
    | none => none

def Ast.toExprs (m : Mode) : List Ast → Option (List Expr × Mode)
  | [] => some ([], m)
  | part :: parts =>
    match part.toExpr m with
    | none => none
    | some (part, m) =>
      match Ast.toExprs m parts with
      | some (parts, m) => some (part :: parts, m)
      | none => none

end

end Pattern
end LineShell
