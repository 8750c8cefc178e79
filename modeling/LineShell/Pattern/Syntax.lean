/-!
# Syntax — patterns as written

A pattern is read into a tree that keeps its spelling apart from what does not bear on matching: how eagerly a
repetition proceeds decides which part of a line matches, never whether one does, so it is not kept.
`Ast.depth` is how deep a pattern nests.
-/
namespace LineShell
namespace Pattern

inductive Switch where
  | ignoreCase
  | multiLine
  | dotMatchesNewline
  | swapGreed
  | unicode
  | crlf
  /-- Blanks and comments in the pattern are skipped. -/
  | verbose
  deriving DecidableEq, Repr

/-- What `(?i-s)` lists: flags, and the dash behind which they are cleared. -/
inductive SwitchItem where
  | negation
  | switch (s : Switch)
  deriving DecidableEq, Repr

def switchSettings (items : List SwitchItem) : List (Switch × Bool) :=
  (items.foldl (fun (negated, done) item =>
    match item with
    | .negation => (true, done)
    | .switch s => (negated, (s, !negated) :: done)) ((false, []) : Bool × List (Switch × Bool))).2.reverse

inductive Anchor where
  | lineStart
  | lineEnd
  | textStart
  | textEnd
  | wordBoundary
  | notWordBoundary
  | wordStart
  | wordEnd
  | wordStartHalf
  | wordEndHalf
  deriving DecidableEq, Repr

/-- A character; `byte` says that it was written as two hexadecimal digits. -/
structure Letter where
  char : Char
  byte : Bool := false
  deriving DecidableEq, Repr

inductive Shorthand where
  | digit
  | blank
  | word
  deriving DecidableEq, Repr

inductive PropertyName where
  | single (name : String)
  | valued (property value : String)
  deriving DecidableEq, Repr

inductive SetOperation where
  | intersection
  | difference
  | symmetricDifference
  deriving DecidableEq, Repr

inductive ClassAst where
  | letter (l : Letter)
  | range (first last : Letter)
  /-- A class like `[:alpha:]`, by its spans of ASCII characters. -/
  | ascii (spans : List (Nat × Nat)) (negated : Bool)
  | property (name : PropertyName) (negated : Bool)
  | shorthand (s : Shorthand) (negated : Bool)
  | bracket (negated : Bool) (inner : ClassAst)
  | union (items : List ClassAst)
  | operation (op : SetOperation) (left right : ClassAst)
  deriving Repr

inductive GroupKind where
  | capturing
  | plain (items : List SwitchItem)
  deriving DecidableEq, Repr

inductive Ast where
  | empty
  /-- Flags for the rest of the group. -/
  | switches (items : List SwitchItem)
  | letter (l : Letter)
  | dot
  | anchor (a : Anchor)
  | property (name : PropertyName) (negated : Bool)
  | shorthand (s : Shorthand) (negated : Bool)
  /-- A bracketed class. -/
  | bracket (negated : Bool) (inner : ClassAst)
  | repetition (least : Nat) (most : Option Nat) (body : Ast)
  | group (kind : GroupKind) (body : Ast)
  | alternation (branches : List Ast)
  | concat (parts : List Ast)
  deriving Repr

mutual

def ClassAst.depth : ClassAst → Nat
  | .letter _ | .range .. | .ascii .. | .property .. | .shorthand .. => 0
  | .bracket _ inner => inner.depth + 1
  | .union [] => 0
  | .union (item :: items) => max item.depth (ClassAst.depths items) + 1
  | .operation _ left right => max left.depth right.depth + 1

def ClassAst.depths : List ClassAst → Nat
  | [] => 0
  | item :: items => max item.depth (ClassAst.depths items)

end

mutual

/-- How deep a pattern nests: groups, repetitions, alternations, sequences and brackets count. -/
def Ast.depth : Ast → Nat
  | .empty | .switches _ | .letter _ | .dot | .anchor _ | .property .. | .shorthand .. => 0
  | .bracket _ inner => inner.depth + 1
  | .repetition _ _ body => body.depth + 1
  | .group _ body => body.depth + 1
  | .alternation branches => Ast.depths branches + 1
  | .concat parts => Ast.depths parts + 1

def Ast.depths : List Ast → Nat
  | [] => 0
  | part :: parts => max part.depth (Ast.depths parts)

end

def Ast.ofParts : List Ast → Ast
  | [] => .empty
  | [part] => part
  | parts => .concat parts

def Ast.ofBranches : List Ast → Ast
  | [] => .empty
  | [branch] => branch
  | branches => .alternation branches

def ClassAst.ofItems : List ClassAst → ClassAst
  | [item] => item
  | items => .union items

end Pattern
end LineShell
