import LineShell.CommandLine.Clause
import LineShell.CommandLine.Splitting
import LineShell.Text.Blank
/-!
# Reading — from a line to its clauses

A line, without the `\n` and `\r` at its end, is cut at the pipes outside quotes into segments, and each segment at
the blanks outside quotes into words.  The first word names the command.  Of the others, from left to right: `&`
asks for the background; a word of two characters or more that starts with a dash is an option; the first word
that starts with `<` (`>`) redirects the input (output), to the file glued to the symbol or to the next word,
whatever that is; every other word is an argument.  Names, arguments and redirects lose the quotes around them.
-/
namespace LineShell

inductive LineError where
  /-- A segment without a word; carries the segment. -/
  | emptyClause (segment : String)
  deriving DecidableEq, Repr

/-- A word without the double quotes around it; a word of only two quotes keeps them. -/
def unquote (word : List Char) : List Char :=
  match word with
  | '"' :: rest =>
    match rest.reverse with
    | '"' :: inner => if inner.isEmpty then word else inner.reverse
    | _ => word
  | _ => word

def isBackgroundMark (word : List Char) : Bool := word == ['&']

namespace Clause

def readWords (clause : Clause) : List (List Char) → Clause
  | [] => clause
  | word :: words =>
    if isBackgroundMark word then readWords { clause with background := true } words
    else
      match word with
      | '-' :: c :: rest =>
        readWords { clause with options := clause.options ++ [String.ofList (c :: rest)] } words
      | '<' :: rest =>
        if clause.input = "" then
          match rest, words with
          | [], [] => clause
          | [], file :: words => readWords { clause with input := String.ofList (unquote file) } words
          | _ :: _, words => readWords { clause with input := String.ofList (unquote rest) } words
        else readWords { clause with arguments := clause.arguments ++ [String.ofList (unquote word)] } words
      | '>' :: rest =>
        if clause.output = "" then
          match rest, words with
          | [], [] => clause
          | [], file :: words => readWords { clause with output := String.ofList (unquote file) } words
          | _ :: _, words => readWords { clause with output := String.ofList (unquote rest) } words
        else readWords { clause with arguments := clause.arguments ++ [String.ofList (unquote word)] } words
      | _ => readWords { clause with arguments := clause.arguments ++ [String.ofList (unquote word)] } words

end Clause

def segmentWords (segment : List Char) : List (List Char) :=
  (splitUnquoted isBlank (trim segment)).filter (fun word => !word.isEmpty)

def readClause (segment : List Char) : Except LineError Clause :=
  match segmentWords segment with
  | [] => .error (.emptyClause (String.ofList segment))
  | name :: words => .ok (Clause.readWords { name := String.ofList (unquote name) } words)

def dropLineBreaks (line : List Char) : List Char :=
  (line.reverse.dropWhile (fun c => c == '\n' || c == '\r')).reverse

def lineSegments (line : List Char) : List (List Char) := splitUnquoted (· == '|') (dropLineBreaks line)

/-- **The clauses that a line spells.** -/
def readLine (line : String) : Except LineError (List Clause) := (lineSegments line.toList).mapM readClause

end LineShell
