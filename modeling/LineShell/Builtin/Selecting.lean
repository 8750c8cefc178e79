import LineShell.Builtin.Texts
import LineShell.Pattern.Matcher
/-!
# Selecting — `grep`

The lines of files, or of the input, that match a pattern are printed, each line of a file behind the file's name.
For whole words the pattern is put between word boundaries, in the parentheses `\b(` and `)\b`.
-/
namespace LineShell
namespace Grep

def patternText (wholeWords : Bool) (pattern : String) : String :=
  if wholeWords then "\\b(" ++ pattern ++ ")\\b" else pattern

def pattern? (wholeWords ignoreCase : Bool) (pattern : String) : Option Pattern :=
  Pattern.ofText? ignoreCase (patternText wholeWords pattern).toList

def selected (passes : List Char → Bool) (data : Bytes) : List (List Char) :=
  (textLines (Utf8.decode data)).filter passes

def printLines (label : String) : List (List Char) → Action Unit
  | [] => pure ()
  | line :: rest => do
    Action.print (label ++ String.ofList line ++ "\n")
    printLines label rest

def printSelected (passes : List Char → Bool) (label : String) (data : Bytes) : Action Unit :=
  printLines label (selected passes data)

def searchOne (passes : List Char → Bool) (path name : String) : Action (Option String) :=
  Action.withFile path name "grep" (printSelected passes (name ++ ":"))

def runWith (passes : List Char → Bool) (path : String) : (files : List String) → Action Unit
  | [] => do
    let data ← Action.readAll
    printSelected passes "" data
  | files => Action.forOperands files (searchOne passes path)

def run (path : String) (wholeWords ignoreCase : Bool) (pattern : String) (files : List String) : Action Unit :=
  match pattern? wholeWords ignoreCase pattern with
  | some p => runWith p.matchesLine path files
  | none => Action.fail (.other ("Invalid regex pattern: " ++ patternText wholeWords pattern))

def usage : Usage where
  flags := [("-w", "words", .switch), ("--word-regexp", "words", .switch), ("-i", "case", .switch),
    ("--ignore-case", "case", .switch)]
  positionals := [("pattern", .required), ("files", .greedy)]
  help := "Usage: grep [-w] [-i] [--] <pattern> [files...]\n\nprint lines matching a pattern\n\n" ++
    "Positional Arguments:\n  pattern           the pattern to search for (a regular expression)\n\n" ++
    "Options:\n  -w, --word-regexp match only whole words (using non-word characters as\n" ++
    "                    boundaries)\n  -i, --ignore-case ignore case distinctions\n" ++
    "  --help, help      display usage information\n"

def builtin : Builtin where
  name := "grep"
  usage := usage
  run path operands :=
    run path (operands.hasSwitch "words") (operands.hasSwitch "case") ((operands.wordsOf "pattern").headD "")
      (operands.wordsOf "files")

end Grep
end LineShell
