import LineShell.CommandLine.Clause
import LineShell.Text.Blank
/-!
# Printer — from clauses to a line

A clause is written as its name in quotes and then a word for each thing it says: an argument in quotes, an option
behind its dash, a redirect as its symbol with the file in quotes, and `&`.  The words may stand in any order that
keeps the arguments and the options in theirs (`Clause.SpelledBy`).  A name, an argument or a file can be written if it
is not empty and holds no quote, an option if besides it holds neither a blank nor a pipe (`Clause.Writable`).  Blanks
stand between the words, and ` | ` between the clauses.
-/
namespace LineShell

inductive Word where
  | argument (text : String)
  | option (text : String)
  | input (file : String)
  | output (file : String)
  | background
  deriving DecidableEq, Repr

def quote (text : String) : List Char := '"' :: text.toList ++ ['"']

namespace Word

def spell : Word → List Char
  | argument text => quote text
  | option text => '-' :: text.toList
  | input file => '<' :: quote file
  | output file => '>' :: quote file
  | background => ['&']

def argument? : Word → Option String
  | argument text => some text
  | _ => none

def option? : Word → Option String
  | option text => some text
  | _ => none

def input? : Word → Option String
  | input file => some file
  | _ => none

def output? : Word → Option String
  | output file => some file
  | _ => none

end Word

def redirect (file : String) : List String := if file = "" then [] else [file]

namespace Clause

structure SpelledBy (c : Clause) (words : List Word) : Prop where
  arguments_eq : words.filterMap Word.argument? = c.arguments
  options_eq : words.filterMap Word.option? = c.options
  input_eq : words.filterMap Word.input? = redirect c.input
  output_eq : words.filterMap Word.output? = redirect c.output
  background_eq : words.count .background = if c.background then 1 else 0

instance (c : Clause) (words : List Word) : Decidable (c.SpelledBy words) :=
  decidable_of_iff
    (words.filterMap Word.argument? = c.arguments ∧ words.filterMap Word.option? = c.options ∧
      words.filterMap Word.input? = redirect c.input ∧ words.filterMap Word.output? = redirect c.output ∧
      words.count .background = if c.background then 1 else 0)
    ⟨fun ⟨ha, ho, hi, hu, hb⟩ => ⟨ha, ho, hi, hu, hb⟩,
      fun h => ⟨h.arguments_eq, h.options_eq, h.input_eq, h.output_eq, h.background_eq⟩⟩

def Quotable (text : String) : Prop := text ≠ "" ∧ '"' ∉ text.toList

instance (text : String) : Decidable (Quotable text) := inferInstanceAs (Decidable (_ ∧ _))

def OptionWritable (option : String) : Prop :=
  option ≠ "" ∧ ∀ c ∈ option.toList, c ≠ '"' ∧ c ≠ '|' ∧ isBlank c = false

-- The characters of the text are gone through, not all characters.
instance (option : String) : Decidable (OptionWritable option) :=
  @instDecidableAnd _ _ _ (List.decidableBAll _ option.toList)

structure Writable (c : Clause) : Prop where
  name_quotable : Quotable c.name
  arguments_quotable : ∀ a ∈ c.arguments, Quotable a
  options_writable : ∀ o ∈ c.options, OptionWritable o
  input_quotable : c.input ≠ "" → Quotable c.input
  output_quotable : c.output ≠ "" → Quotable c.output

instance (c : Clause) : Decidable c.Writable :=
  decidable_of_iff
    (Quotable c.name ∧ (∀ a ∈ c.arguments, Quotable a) ∧ (∀ o ∈ c.options, OptionWritable o) ∧
      (c.input ≠ "" → Quotable c.input) ∧ (c.output ≠ "" → Quotable c.output))
    ⟨fun ⟨hn, ha, ho, hi, hu⟩ => ⟨hn, ha, ho, hi, hu⟩,
      fun h => ⟨h.name_quotable, h.arguments_quotable, h.options_writable, h.input_quotable, h.output_quotable⟩⟩

end Clause

/-- What may stand between two words: blanks, at least one. -/
def IsGap (gap : List Char) : Prop := gap ≠ [] ∧ ∀ c ∈ gap, isBlank c = true

instance (gap : List Char) : Decidable (IsGap gap) := @instDecidableAnd _ _ _ (List.decidableBAll _ gap)

def spellSegment (name : String) (words : List (List Char × Word)) : List Char :=
  quote name ++ words.flatMap (fun (gap, word) => gap ++ word.spell)

def segmentGap : List Char := [' ', '|', ' ']

def spellLine (segments : List (String × List (List Char × Word))) : List Char :=
  segmentGap.intercalate (segments.map (fun s => spellSegment s.1 s.2))

end LineShell
