/-!
# Usage — the words after a command's name

A command declares its switches, its options with a value and its positional arguments (`Usage`).  `Usage.read`
goes through the words from left to right.  While options have not ended, `--help` and `help` ask for help, `--`
ends the options and any other word that starts with a dash has to be a switch or an option; every other word is
the next positional.  After the first word of a greedy positional the options have ended.  Once help was asked for,
a word that starts with a dash is refused.
-/
namespace LineShell

inductive Arity where
  | required
  | optional
  /-- All that are left, whatever they look like. -/
  | greedy
  deriving DecidableEq, Repr

inductive Flag where
  /-- Is given or not, any number of times. -/
  | switch
  /-- Takes the next word as its value, at most once. -/
  | single
  /-- Takes the next word as its value, any number of times. -/
  | repeated
  deriving DecidableEq, Repr

structure Usage where
  /-- Each spelling of a flag with the key it stands for. -/
  flags : List (String × String × Flag) := []
  positionals : List (String × Arity) := []
  /-- The text that `--help` shows. -/
  help : String
  deriving Repr

structure Operands where
  switches : List String := []
  /-- The values of options, each with the option's key, in the order given. -/
  values : List (String × String) := []
  /-- The words of each positional, by its name, in the order given. -/
  words : List (String × String) := []
  deriving DecidableEq, Repr

namespace Operands

def hasSwitch (o : Operands) (key : String) : Bool := o.switches.contains key

def valuesOf (o : Operands) (key : String) : List String := (o.values.filter (fun v => v.1 == key)).map Prod.snd

def wordsOf (o : Operands) (name : String) : List String := (o.words.filter (fun w => w.1 == name)).map Prod.snd

end Operands

inductive UsageStop where
  /-- Help was asked for; carries its text. -/
  | help (text : String)
  | unrecognized (word : String)
  | trailingAfterHelp
  | missingValue (flag : String)
  | duplicateValue (flag value : String)
  | missingPositionals (names : List String)
  deriving DecidableEq, Repr

namespace UsageStop

def message : UsageStop → String
  | help text => text
  | unrecognized word => "Unrecognized argument: " ++ word ++ "\n"
  | trailingAfterHelp => "Trailing arguments are not allowed after `help`."
  | missingValue flag => "No value provided for option '" ++ flag ++ "'.\n"
  | duplicateValue flag value =>
    "Error parsing option '" ++ flag ++ "' with value '" ++ value ++ "': duplicate values provided\n"
  | missingPositionals names =>
    "Required positional arguments not provided:" ++ String.join (names.map (fun n => "\n    " ++ n)) ++ "\n"

def isHelp : UsageStop → Bool
  | help _ => true
  | _ => false

end UsageStop

namespace Usage

structure Progress where
  operands : Operands := {}
  helpAsked : Bool := false
  optionsEnded : Bool := false
  /-- The positionals that still take words. -/
  positionals : List (String × Arity)
  deriving Repr

def takePositional (p : Progress) (word : String) : Except UsageStop Progress :=
  match p.positionals with
  | [] => .error (.unrecognized word)
  | (name, arity) :: rest =>
    let operands := { p.operands with words := p.operands.words ++ [(name, word)] }
    if arity = .greedy ∧ rest = [] then .ok { p with operands, optionsEnded := true }
    else .ok { p with operands, positionals := rest }

def scan (u : Usage) (p : Progress) : List String → Except UsageStop Progress
  | [] => .ok p
  | word :: words =>
    if p.optionsEnded then
      match takePositional p word with
      | .ok p => scan u p words
      | .error e => .error e
    else if word = "--help" ∨ word = "help" then scan u { p with helpAsked := true } words
    else if word = "--" then scan u { p with optionsEnded := true } words
    else if word.toList.head? = some '-' then
      if p.helpAsked then .error .trailingAfterHelp
      else
        match u.flags.lookup word with
        | none => .error (.unrecognized word)
        | some (key, .switch) =>
          scan u { p with operands := { p.operands with switches := p.operands.switches ++ [key] } } words
        | some (key, kind) =>
          match words with
          | [] => .error (.missingValue word)
          | value :: words =>
            if kind = .single ∧ p.operands.valuesOf key ≠ [] then .error (.duplicateValue word value)
            else scan u { p with operands := { p.operands with values := p.operands.values ++ [(key, value)] } } words
    else
      match takePositional p word with
      | .ok p => scan u p words
      | .error e => .error e

def missing (u : Usage) (o : Operands) : List String :=
  (u.positionals.filter (fun p => p.2 == .required && (o.wordsOf p.1).isEmpty)).map Prod.fst

/-- **Sorts the words after a name.** -/
def read (u : Usage) (words : List String) : Except UsageStop Operands :=
  match scan u { positionals := u.positionals } words with
  | .error e => .error e
  | .ok p =>
    if p.helpAsked then .error (.help u.help)
    else
      match missing u p.operands with
      | [] => .ok p.operands
      | names => .error (.missingPositionals names)

end Usage
end LineShell
