import LineShell.Text.Blank
import LineShell.Text.Unicode.Property
/-!
# LogFilter — which filters for log lines are valid

A filter is a row of directives parted by commas.  A directive is a level, or a target with perhaps a span and its
fields in brackets and perhaps a level behind `=`.  A directive is read character by character; `directiveFault?`
says what is wrong with it.
-/
namespace LineShell

inductive FilterFault where
  | level
  | directive
  deriving DecidableEq, Repr

def FilterFault.message : FilterFault → String
  | level => "error parsing level filter: expected one of \"off\", \"error\", \"warn\", \"info\", \"debug\", " ++
      "\"trace\", or a number 0-5"
  | directive => "invalid filter directive"

namespace LogFilter

inductive State where
  | start
  | levelOrTarget
  | span
  /-- Inside a field, which has begun or is still empty. -/
  | field (begun : Bool)
  | fields
  | target
  /-- Behind the `=`, which stood at this position. -/
  | level (position : Nat)
  deriving DecidableEq, Repr

def isStart (c : Char) : Bool :=
  c == '-' || c == ':' || c == '_' || Unicode.alphabetic.contains c || Unicode.numbers.contains c

def State.feed (c : Char) (position : Nat) : State → Option State
  | .start => if c = '[' then some .span else if isStart c then some .levelOrTarget else none
  | .levelOrTarget => some (if c = '=' then .level position else if c = '[' then .span else .levelOrTarget)
  | .span => some (if c = ']' then .target else if c = '\x7b' then .field false else .span)
  | .field begun => if c = '\x7d' then (if begun then some .fields else none) else some (.field true)
  | .fields => if c = ']' then some .target else none
  | .target => if c = '=' then some (.level position) else none
  | .level position => some (.level position)

def read : (position : Nat) → State → List Char → Option State
  | _, state, [] => some state
  | position, state, c :: cs =>
    match state.feed c position with
    | some state => read (position + 1) state cs
    | none => none

/-- Whether a text is a level: a name in any case, or a number up to 5. -/
def isLevel (text : List Char) : Bool :=
  let digits := match text with
    | '+' :: rest => rest
    | text => text
  (!digits.isEmpty && digits.all Char.isDigit && digits.foldl (fun n c => n * 10 + (c.toNat - 0x30)) 0 ≤ 5) ||
    ["", "off", "error", "warn", "info", "debug", "trace"].contains (String.ofList (text.map Char.toLower))

/-- What is wrong with a directive.  Positions are counted without the blanks around it, the level is cut out with
them. -/
def directiveFault? (text : List Char) : Option FilterFault :=
  match read 0 .start (trim text) with
  | none => some .directive
  | some (.level position) => if isLevel (text.drop (position + 1)) then none else some .level
  | some .levelOrTarget | some .target => none
  | some _ => some .directive

def directives (text : List Char) : List (List Char) :=
  let (current, done) := text.foldl (fun (current, done) c =>
    if c = ',' then ([], List.reverse current :: done) else (c :: current, done))
    (([], []) : List Char × List (List Char))
  ((current.reverse :: done).reverse).filter (fun d => !d.isEmpty)

def fault? (filter : String) : Option FilterFault := (directives filter.toList).findSome? directiveFault?

end LogFilter
end LineShell
