import LineShell.Command.Basic
/-!
# Status — how each stage of a run ended

A run gives one status a stage.  An error that a command reports does not change the code of its status.
-/
namespace LineShell

inductive Code where
  /-- The stage ran, or was launched in the background, or could not be given its streams. -/
  | ok
  /-- The stage names an exit keyword. -/
  | exitRequested
  /-- No command has the name of the stage. -/
  | unknownCommand
  /-- The stage was stopped. -/
  | interrupted
  deriving DecidableEq, Repr, Inhabited

structure Status where
  code : Code
  command : String
  error : Option String := none
  deriving DecidableEq, Repr, Inhabited

namespace Status

def isOk (s : Status) : Bool := s.code == .ok

def ofOutcome (name : String) : Outcome → Status
  | .done => ⟨.ok, name, none⟩
  | .failed .stopped => ⟨.interrupted, name, none⟩
  | .failed f => ⟨.ok, name, some f.message⟩
  | .brokeDown => ⟨.ok, name, some "command panicked"⟩

/-- **How the end of a command shows in its status.**  Whatever it failed with but a stop is an error that it ended well
with, and so is breaking down. -/
inductive Of (name : String) : Outcome → Status → Prop
  | done : Of name .done ⟨.ok, name, none⟩
  | stopped : Of name (.failed .stopped) ⟨.interrupted, name, none⟩
  | refused (message : String) : Of name (.failed (.usage message)) ⟨.ok, name, some message⟩
  | fault (f : Fault) : Of name (.failed (.fault f)) ⟨.ok, name, some f.message⟩
  | other (message : String) : Of name (.failed (.other message)) ⟨.ok, name, some message⟩
  | brokeDown : Of name .brokeDown ⟨.ok, name, some "command panicked"⟩

variable {name : String} {outcome : Outcome} {status : Status}

theorem of_ofOutcome (name : String) (outcome : Outcome) : Of name outcome (ofOutcome name outcome) := by
  match outcome with
  | .done => exact .done
  | .failed .stopped => exact .stopped
  | .failed (.usage message) => exact .refused message
  | .failed (.fault f) => exact .fault f
  | .failed (.other message) => exact .other message
  | .brokeDown => exact .brokeDown

theorem of_iff : Of name outcome status ↔ status = ofOutcome name outcome := by
  constructor
  · intro h
    cases h <;> rfl
  · rintro rfl
    exact of_ofOutcome name outcome

theorem Of.command_eq (h : Of name outcome status) : status.command = name := by
  cases h <;> rfl

theorem Of.code_cases (h : Of name outcome status) : status.code = .ok ∨ status.code = .interrupted := by
  cases h <;> simp

end Status

def exitRequested : List Status → Bool
  | [s] => s.code == .exitRequested
  | _ => false

end LineShell
