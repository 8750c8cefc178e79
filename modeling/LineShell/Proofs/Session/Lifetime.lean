import LineShell.Proofs.Session.Plays
import LineShell.Proofs.Session.Roster
/-!
# Lifetime — what becomes of a session

From its opening on a session is played; between runs a run may be started, the stages of earlier runs may be waited for,
something may be registered, and what surrounds the stages may change.  `Happens` is one of these, and `Lives` a row of
them with its history; what may change around the stages is left open there.  The sessions that can come about at all
(`Lived`), and what becomes of one whose console only grows (`Becomes`), are rows with one choice of that or another.
-/
namespace LineShell

/-- What a transcript showed, it goes on to show. -/
def Transcript.Extends (t t' : Transcript) : Prop := t.pieces <:+ t'.pieces

theorem Transcript.extends_write (t : Transcript) (data : Bytes) : t.Extends (t.write data) := List.suffix_cons data _

/-- **What a console showed, it goes on to show**, on its output and on its error output. -/
structure Console.Extends (c c' : Console) : Prop where
  output : c.output.Extends c'.output
  error : c.error.Extends c'.error

namespace Console.Extends

theorem refl (c : Console) : c.Extends c := ⟨List.suffix_rfl, List.suffix_rfl⟩

theorem of_eq {c c' : Console} (h : c' = c) : c.Extends c' := h ▸ refl c

theorem trans {c c' c'' : Console} (h : c.Extends c') (h' : c'.Extends c'') : c.Extends c'' :=
  ⟨h.output.trans h'.output, h.error.trans h'.error⟩

end Console.Extends

inductive Enrolment where
  | command (c : Command)
  | exit (name : String)
  | builtins

def Registry.enrol (r : Registry) : Enrolment → Option RegistryError × Registry
  | .command c =>
    match r.register c with
    | .ok r' => (none, r')
    | .error e => (some e, r)
  | .exit name =>
    match r.registerExit name with
    | .ok r' => (none, r')
    | .error e => (some e, r)
  | .builtins => r.install

inductive Deed where
  | move (m : Move)
  | start (clauses : List Clause)
  | wait
  | enrol (e : Enrolment)
  | change

namespace Session

/-- A session that is just opened: nothing has been run. -/
structure Opened (s : Session) : Prop where
  stages : s.stages = #[]
  runs : s.runs = 0
  current : s.current = none
  detached : s.detached = []

/-- **What can happen to a session**: a move, or, whenever no run is under way, a run is started, the stages that nobody
waits for are waited for, something is registered, or what surrounds the stages changes in some way that is allowed. -/
inductive Happens (allowed : Session → Session → Prop) (s : Session) : Deed → Session → Prop
  | moved {m : Move} {t : Session} : s.step? m = some t → Happens allowed s (.move m) t
  | started (clauses : List Clause) : s.current = none → Happens allowed s (.start clauses) (s.start clauses)
  | waited {t : Session} : s.current = none → s.waitBackground? = some t → Happens allowed s .wait t
  | enrolled (e : Enrolment) : s.current = none →
      Happens allowed s (.enrol e) { s with registry := (s.registry.enrol e).2 }
  | changed (path : String) (registry : Registry) (console : Console) (files : Files) (network : Network) :
      s.current = none → allowed s { s with path, registry, console, files, network } →
      Happens allowed s .change { s with path, registry, console, files, network }

/-- What was done, each deed with the session it was done to. -/
abbrev History := List (Session × Deed)

/-- **A session after all that happened to another**, with its history. -/
inductive Lives (allowed : Session → Session → Prop) (s : Session) : History → Session → Prop
  | here : Lives allowed s [] s
  | next {past : History} {t u : Session} {d : Deed} :
      Lives allowed s past t → Happens allowed t d u → Lives allowed s (past ++ [(t, d)]) u

def historyOf (s : Session) : List Move → History
  | [] => []
  | m :: moves => (s, .move m) :: (s.step? m).elim [] (fun t => t.historyOf moves)

/-- **A session that can come about**: all that it grew out of is a session that was opened. -/
def Lived (t : Session) : Prop := ∃ (s : Session) (past : History), s.Opened ∧ s.Lives (fun _ _ => True) past t

/-- **What becomes of a session** whose console keeps what it shows. -/
def Becomes (s t : Session) : Prop := ∃ past, s.Lives (fun u v => u.console.Extends v.console) past t

variable {allowed : Session → Session → Prop} {s t u : Session} {past later : History} {moves : List Move}

theorem Lives.trans (h : s.Lives allowed past t) (h' : t.Lives allowed later u) : s.Lives allowed (past ++ later) u := by
  induction h' with
  | here => rwa [List.append_nil]
  | next _ hd ih => exact List.append_assoc past _ _ ▸ ih.next hd

theorem lives_of_play (h : s.play moves = some t) : s.Lives allowed (s.historyOf moves) t := by
  induction moves generalizing s with
  | nil =>
    cases h
    exact .here
  | cons m moves ih =>
    rw [play] at h
    split at h
    · next u hu =>
      rw [historyOf, hu]
      exact (Lives.here.next (.moved hu)).trans (ih h)
    · cases h

theorem waitBackground?_eq_some (h : s.waitBackground? = some t) :
    (∀ id ∈ s.detached, s.hasEnded id = true) ∧ t = { s with detached := [] } := by
  unfold waitBackground? at h
  split at h <;> cases h
  next hall => exact ⟨List.all_eq_true.1 hall, rfl⟩

/-- **Every stage of a session belongs to a run that was started.** -/
theorem Lives.dated (hs : s.Opened) (h : s.Lives allowed past t) : t.Dated := by
  induction h with
  | here =>
    intro id seat hseat
    simp [seats, faces, hs.stages] at hseat
  | next _ hd ih =>
    cases hd with
    | moved hm =>
      have hstep := step_of_step? hm
      intro id seat hseat
      rw [hstep.seats_eq] at hseat
      rw [hstep.runs_eq]
      exact ih id seat hseat
    | started clauses => exact dated_start ih
    | waited _ hw =>
      obtain ⟨-, rfl⟩ := waitBackground?_eq_some hw
      exact ih
    | enrolled | changed => exact ih

theorem Opened.lived (hs : s.Opened) : s.Lived := ⟨s, [], hs, .here⟩

theorem Lived.dated (h : s.Lived) : s.Dated := by
  obtain ⟨s₀, past, h₀, hlives⟩ := h
  exact hlives.dated h₀

theorem Becomes.dated (hs : s.Opened) (h : s.Becomes t) : t.Dated := h.elim fun _ hlives => hlives.dated hs

theorem Becomes.trans (h : s.Becomes t) (h' : t.Becomes u) : s.Becomes u := by
  obtain ⟨past, h⟩ := h
  obtain ⟨later, h'⟩ := h'
  exact ⟨past ++ later, h.trans h'⟩

theorem becomes_of_run {clauses : List Clause} (hidle : s.current = none) (h : (s.start clauses).play moves = some t) :
    s.Becomes t := ⟨_, (Lives.here.next (.started clauses hidle)).trans (lives_of_play h)⟩

theorem opened_small : small.Opened := ⟨rfl, rfl, rfl, rfl⟩

theorem lived_small : small.Lived := opened_small.lived

end Session
end LineShell
