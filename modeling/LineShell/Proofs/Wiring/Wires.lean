import LineShell.Proofs.Session.Roster
import LineShell.Proofs.Wiring.Streams
/-!
# Wires — the streams that stages keep

A stage keeps the streams it was given; all that a move changes is how far a file was read or written.  `Tied` says that
of a move, and that it adds no pipe and draws on the console only through a stage that reads there.  So the wires of a
session are those of its runs at their starts (`Lived.plumbed`).
-/
namespace LineShell

def Input.place : Input → Input
  | file id _ => file id 0
  | input => input

def Output.place : Output → Output
  | file id _ => file id 0
  | output => output

def Streams.place (streams : Streams) : Streams := ⟨streams.input.place, streams.output.place⟩

theorem Input.place_eq_pipe_iff {input : Input} {n : Nat} : input.place = .pipe n ↔ input = .pipe n := by
  cases input <;> simp [place]

theorem Input.place_eq_console_iff {input : Input} : input.place = .console ↔ input = .console := by
  cases input <;> simp [place]

theorem Output.place_eq_pipe_iff {output : Output} {n : Nat} : output.place = .pipe n ↔ output = .pipe n := by
  cases output <;> simp [place]

namespace Session

variable {s t u : Session} {m : Move} {id most : Nat} {stage : Stage} {R : Prop}

def wires (s : Session) (id : Nat) : Option Streams := (s.stages[id]?).map (fun stage => stage.streams.place)

theorem wires_of_getElem? (h : s.stages[id]? = some stage) : s.wires id = some stage.streams.place := by
  simp [wires, h]

def ReadsConsole (s : Session) (id : Nat) : Prop := ∃ w, s.wires id = some w ∧ w.input = .console

def Draws (s : Session) : Move → Prop
  | .advance id _ => s.ReadsConsole id
  | _ => False

/-! ## One move -/

/-- **What a move leaves alone**: the wires, the number of pipes, and the console input unless `R`. -/
structure Tied (R : Prop) (s t : Session) : Prop where
  wires : t.wires = s.wires
  size : t.pipes.size = s.pipes.size
  unread : t.console.unread = s.console.unread ∨ R

theorem Tied.trans (h : Tied R s t) (h' : Tied R t u) : Tied R s u where
  wires := h'.wires.trans h.wires
  size := h'.size.trans h.size
  unread := by
    rcases h.unread with h | h
    · exact h'.unread.imp_left (·.trans h)
    · exact .inr h

theorem tied_modifyStage (s : Session) {id : Nat} {f : Stage → Stage}
    (h : ∀ stage, s.stages[id]? = some stage → (f stage).streams.place = stage.streams.place) :
    Tied R s (s.modifyStage id f) where
  wires := by
    funext j
    by_cases hj : j = id
    · subst hj
      cases hs : s.stages[j]? with
      | none => simp [wires, modifyStage, Array.getElem?_modify, hs]
      | some stage => simp [wires, modifyStage, Array.getElem?_modify, hs, h stage hs]
    · simp [wires, modifyStage, Array.getElem?_modify, Ne.symm hj]
  size := rfl
  unread := .inl rfl

theorem tied_modifyPipe (s : Session) (n : Nat) (f : Pipe → Pipe) : Tied R s (s.modifyPipe n f) :=
  ⟨rfl, by simp [modifyPipe], .inl rfl⟩

theorem tied_requestStops (ids : List Nat) : ∀ s : Session, Tied R s (s.requestStops ids) := by
  induction ids with
  | nil => exact fun s => ⟨rfl, rfl, .inl rfl⟩
  | cons id ids ih =>
    intro s
    have hfirst : Tied R s (s.modifyStage id (fun stage => { stage with slot := stage.slot.request.2 })) :=
      tied_modifyStage s fun _ _ => rfl
    exact hfirst.trans (ih _)

theorem tied_trigger (s : Session) : Tied R s s.trigger.2 := by
  unfold trigger
  split
  · exact ⟨rfl, rfl, .inl rfl⟩
  · split
    · exact (tied_requestStops _ s).trans ⟨rfl, rfl, .inl rfl⟩
    · exact ⟨rfl, rfl, .inl rfl⟩

theorem tied_readInput {limit : Nat} {reply : Except Fault Bytes} (hs : s.stages[id]? = some stage)
    (h : s.readInput? id stage.streams limit most = some (reply, t)) : Tied (stage.streams.input = .console) s t := by
  obtain rfl | ⟨console, hin, rfl⟩ | ⟨file, k, k', hin, rfl⟩ | ⟨n, f, rfl⟩ := readInput?_cases h
  · exact ⟨rfl, rfl, .inl rfl⟩
  · exact ⟨rfl, rfl, .inr hin⟩
  · refine tied_modifyStage s fun stage' hs' => ?_
    obtain rfl : stage = stage' := Option.some.inj (hs.symm.trans hs')
    simp [Streams.place, Input.place, hin]
  · exact tied_modifyPipe s n f

theorem tied_writeOutput {data : Bytes} {reply : Except Fault Nat} (hs : s.stages[id]? = some stage)
    (h : s.writeOutput? id stage.streams data most = some (reply, t)) : Tied R s t := by
  obtain rfl | rfl | ⟨files, rfl⟩ | ⟨files, file, k, k', hout, rfl⟩ | ⟨n, f, rfl⟩ := writeOutput?_cases h
  · exact ⟨rfl, rfl, .inl rfl⟩
  · exact ⟨rfl, rfl, .inl rfl⟩
  · exact ⟨rfl, rfl, .inl rfl⟩
  · have hfiles : Tied R s { s with files } := ⟨rfl, rfl, .inl rfl⟩
    refine hfiles.trans (tied_modifyStage _ fun stage' hs' => ?_)
    obtain rfl : stage = stage' := Option.some.inj (hs.symm.trans hs')
    simp [Streams.place, Output.place, hout]
  · exact tied_modifyPipe s n f

theorem tied_answer {q : Request} {reply : q.Reply} (hs : s.stages[id]? = some stage)
    (h : s.answer? id stage most q = some (reply, t)) : Tied (stage.streams.input = .console) s t := by
  cases q with
  | poll | moveTo => cases h; exact tied_modifyStage s fun _ _ => rfl
  | read => exact tied_readInput hs h
  | write => exact tied_writeOutput hs h
  | interrupt =>
    obtain rfl : s.trigger.2 = t := congrArg Prod.snd (Option.some.inj h)
    exact tied_trigger s
  | flush | ownPath | files | resolve | connect | note | isArmed | streams => cases h; exact ⟨rfl, rfl, .inl rfl⟩

theorem tied_closeEnds (s : Session) (streams : Streams) : Tied R s (s.closeEnds streams) := by
  unfold closeEnds
  cases streams.input with
  | pipe n =>
    cases streams.output with
    | pipe k => exact (tied_modifyPipe s _ _).trans (tied_modifyPipe _ _ _)
    | console | file => exact tied_modifyPipe s _ _
  | console | exhausted | file =>
    cases streams.output with
    | pipe k => exact tied_modifyPipe s _ _
    | console | file => exact ⟨rfl, rfl, .inl rfl⟩

theorem tied_setPhase (s : Session) (id : Nat) (phase : Phase) : Tied R s (s.setPhase id phase) :=
  tied_modifyStage s fun _ _ => rfl

theorem tied_endStage (s : Session) (id : Nat) : Tied R s (s.endStage id) := tied_modifyStage s fun _ _ => rfl

theorem tied_advance (h : s.advance? id most = some t) : Tied (s.ReadsConsole id) s t := by
  obtain ⟨stage, hs, h⟩ := advances_of_advance? h
  cases h with
  | done => exact (tied_closeEnds s _).trans (tied_setPhase _ _ _)
  | entered | ready => exact tied_setPhase s _ _
  | shown =>
    refine Tied.trans ?_ (tied_setPhase _ _ _)
    exact ⟨rfl, rfl, .inl rfl⟩
  | answered _ ha =>
    obtain ⟨hw, hp, hu⟩ := tied_answer hs ha
    have hreads : stage.streams.input = .console → s.ReadsConsole id := fun hin =>
      ⟨_, wires_of_getElem? hs, Input.place_eq_console_iff.2 hin⟩
    exact Tied.trans ⟨hw, hp, hu.imp_right hreads⟩ (tied_setPhase _ _ _)
  | sent _ h =>
    obtain ⟨current, rfl⟩ := send?_eq h
    exact (tied_endStage s id).trans ⟨rfl, rfl, .inl rfl⟩

theorem tied_launch (s : Session) (run : Run) (id : Nat) (waiting : List Nat) : Tied R s (s.launch run id waiting) := by
  unfold launch
  split
  · exact ⟨rfl, rfl, .inl rfl⟩
  · next stage hs =>
    cases stage.phase with
    | ready program => exact (tied_setPhase s id _).trans ⟨rfl, rfl, .inl rfl⟩
    | running | reporting | sending | ended => exact ⟨rfl, rfl, .inl rfl⟩

theorem tied_drive (h : s.drive? = some t) : Tied R s t := by
  obtain ⟨run, id, waiting, rfl⟩ | ⟨current, rfl⟩ | ⟨run, detach, rfl⟩ := drive?_cases h
  · exact tied_launch s run id waiting
  · exact ⟨rfl, rfl, .inl rfl⟩
  · exact ⟨rfl, rfl, .inl rfl⟩

/-- **Every move leaves the wires as they are**, and the console input but for a stage that reads it. -/
theorem tied_of_step? (h : s.step? m = some t) : Tied (s.Draws m) s t := by
  cases m with
  | drive => exact tied_drive h
  | advance id most => exact tied_advance h
  | vanish id =>
    have h : s.vanish? id = some t := h
    unfold vanish? at h
    split at h <;> cases h
    exact tied_endStage s id
  | interrupt =>
    cases h
    exact tied_trigger s

theorem wires_of_play {moves : List Move} (h : s.play moves = some t) : t.wires = s.wires :=
  play_keeps (P := fun t => t.wires = s.wires) (fun _ _ _ hu hm => (tied_of_step? hm).wires.trans hu) rfl h

end Session
end LineShell
