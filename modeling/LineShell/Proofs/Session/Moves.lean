import LineShell.Session.Step
/-!
# Moves — what a move can do to a session

Of a stage, a run sees neither the stop slot nor the streams; what it sees is the stage's face.  `Step` says of every
move what becomes of the faces and of the run under way, and `step_of_step?` that nothing else can happen.  What holds
of a run in every order of moves is proved from it, without opening the moves again.
-/
namespace LineShell

/-- What a run sees of a stage. -/
structure Face where
  run : Nat
  index : Nat
  name : String
  background : Bool
  path : String
  phase : Phase

def Stage.face (stage : Stage) : Face :=
  ⟨stage.run, stage.index, stage.name, stage.background, stage.path, stage.phase⟩

abbrev Faces := Nat → Option Face

namespace Faces

def modify (F : Faces) (id : Nat) (g : Face → Face) : Faces := fun j => if j = id then (F j).map g else F j

theorem modify_self (F : Faces) (id : Nat) (g : Face → Face) : F.modify id g id = (F id).map g := by simp [modify]

theorem modify_ne (F : Faces) {id j : Nat} (g : Face → Face) (h : j ≠ id) : F.modify id g j = F j := by
  simp [modify, h]

theorem modify_modify (F : Faces) (id : Nat) (g k : Face → Face) :
    (F.modify id g).modify id k = F.modify id (k ∘ g) := by
  funext j
  by_cases h : j = id <;> simp [modify, h]

theorem modify_id_fun (F : Faces) (id : Nat) : F.modify id (fun f => f) = F := by
  funext j
  by_cases h : j = id <;> simp [modify, h]

theorem modify_of_eq (F : Faces) {id : Nat} {f : Face} {g : Face → Face} (hf : F id = some f) (hg : g f = f) :
    F.modify id g = F := by
  funext j
  by_cases h : j = id
  · subst h; rw [modify_self, hf, Option.map_some, hg]
  · exact modify_ne F g h

def set (F : Faces) (id : Nat) (g : Face) : Faces := fun j => if j = id then some g else F j

@[simp] theorem set_self (F : Faces) (id : Nat) (g : Face) : F.set id g id = some g := by simp [set]

theorem set_ne (F : Faces) {id j : Nat} (g : Face) (h : j ≠ id) : F.set id g j = F j := by simp [set, h]

theorem modify_eq_set (F : Faces) {id : Nat} {f : Face} (g : Face → Face) (hf : F id = some f) :
    F.modify id g = F.set id (g f) := by
  funext j
  by_cases h : j = id
  · subst h; rw [modify_self, hf, set_self, Option.map_some]
  · rw [modify_ne F g h, set_ne F _ h]

end Faces

namespace Session

def faces (s : Session) : Faces := fun id => s.stages[id]?.map Stage.face

theorem faces_eq_some {s : Session} {id : Nat} {f : Face} :
    s.faces id = some f ↔ ∃ stage, s.stages[id]? = some stage ∧ stage.face = f := by
  simp [faces, Option.map_eq_some_iff]

theorem faces_of_getElem? {s : Session} {id : Nat} {stage : Stage} (h : s.stages[id]? = some stage) :
    s.faces id = some stage.face := by
  simp [faces, h]

theorem faces_modifyStage (s : Session) (id : Nat) {f : Stage → Stage} {g : Face → Face}
    (h : ∀ stage, (f stage).face = g stage.face) : (s.modifyStage id f).faces = s.faces.modify id g := by
  funext j
  by_cases hj : j = id
  · subst hj
    cases hs : s.stages[j]? <;> simp [faces, modifyStage, Faces.modify, Array.getElem?_modify, hs, h]
  · simp [faces, modifyStage, Faces.modify, Array.getElem?_modify, hj, Ne.symm hj]

theorem faces_modifyStage_of_eq (s : Session) (id : Nat) {f : Stage → Stage}
    (h : ∀ stage, (f stage).face = stage.face) : (s.modifyStage id f).faces = s.faces := by
  rw [faces_modifyStage s id (g := fun f => f) h, Faces.modify_id_fun]

theorem faces_setPhase (s : Session) (id : Nat) (phase : Phase) :
    (s.setPhase id phase).faces = s.faces.modify id (fun f => { f with phase }) :=
  faces_modifyStage s id (fun _ => rfl)

theorem faces_endStage (s : Session) (id : Nat) :
    (s.endStage id).faces = s.faces.modify id (fun f => { f with phase := .ended }) :=
  faces_modifyStage s id (fun _ => rfl)

theorem hasEnded_eq (s : Session) (id : Nat) : s.hasEnded id = (s.faces id).all (fun f => f.phase.isEnded) := by
  unfold hasEnded faces
  cases s.stages[id]? <;> rfl

theorem pipe_modifyPipe (u : Session) {n : Nat} (f : Pipe → Pipe) (hn : n < u.pipes.size) (i : Nat) :
    (u.modifyPipe n f).pipe i = if n = i then f (u.pipe i) else u.pipe i := by
  simp only [pipe, modifyPipe, Array.getD_eq_getD_getElem?, Array.getElem?_modify]
  by_cases h : n = i
  · subst h
    simp [hn]
  · simp [h]

theorem pipe_modifyPipe_cases (u : Session) (n : Nat) (f : Pipe → Pipe) (i : Nat) :
    (u.modifyPipe n f).pipe i = u.pipe i ∨ i = n ∧ (u.modifyPipe n f).pipe i = f (u.pipe i) := by
  simp only [pipe, modifyPipe, Array.getD_eq_getD_getElem?, Array.getElem?_modify]
  by_cases h : n = i
  · subst h
    cases u.pipes[n]? with
    | none => exact .inl (by simp)
    | some p => exact .inr ⟨rfl, by simp⟩
  · exact .inl (by simp [h])

/-- What most moves leave alone: the path, the statuses and the rest that only the end of a run changes. -/
structure Kept (s t : Session) : Prop where
  path : t.path = s.path
  registry : t.registry = s.registry
  runs : t.runs = s.runs
  statuses : t.statuses = s.statuses
  detached : t.detached = s.detached
  pipeCapacity : t.pipeCapacity = s.pipeCapacity

theorem Kept.of_eq {s t : Session}
    (h : t = { t with path := s.path, registry := s.registry, runs := s.runs, statuses := s.statuses,
                      detached := s.detached, pipeCapacity := s.pipeCapacity }) : Kept s t := by
  rw [h]
  exact ⟨rfl, rfl, rfl, rfl, rfl, rfl⟩

theorem Kept.setPhase {s t : Session} {id : Nat} {phase : Phase} (h : Kept s t) : Kept s (t.setPhase id phase) where
  path := h.path
  registry := h.registry
  runs := h.runs
  statuses := h.statuses
  detached := h.detached
  pipeCapacity := h.pipeCapacity

theorem Kept.trans {s t u : Session} (h : Kept s t) (h' : Kept t u) : Kept s u where
  path := h'.path.trans h.path
  registry := h'.registry.trans h.registry
  runs := h'.runs.trans h.runs
  statuses := h'.statuses.trans h.statuses
  detached := h'.detached.trans h.detached
  pipeCapacity := h'.pipeCapacity.trans h.pipeCapacity

end Session

/-! ## Interrupts -/

def Run.told (run : Run) : Run :=
  if run.armed ∧ run.channel.length < run.capacity then { run with channel := run.channel ++ [.interrupt] } else run

namespace Session

theorem requestStops_eq (ids : List Nat) :
    ∀ s : Session, (s.requestStops ids).faces = s.faces ∧ (s.requestStops ids).current = s.current ∧
      Kept s (s.requestStops ids) ∧ (s.requestStops ids).pipes = s.pipes ∧ (s.requestStops ids).console = s.console := by
  induction ids with
  | nil => exact fun s => ⟨rfl, rfl, .of_eq rfl, rfl, rfl⟩
  | cons id ids ih =>
    intro s
    obtain ⟨h1, h2, h3, h4, h5⟩ := ih (s.modifyStage id (fun stage => { stage with slot := stage.slot.request.2 }))
    exact ⟨h1.trans (faces_modifyStage_of_eq s id (fun _ => rfl)), h2, Kept.trans (.of_eq rfl) h3, h4, h5⟩

theorem faces_trigger (s : Session) : s.trigger.2.faces = s.faces := by
  unfold trigger
  split
  · rfl
  · split
    · exact (requestStops_eq _ s).1
    · rfl

theorem current_trigger (s : Session) : s.trigger.2.current = s.current.map Run.told := by
  unfold trigger
  split
  · next h => simp [h]
  · next run h =>
    by_cases ha : run.armed = true
    · by_cases hc : run.channel.length < run.capacity <;> simp [h, ha, hc, Run.told]
    · simp [h, ha, Run.told]

theorem kept_trigger (s : Session) : Kept s s.trigger.2 := by
  unfold trigger
  split
  · exact .of_eq rfl
  · split
    · exact Kept.trans (requestStops_eq _ s).2.2.1 (.of_eq rfl)
    · exact .of_eq rfl

theorem fst_trigger (s : Session) : s.trigger.1 = s.isArmed := by
  unfold trigger isArmed
  cases s.current with
  | none => rfl
  | some run => by_cases ha : run.armed = true <;> simp [ha]

end Session

/-! ## Stages -/

def Phase.launched : Phase → Phase
  | ready program => running program
  | phase => phase

def Phase.appeals : Phase → Bool
  | running (.ask .interrupt _) => true
  | _ => false

/-- Where a command is once it was answered: nothing but a request to move changes its path. -/
def Request.moved : Request → String → String
  | .moveTo path, _ => path
  | _, path => path

/-- A stage does some of its own work: it is answered, goes on with a loop, closes its streams or shows an error. -/
inductive Face.Works : Face → Face → Prop
  | answered {f : Face} {q : Request} {next : q.Reply → Program Outcome} (reply : q.Reply) (path : String) :
      f.phase = .running (.ask q next) → q ≠ .interrupt → path = q.moved f.path →
      Works f { f with phase := .running (next reply), path }
  | entered {f : Face} {l : Loop} {state : l.State} {next : Except Failure l.Value → Program Outcome} :
      f.phase = .running (.loop l state next) → Works f { f with phase := .running (Program.enter l state next) }
  | closed {f : Face} {outcome : Outcome} :
      f.phase = .running (.done outcome) →
      Works f { f with phase := Session.phaseAfter f.background (Status.ofOutcome f.name outcome) }
  | shown {f : Face} {piece : String} {pieces : List String} {status : Status} :
      f.phase = .reporting (piece :: pieces) status → Works f { f with phase := .reporting pieces status }
  | ready {f : Face} {status : Status} : f.phase = .reporting [] status → Works f { f with phase := .sending status }

theorem Face.Works.appeals_eq_false {f g : Face} (h : Works f g) : f.phase.appeals = false := by
  cases h with
  | answered reply path hp hq hpath => rw [hp]; unfold Phase.appeals; split <;> simp_all
  | entered hp | closed hp | shown hp | ready hp => rw [hp]; rfl

namespace Session

structure Unseen (s t : Session) : Prop extends Kept s t where
  faces : t.faces = s.faces
  current : t.current = s.current

theorem Unseen.modifyStage (s : Session) (id : Nat) {f : Stage → Stage} (h : ∀ stage, (f stage).face = stage.face) :
    Unseen s (s.modifyStage id f) :=
  ⟨.of_eq rfl, faces_modifyStage_of_eq s id h, rfl⟩

theorem readInput?_cases {s t : Session} {id : Nat} {streams : Streams} {limit most : Nat} {reply : Except Fault Bytes}
    (h : s.readInput? id streams limit most = some (reply, t)) :
    t = s ∨ (∃ console, streams.input = .console ∧ t = { s with console }) ∨
      (∃ file k k', streams.input = .file file k ∧
        t = s.modifyStage id (fun stage => { stage with streams := { streams with input := .file file k' } })) ∨
      ∃ n f, t = s.modifyPipe n f := by
  unfold readInput? at h
  split at h
  · cases h
    exact .inl rfl
  · next hin =>
    cases h
    exact .inr (.inl ⟨_, hin, rfl⟩)
  · next hin =>
    split at h <;> cases h
    · exact .inr (.inr (.inl ⟨_, _, _, hin, rfl⟩))
    · exact .inl rfl
  · by_cases h0 : limit = 0
    · simp only [h0, if_true] at h
      cases h
      exact .inl rfl
    · simp only [h0, if_false] at h
      split at h
      · split at h <;> cases h
        exact .inl rfl
      · cases h
        exact .inr (.inr (.inr ⟨_, _, rfl⟩))

theorem writeOutput?_cases {s t : Session} {id : Nat} {streams : Streams} {data : Bytes} {most : Nat}
    {reply : Except Fault Nat} (h : s.writeOutput? id streams data most = some (reply, t)) :
    t = s ∨ t = { s with console := s.console.write data } ∨ (∃ files, t = { s with files }) ∨
      (∃ files file k k', streams.output = .file file k ∧ t = { s with files }.modifyStage id
        (fun stage => { stage with streams := { streams with output := .file file k' } })) ∨
      ∃ n f, t = s.modifyPipe n f := by
  unfold writeOutput? at h
  split at h
  · cases h
    exact .inr (.inl rfl)
  · next hout =>
    split at h <;> cases h
    · exact .inr (.inr (.inr (.inl ⟨_, _, _, _, hout, rfl⟩)))
    · exact .inr (.inr (.inl ⟨_, rfl⟩))
  · dsimp only at h
    split at h
    · cases h
      exact .inl rfl
    · split at h <;> cases h
      exact .inr (.inr (.inr (.inr ⟨_, _, rfl⟩)))

theorem Unseen.readInput {s t : Session} {id : Nat} {streams : Streams} {limit most : Nat} {reply : Except Fault Bytes}
    (h : s.readInput? id streams limit most = some (reply, t)) : Unseen s t := by
  obtain rfl | ⟨console, -, rfl⟩ | ⟨file, k, k', -, rfl⟩ | ⟨n, f, rfl⟩ := readInput?_cases h
  · exact ⟨.of_eq rfl, rfl, rfl⟩
  · exact ⟨.of_eq rfl, rfl, rfl⟩
  · exact Unseen.modifyStage s id (fun _ => rfl)
  · exact ⟨.of_eq rfl, rfl, rfl⟩

theorem Unseen.writeOutput {s t : Session} {id : Nat} {streams : Streams} {data : Bytes} {most : Nat}
    {reply : Except Fault Nat} (h : s.writeOutput? id streams data most = some (reply, t)) : Unseen s t := by
  obtain rfl | rfl | ⟨files, rfl⟩ | ⟨files, file, k, k', -, rfl⟩ | ⟨n, f, rfl⟩ := writeOutput?_cases h
  · exact ⟨.of_eq rfl, rfl, rfl⟩
  · exact ⟨.of_eq rfl, rfl, rfl⟩
  · exact ⟨.of_eq rfl, rfl, rfl⟩
  · exact ⟨.of_eq rfl, faces_modifyStage_of_eq _ id (fun _ => rfl), rfl⟩
  · exact ⟨.of_eq rfl, rfl, rfl⟩

/-- **An answer** other than an interrupt changes a stage's path at most, and that only if it was asked to. -/
theorem answer?_unseen {s t : Session} {id : Nat} {stage : Stage} {most : Nat} {q : Request} {reply : q.Reply}
    (hq : q ≠ .interrupt) (hs : s.stages[id]? = some stage) (h : s.answer? id stage most q = some (reply, t)) :
    t.faces = s.faces.modify id (fun f => { f with path := q.moved stage.path }) ∧ t.current = s.current ∧ Kept s t := by
  have same : Unseen s t → t.faces = s.faces.modify id (fun f => { f with path := stage.path }) ∧
      t.current = s.current ∧ Kept s t := fun hu =>
    ⟨hu.faces.trans (s.faces.modify_of_eq (faces_of_getElem? hs) rfl).symm, hu.current, hu.toKept⟩
  cases q with
  | moveTo path => cases h; exact ⟨faces_modifyStage s id (fun _ => rfl), rfl, .of_eq rfl⟩
  | interrupt => exact absurd rfl hq
  | poll => cases h; exact same (Unseen.modifyStage s id (fun _ => rfl))
  | read limit => exact same (Unseen.readInput h)
  | write data => exact same (Unseen.writeOutput h)
  | flush => cases h; exact same ⟨.of_eq rfl, rfl, rfl⟩
  | ownPath => cases h; exact same ⟨.of_eq rfl, rfl, rfl⟩
  | files q => cases h; exact same ⟨.of_eq rfl, rfl, rfl⟩
  | resolve host => cases h; exact same ⟨.of_eq rfl, rfl, rfl⟩
  | connect target => cases h; exact same ⟨.of_eq rfl, rfl, rfl⟩
  | note line => cases h; exact same ⟨.of_eq rfl, rfl, rfl⟩
  | isArmed => cases h; exact same ⟨.of_eq rfl, rfl, rfl⟩
  | streams => cases h; exact same ⟨.of_eq rfl, rfl, rfl⟩

/-! ## The driver -/

/-- **What a move can do** to the faces of stages and to the run under way. -/
inductive Step (s t : Session) : Move → Prop
  | work {id most : Nat} {f g : Face} :
      s.faces id = some f → Face.Works f g → t.faces = s.faces.set id g → t.current = s.current → Kept s t →
      Step s t (.advance id most)
  /-- A stage interrupts the run. -/
  | appeal {id most : Nat} {f : Face} {next : Bool → Program Outcome} :
      s.faces id = some f → f.phase = .running (.ask .interrupt next) →
      t.faces = s.faces.set id { f with phase := .running (next s.isArmed) } →
      t.current = s.current.map Run.told → Kept s t → Step s t (.advance id most)
  | report {id most : Nat} {f : Face} {status : Status} {run : Run} :
      s.faces id = some f → f.phase = .sending status → s.current = some run → f.run = run.number →
      run.channel.length < run.capacity → t.faces = s.faces.set id { f with phase := .ended } →
      t.current = some { run with channel := run.channel ++ [.finished f.index status f.path] } → Kept s t →
      Step s t (.advance id most)
  /-- The run of the stage is over. -/
  | lose {id most : Nat} {f : Face} {status : Status} :
      s.faces id = some f → f.phase = .sending status → (∀ run, s.current = some run → f.run ≠ run.number) →
      t.faces = s.faces.set id { f with phase := .ended } → t.current = s.current → Kept s t →
      Step s t (.advance id most)
  | vanish {id : Nat} {f : Face} {status : Status} :
      s.faces id = some f → f.phase = .sending status → t.faces = s.faces.set id { f with phase := .ended } →
      t.current = s.current → Kept s t → Step s t (.vanish id)
  | interrupt : t.faces = s.faces → t.current = s.current.map Run.told → Kept s t → Step s t .interrupt
  | launch {run : Run} {id : Nat} {waiting : List Nat} {f : Face} :
      s.current = some run → run.phase = .launching (id :: waiting) → s.faces id = some f →
      t.faces = s.faces.set id { f with phase := f.phase.launched } →
      t.current = some { run with
        board := if run.background then run.board.record f.index ⟨.ok, f.name, none⟩ none else run.board
        phase := .launching waiting } → Kept s t → Step s t .drive
  /-- There is no such stage to launch. -/
  | skip {run : Run} {id : Nat} {waiting : List Nat} :
      s.current = some run → run.phase = .launching (id :: waiting) → s.faces id = none → t.faces = s.faces →
      t.current = some { run with phase := .launching waiting } → Kept s t → Step s t .drive
  | collect {run : Run} :
      s.current = some run → run.phase = .launching [] → run.background = false → t.faces = s.faces →
      t.current = some { run with phase := .collecting } → Kept s t → Step s t .drive
  /-- A run in the background is left to itself. -/
  | leave {run : Run} :
      s.current = some run → run.phase = .launching [] → run.background = true → t = s.finish run true →
      Step s t .drive
  | receive {run : Run} {index : Nat} {status : Status} {path : String} {channel : List Event} :
      s.current = some run → run.phase = .collecting → run.board.isComplete = false →
      run.channel = .finished index status path :: channel → t.faces = s.faces →
      t.current = some { run with channel, board := run.board.record index status (some path) } → Kept s t →
      Step s t .drive
  | heed {run : Run} {channel : List Event} :
      s.current = some run → run.phase = .collecting → run.board.isComplete = false →
      run.channel = .interrupt :: channel → t.faces = s.faces →
      t.current = some { run with channel, board := run.board.requestStop.2, phase := .closing true } → Kept s t →
      Step s t .drive
  /-- All statuses are there, or none can come any more. -/
  | close {run : Run} :
      s.current = some run → run.phase = .collecting →
      run.board.isComplete = true ∨ run.channel = [] ∧ s.mayReport run = false →
      t.faces = s.faces → t.current = some { run with phase := .closing false } → Kept s t → Step s t .drive
  | conclude {run : Run} :
      s.current = some run → run.phase = .closing false → t.faces = s.faces →
      t.current = some { run with armed := false, board := run.board.conclude silence, phase := .joining } → Kept s t →
      Step s t .drive
  /-- A run that was interrupted does not wait for its stages. -/
  | abandon {run : Run} :
      s.current = some run → run.phase = .closing true →
      t = s.finish { run with armed := false, board := run.board.conclude silence } true → Step s t .drive
  | join {run : Run} :
      s.current = some run → run.phase = .joining → (∀ id ∈ run.stages, s.hasEnded id = true) →
      t = s.finish run false → Step s t .drive

theorem faces_closeEnds (s : Session) (streams : Streams) : (s.closeEnds streams).faces = s.faces := by
  unfold closeEnds
  cases streams.input <;> cases streams.output <;> rfl

theorem current_closeEnds (s : Session) (streams : Streams) : (s.closeEnds streams).current = s.current := by
  unfold closeEnds
  cases streams.input <;> cases streams.output <;> rfl

theorem kept_closeEnds (s : Session) (streams : Streams) : Kept s (s.closeEnds streams) := by
  unfold closeEnds
  cases streams.input <;> cases streams.output <;> exact .of_eq rfl

theorem faces_setPhase_of_eq {s t : Session} {id : Nat} {stage : Stage} (ht : t.faces = s.faces)
    (hs : s.stages[id]? = some stage) (phase : Phase) :
    (t.setPhase id phase).faces = s.faces.set id { stage.face with phase } := by
  rw [faces_setPhase, ht, Faces.modify_eq_set _ _ (faces_of_getElem? hs)]

theorem advance?_of_hasEnded {s : Session} {id most : Nat} (h : s.hasEnded id = true) : s.advance? id most = none := by
  unfold hasEnded at h
  unfold advance?
  cases hs : s.stages[id]? with
  | none => rfl
  | some stage =>
    rw [hs] at h
    cases hp : stage.phase <;> simp [hp, Phase.isEnded] at h ⊢

/-- **How a stage goes on**, by what it is at. -/
inductive Advances (s : Session) (id most : Nat) (stage : Stage) : Session → Prop
  | done {outcome : Outcome} : stage.phase = .running (.done outcome) →
      Advances s id most stage ((s.closeEnds stage.streams).setPhase id
        (phaseAfter stage.background (Status.ofOutcome stage.name outcome)))
  | entered {l : Loop} {state : l.State} {next : Except Failure l.Value → Program Outcome} :
      stage.phase = .running (.loop l state next) →
      Advances s id most stage (s.setPhase id (.running (Program.enter l state next)))
  | answered {q : Request} {next : q.Reply → Program Outcome} {reply : q.Reply} {u : Session} :
      stage.phase = .running (.ask q next) → s.answer? id stage most q = some (reply, u) →
      Advances s id most stage (u.setPhase id (.running (next reply)))
  | shown {piece : String} {pieces : List String} {status : Status} :
      stage.phase = .reporting (piece :: pieces) status →
      Advances s id most stage ({ s with console := s.console.writeError (Bytes.ofString piece) }.setPhase id
        (.reporting pieces status))
  | ready {status : Status} : stage.phase = .reporting [] status →
      Advances s id most stage (s.setPhase id (.sending status))
  | sent {status : Status} {t : Session} : stage.phase = .sending status → s.send? id stage status = some t →
      Advances s id most stage t

theorem advances_of_advance? {s t : Session} {id most : Nat} (h : s.advance? id most = some t) :
    ∃ stage, s.stages[id]? = some stage ∧ Advances s id most stage t := by
  unfold advance? at h
  split at h
  · cases h
  next stage hs =>
  refine ⟨stage, hs, ?_⟩
  split at h
  · cases h
  · cases h
  · next hp =>
    cases h
    exact .done hp
  · next hp =>
    cases h
    exact .entered hp
  · next hp =>
    split at h
    · next ha =>
      cases h
      exact .answered hp ha
    · cases h
  · next hp =>
    cases h
    exact .ready hp
  · next hp =>
    cases h
    exact .shown hp
  · next hp => exact .sent hp h

theorem send?_eq {s t : Session} {id : Nat} {stage : Stage} {status : Status} (h : s.send? id stage status = some t) :
    ∃ current, t = { s.endStage id with current } := by
  unfold send? at h
  split at h
  · cases h; exact ⟨_, rfl⟩
  · split at h
    · cases h; exact ⟨_, rfl⟩
    · split at h <;> cases h
      exact ⟨_, rfl⟩

theorem step_of_send? {s t : Session} {id most : Nat} {stage : Stage} {status : Status}
    (hs : s.stages[id]? = some stage) (hp : stage.phase = .sending status) (h : s.send? id stage status = some t) :
    Step s t (.advance id most) := by
  have hf := faces_of_getElem? hs
  have hend : (s.endStage id).faces = s.faces.set id { stage.face with phase := .ended } := by
    rw [faces_endStage, Faces.modify_eq_set _ _ hf]
  unfold send? at h
  split at h
  · next hc =>
    cases h
    exact .lose hf hp (fun run hr => by rw [hc] at hr; cases hr) hend rfl (.of_eq rfl)
  · next run hc =>
    split at h
    · next hn =>
      cases h
      refine .lose hf hp (fun run' hr => ?_) hend rfl (.of_eq rfl)
      rw [hc] at hr
      cases hr
      exact Ne.symm hn
    · next hn =>
      split at h <;> cases h
      next hroom => exact .report hf hp hc (Eq.symm (Decidable.of_not_not hn)) hroom hend rfl (.of_eq rfl)

theorem step_of_advance? {s t : Session} {id most : Nat} (h : s.advance? id most = some t) :
    Step s t (.advance id most) := by
  obtain ⟨stage, hs, h⟩ := advances_of_advance? h
  have hf := faces_of_getElem? hs
  cases h with
  | done hp =>
    refine .work hf (.closed hp) ?_ (current_closeEnds s _) (kept_closeEnds s _).setPhase
    exact faces_setPhase_of_eq (faces_closeEnds s _) hs _
  | entered hp => exact .work hf (.entered hp) (faces_setPhase_of_eq rfl hs _) rfl (.of_eq rfl)
  | shown hp => exact .work hf (.shown hp) (faces_setPhase_of_eq rfl hs _) rfl (.of_eq rfl)
  | ready hp => exact .work hf (.ready hp) (faces_setPhase_of_eq rfl hs _) rfl (.of_eq rfl)
  | sent hp h => exact step_of_send? hs hp h
  | @answered q next reply u hp ha =>
    by_cases hq : q = .interrupt
    · subst hq
      have ht : s.trigger = (reply, u) := Option.some.inj ha
      have hreply : reply = s.isArmed := by rw [← fst_trigger, ht]
      have hu : u = s.trigger.2 := by rw [ht]
      subst hreply hu
      exact .appeal hf hp (faces_setPhase_of_eq (faces_trigger s) hs _) (current_trigger s) (kept_trigger s).setPhase
    · obtain ⟨hfaces, hcur, hkept⟩ := answer?_unseen hq hs ha
      refine .work hf (.answered reply (q.moved stage.path) hp hq rfl) ?_ hcur hkept.setPhase
      rw [faces_setPhase, hfaces, Faces.modify_modify, Faces.modify_eq_set _ _ hf]
      rfl

theorem step_of_vanish? {s t : Session} {id : Nat} (h : s.vanish? id = some t) : Step s t (.vanish id) := by
  unfold vanish? at h
  split at h <;> cases h
  next hs =>
    refine .vanish (faces_of_getElem? hs) rfl ?_ rfl (.of_eq rfl)
    rw [faces_endStage, Faces.modify_eq_set _ _ (faces_of_getElem? hs)]

theorem drive?_cases {s t : Session} (h : s.drive? = some t) :
    (∃ run id waiting, t = s.launch run id waiting) ∨ (∃ current, t = { s with current }) ∨
      ∃ run detach, t = s.finish run detach := by
  unfold drive? at h
  split at h
  · cases h
  split at h
  · cases h
    exact .inl ⟨_, _, _, rfl⟩
  · split at h <;> cases h
    · exact .inr (.inr ⟨_, _, rfl⟩)
    · exact .inr (.inl ⟨_, rfl⟩)
  · split at h
    · cases h
      exact .inr (.inl ⟨_, rfl⟩)
    · split at h
      · cases h
        exact .inr (.inl ⟨_, rfl⟩)
      · cases h
        exact .inr (.inl ⟨_, rfl⟩)
      · split at h <;> cases h
        exact .inr (.inl ⟨_, rfl⟩)
  · dsimp only at h
    split at h <;> cases h
    · exact .inr (.inr ⟨_, _, rfl⟩)
    · exact .inr (.inl ⟨_, rfl⟩)
  · split at h <;> cases h
    exact .inr (.inr ⟨_, _, rfl⟩)

theorem step_of_drive? {s t : Session} (h : s.drive? = some t) : Step s t .drive := by
  unfold drive? at h
  split at h
  · cases h
  next run hc =>
  split at h
  · next id waiting hp =>
    cases h
    unfold launch
    split
    · next hs => exact .skip hc hp (by simp [faces, hs]) rfl rfl (.of_eq rfl)
    · next stage hs =>
      have hf := faces_of_getElem? hs
      cases hph : stage.phase with
      | ready program =>
        refine .launch hc hp hf ?_ rfl (.of_eq rfl)
        rw [show stage.face.phase = .ready program from hph]
        exact faces_setPhase_of_eq rfl hs _
      | running _ | reporting _ _ | sending _ | ended =>
        refine .launch hc hp hf ?_ rfl (.of_eq rfl)
        rw [← Faces.modify_eq_set _ (fun f => { f with phase := f.phase.launched }) hf]
        exact (Faces.modify_of_eq _ hf (by simp [Stage.face, Phase.launched, hph])).symm
  · next hp =>
    split at h <;> cases h
    · next hb => exact .leave hc hp hb rfl
    · next hb => exact .collect hc hp (by simpa using hb) rfl rfl (.of_eq rfl)
  · next hp =>
    split at h
    · next hd => cases h; exact .close hc hp (.inl hd) rfl rfl (.of_eq rfl)
    · next hd =>
      have hd : run.board.isComplete = false := by simpa using hd
      split at h
      · next hch => cases h; exact .receive hc hp hd hch rfl rfl (.of_eq rfl)
      · next hch => cases h; exact .heed hc hp hd hch rfl rfl (.of_eq rfl)
      · next hch =>
        split at h <;> cases h
        next hm => exact .close hc hp (.inr ⟨hch, by simpa using hm⟩) rfl rfl (.of_eq rfl)
  · next interrupted hp =>
    dsimp only at h
    split at h <;> cases h
    · next hi => subst hi; exact .abandon hc hp rfl
    · next hi =>
      have hi : interrupted = false := by simpa using hi
      subst hi
      exact .conclude hc hp rfl rfl (.of_eq rfl)
  · next hp =>
    split at h <;> cases h
    next hall => exact .join hc hp (List.all_eq_true.1 hall) rfl

/-- **Every move is one of these steps.** -/
theorem step_of_step? {s t : Session} {m : Move} (h : s.step? m = some t) : Step s t m := by
  cases m with
  | drive => exact step_of_drive? h
  | advance id most => exact step_of_advance? h
  | vanish id => exact step_of_vanish? h
  | interrupt =>
    cases h
    exact .interrupt (faces_trigger s) (current_trigger s) (kept_trigger s)

end Session
end LineShell
