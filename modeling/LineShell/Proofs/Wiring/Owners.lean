import LineShell.Proofs.Session.Silence
import LineShell.Proofs.Wiring.Wires
/-!
# Owners — who holds which end of a pipe

`Plumbed` says of a session that its stages hold pipes that it has, no two of them the same end of one, and that none in
the background reads from the console.  Every session that comes about is plumbed (`Lived.plumbed`): a run makes its own
pipes, and each of them joins two stages of it.  `wiring_of_run` puts together what that means for one run.
-/
namespace LineShell

inductive PipeEnd where
  | reading
  | writing

namespace PipeEnd

def pipe? (streams : Streams) : PipeEnd → Option Nat
  | reading =>
    match streams.input with
    | .pipe n => some n
    | _ => none
  | writing =>
    match streams.output with
    | .pipe n => some n
    | _ => none

def isOpen (p : Pipe) : PipeEnd → Bool
  | reading => p.readable
  | writing => p.writable

/-- The stage of a run that this end of its pipe `j` is for. -/
def stageOf (j : Nat) : PipeEnd → Nat
  | reading => j + 1
  | writing => j

theorem pipe?_reading {streams : Streams} {n : Nat} : reading.pipe? streams = some n ↔ streams.input = .pipe n := by
  rcases streams with ⟨_ | _ | _ | k, output⟩ <;> simp [pipe?]

theorem pipe?_writing {streams : Streams} {n : Nat} : writing.pipe? streams = some n ↔ streams.output = .pipe n := by
  rcases streams with ⟨input, _ | _ | k⟩ <;> simp [pipe?]

theorem pipe?_place (e : PipeEnd) (streams : Streams) : e.pipe? streams.place = e.pipe? streams := by
  apply Option.ext
  intro n
  cases e with
  | reading => rw [pipe?_reading, pipe?_reading, Streams.place, Input.place_eq_pipe_iff]
  | writing => rw [pipe?_writing, pipe?_writing, Streams.place, Output.place_eq_pipe_iff]

theorem isOpen_pipeFor {jobs : List Session.Job} {n : Nat} (e : PipeEnd) :
    e.isOpen (Session.pipeFor jobs n) = true ↔ ∃ job ∈ jobs, e.pipe? job.streams = some n := by
  cases e with
  | reading => simp only [isOpen, Session.pipeFor, List.any_eq_true, beq_iff_eq, pipe?_reading]
  | writing => simp only [isOpen, Session.pipeFor, List.any_eq_true, beq_iff_eq, pipe?_writing]

end PipeEnd

namespace Session

variable {s t u : Session} {clauses : List Clause} {moves : List Move} {m : Move} {e : PipeEnd} {id id' i k n : Nat}
  {job : Job} {stage : Stage}

def Owns (s : Session) (e : PipeEnd) (id n : Nat) : Prop :=
  ∃ stage, s.stages[id]? = some stage ∧ e.pipe? stage.streams = some n

theorem owns_iff_wires : s.Owns e id n ↔ ∃ w, s.wires id = some w ∧ e.pipe? w = some n := by
  constructor
  · rintro ⟨stage, hstage, he⟩
    exact ⟨_, wires_of_getElem? hstage, (e.pipe?_place stage.streams).trans he⟩
  · rintro ⟨w, hw, he⟩
    obtain ⟨stage, hstage, rfl⟩ := Option.map_eq_some_iff.1 hw
    exact ⟨stage, hstage, (e.pipe?_place stage.streams).symm.trans he⟩

theorem owns_congr (h : t.wires = s.wires) : t.Owns e id n ↔ s.Owns e id n := by
  rw [owns_iff_wires, owns_iff_wires, h]

/-! ## At the start of a run -/

def planFor (s : Session) (clauses : List Clause) : Wiring.Plan :=
  ⟨s.path, clauses.any Clause.background, s.pipes.size, clauses.length⟩

theorem streamsOf_eq_ok {input : Input} {output : Output} :
    (s.streamsOf clauses)[i]? = some (.ok ⟨input, output⟩) ↔ ∃ clause, clauses[i]? = some clause ∧
      (s.planFor clauses).Reads i clause ((s.planFor clauses).filesBefore clauses s.files i) input ∧
      (s.planFor clauses).Writes i clause ((s.planFor clauses).filesBefore clauses s.files i) output :=
  Wiring.getElem?_openFrom_eq_ok

theorem streams_of_job (hk : (s.jobsOf clauses)[k]? = some (i, job)) :
    (s.streamsOf clauses)[i]? = some (.ok job.streams) := by
  obtain ⟨clause, streams, -, hstreams, hp⟩ := clause_of_job hk
  rwa [(prepare_eq_ok hp).2.2.2.1] at hstreams

theorem pipe_of_job (hk : (s.jobsOf clauses)[k]? = some (i, job)) (he : e.pipe? job.streams = some n) :
    ∃ j, i = e.stageOf j ∧ n = s.pipes.size + j ∧ j + 1 < clauses.length := by
  obtain ⟨clause, hc, hreads, hwrites⟩ := streamsOf_eq_ok.1 (streams_of_job hk)
  cases e with
  | reading =>
    rw [PipeEnd.pipe?_reading.1 he] at hreads
    cases hreads with
    | pipe _ hpos =>
      obtain ⟨j, rfl⟩ : ∃ j, i = j + 1 := ⟨i - 1, by omega⟩
      exact ⟨j, rfl, rfl, (List.getElem?_eq_some_iff.1 hc).1⟩
  | writing =>
    rw [PipeEnd.pipe?_writing.1 he] at hwrites
    cases hwrites with
    | pipe _ hi => exact ⟨i, rfl, rfl, hi⟩

theorem console_of_job (hk : (s.jobsOf clauses)[k]? = some (i, job)) (hin : job.streams.input = .console) :
    clauses.any Clause.background = false := by
  obtain ⟨clause, -, hreads, -⟩ := streamsOf_eq_ok.1 (streams_of_job hk)
  rw [hin] at hreads
  cases hreads with
  | console _ _ hb => exact hb

theorem wires_start_cases {w : Streams} (hw : (s.start clauses).wires id = some w) :
    (id < s.stages.size ∧ s.wires id = some w) ∨ ∃ k i job, id = k + s.stages.size ∧
      (s.jobsOf clauses)[k]? = some (i, job) ∧ w = job.streams.place := by
  obtain ⟨stage, hstage, rfl⟩ := Option.map_eq_some_iff.1 hw
  obtain ⟨hid, hstage⟩ | ⟨k, i, job, rfl, hk, rfl⟩ := stages_start_cases hstage
  · exact .inl ⟨hid, wires_of_getElem? hstage⟩
  · exact .inr ⟨k, i, job, rfl, hk, rfl⟩

/-! ## Plumbing -/

/-- **Each end of a pipe has one owner at most**, and the background has no console. -/
structure Plumbed (s : Session) : Prop where
  lt : ∀ e id n, s.Owns e id n → n < s.pipes.size
  single : ∀ e id id' n, s.Owns e id n → s.Owns e id' n → id = id'
  insulated : ∀ id seat w, s.seats id = some seat → s.wires id = some w → seat.background = true → w.input ≠ .console

/-- The owner of an end at the start of a run has an end of an earlier pipe since before, or does the job at that end
of a pipe of the run. -/
theorem owns_start_cases (hs : s.Plumbed) (h : (s.start clauses).Owns e id n) :
    (n < s.pipes.size ∧ s.Owns e id n) ∨ ∃ k j job, id = k + s.stages.size ∧
      (s.jobsOf clauses)[k]? = some (e.stageOf j, job) ∧ e.pipe? job.streams = some n ∧ n = s.pipes.size + j ∧
      j + 1 < clauses.length := by
  obtain ⟨stage, hstage, he⟩ := h
  obtain ⟨-, hstage⟩ | ⟨k, i, job, rfl, hk, rfl⟩ := stages_start_cases hstage
  · have howns : s.Owns e id n := ⟨stage, hstage, he⟩
    exact .inl ⟨hs.lt e id n howns, howns⟩
  · obtain ⟨j, rfl, hn, hj⟩ := pipe_of_job hk he
    exact .inr ⟨k, j, job, rfl, hk, he, hn, hj⟩

theorem plumbed_start (hs : s.Plumbed) : (s.start clauses).Plumbed where
  lt := by
    intro e id n h
    rw [size_pipes_start]
    obtain ⟨hn, -⟩ | ⟨k, j, job, -, -, -, hn, hj⟩ := owns_start_cases hs h <;> omega
  single := by
    intro e id id' n h h'
    -- Pipes of the run have numbers beyond all earlier ones, so an old and a new owner never meet.
    obtain ⟨hn, h⟩ | ⟨k, j, job, rfl, hk, -, hn, -⟩ := owns_start_cases hs h <;>
      obtain ⟨hn', h'⟩ | ⟨k', j', job', rfl, hk', -, hn', -⟩ := owns_start_cases hs h'
    · exact hs.single e id id' n h h'
    · omega
    · omega
    · obtain rfl : j = j' := by omega
      rw [jobsOf_inj hk hk']
  insulated := by
    intro id seat w hseat hw hb hin
    obtain ⟨hid, hw⟩ | ⟨k, i, job, rfl, hk, rfl⟩ := wires_start_cases hw
    · rw [seats, faces_start_of_lt hid] at hseat
      exact hs.insulated id seat w hseat hw hb hin
    · rw [seats_start_of_job hk, Option.some.injEq] at hseat
      subst hseat
      rw [console_of_job hk (Input.place_eq_console_iff.1 hin)] at hb
      cases hb

theorem Plumbed.step (hs : s.Plumbed) (h : s.step? m = some t) : t.Plumbed := by
  obtain ⟨hwires, hsize, -⟩ := tied_of_step? h
  have hseats := (step_of_step? h).seats_eq
  constructor
  · intro e id n howns
    rw [hsize]
    exact hs.lt e id n ((owns_congr hwires).1 howns)
  · intro e id id' n howns howns'
    exact hs.single e id id' n ((owns_congr hwires).1 howns) ((owns_congr hwires).1 howns')
  · rw [hwires, hseats]
    exact hs.insulated

theorem Plumbed.play (hs : s.Plumbed) (h : s.play moves = some t) : t.Plumbed :=
  play_keeps (P := Plumbed) (fun _ _ _ hu hm => hu.step hm) hs h

/-- **Every session that comes about is plumbed.** -/
theorem Lived.plumbed (h : s.Lived) : s.Plumbed := by
  obtain ⟨s₀, past, h₀, hlives⟩ := h
  induction hlives with
  | here => constructor <;> intros <;> simp_all [Owns, wires, h₀.stages]
  | next _ hd ih =>
    cases hd with
    | moved hm => exact ih.step hm
    | started clauses => exact plumbed_start ih
    | waited _ hw =>
      obtain ⟨-, rfl⟩ := waitBackground?_eq_some hw
      exact ⟨ih.lt, ih.single, ih.insulated⟩
    | enrolled | changed => exact ⟨ih.lt, ih.single, ih.insulated⟩

/-! ## A run -/

/-- **The wiring of a run** in a session that it has come to. -/
structure Wired (s : Session) (clauses : List Clause) (t : Session) : Prop where
  /-- A stage keeps the streams that fell to its clause.  One clause puts all stages in the background. -/
  streams : ∀ (id : Nat) (stage : Stage), t.stages[id]? = some stage → stage.run = s.runs →
    stage.background = clauses.any Clause.background ∧
    ∃ streams, (s.streamsOf clauses)[stage.index]? = some (.ok streams) ∧ stage.streams.place = streams.place
  /-- No stage but the one that an end of a pipe of the run is for holds that end. -/
  owner : ∀ (e : PipeEnd) (j id : Nat), j + 1 < clauses.length → t.Owns e id (s.pipes.size + j) →
    ∃ stage, t.stages[id]? = some stage ∧ stage.run = s.runs ∧ stage.index = e.stageOf j
  single : ∀ (e : PipeEnd) (n id id' : Nat), t.Owns e id n → t.Owns e id' n → id = id'

theorem wired_of_play (hd : s.Dated) (hs : s.Plumbed) (h : (s.start clauses).play moves = some t) :
    Wired s clauses t where
  streams := by
    intro id stage hstage hrun
    have hseat : (s.start clauses).seats id = some stage.face.seat :=
      seats_of_play h ▸ seats_of_faces (faces_of_getElem? hstage)
    obtain ⟨hid, -⟩ | ⟨k, i, job, rfl, hk, hplace⟩ :=
      wires_start_cases (wires_of_play h ▸ wires_of_getElem? hstage)
    · rw [seats, faces_start_of_lt hid] at hseat
      exact absurd hrun (Nat.ne_of_lt (hd id _ hseat))
    · rw [seats_start_of_job hk, Option.some.injEq] at hseat
      have hi : i = stage.index := congrArg Seat.index hseat
      exact ⟨(congrArg Seat.background hseat).symm, job.streams, hi ▸ streams_of_job hk, hplace⟩
  owner := by
    intro e j id _ howns
    obtain ⟨stage, hstage, he⟩ := howns
    have hseat : (s.start clauses).seats id = some stage.face.seat :=
      seats_of_play h ▸ seats_of_faces (faces_of_getElem? hstage)
    obtain ⟨hn, -⟩ | ⟨k, j', job, rfl, hk, -, hn, -⟩ :=
      owns_start_cases hs ((owns_congr (wires_of_play h)).1 ⟨stage, hstage, he⟩)
    · omega
    · obtain rfl : j = j' := by omega
      rw [seats_start_of_job hk, Option.some.injEq] at hseat
      exact ⟨stage, hstage, (congrArg Seat.run hseat).symm, (congrArg Seat.index hseat).symm⟩
  single := fun e n id id' => ((plumbed_start hs).play h).single e id id' n

/-- **An end of a pipe is open at the start of a run if a stage holds it**, and closed if not. -/
theorem isOpen_start_iff (hs : s.Plumbed) {j : Nat} (hj : j + 1 < clauses.length) :
    e.isOpen ((s.start clauses).pipe (s.pipes.size + j)) = true ↔
      ∃ id, (s.start clauses).Owns e id (s.pipes.size + j) := by
  rw [pipe_start_eq hj, PipeEnd.isOpen_pipeFor]
  constructor
  · rintro ⟨job, hmem, he⟩
    obtain ⟨⟨i, job⟩, hjob, rfl⟩ := List.mem_map.1 hmem
    obtain ⟨k, hk⟩ := List.mem_iff_getElem?.1 hjob
    exact ⟨k + s.stages.size, _, by rw [stages_start_of_job, hk]; rfl, he⟩
  · rintro ⟨id, howns⟩
    obtain ⟨hn, -⟩ | ⟨k, j', job, -, hk, he, -, -⟩ := owns_start_cases hs howns
    · omega
    · exact ⟨job, List.mem_map.2 ⟨_, List.mem_of_getElem? hk, rfl⟩, he⟩

/-! ## The background -/

/-- **A stage in the background takes nothing from the console.** -/
theorem unread_of_background (most : Nat) (hs : s.Plumbed) (hstage : s.stages[id]? = some stage)
    (hb : stage.background = true) :
    stage.streams.input ≠ .console ∧
      ∀ t, s.step? (.advance id most) = some t → t.console.unread = s.console.unread := by
  have hw := wires_of_getElem? hstage
  have hplace : stage.streams.place.input ≠ .console :=
    hs.insulated id stage.face.seat _ (seats_of_faces (faces_of_getElem? hstage)) hw hb
  refine ⟨fun hin => hplace (Input.place_eq_console_iff.2 hin), fun t h => ?_⟩
  refine (tied_of_step? h).unread.resolve_right ?_
  rintro ⟨w, hw', hin⟩
  rw [hw, Option.some.injEq] at hw'
  subst hw'
  exact hplace hin

theorem lt_of_readsConsole (hb : clauses.any Clause.background = true) (h : (s.start clauses).ReadsConsole id) :
    id < s.stages.size ∧ s.ReadsConsole id := by
  obtain ⟨w, hw, hin⟩ := h
  obtain ⟨hid, hw⟩ | ⟨k, i, job, -, hk, rfl⟩ := wires_start_cases hw
  · exact ⟨hid, w, hw, hin⟩
  · rw [console_of_job hk (Input.place_eq_console_iff.1 hin)] at hb
    cases hb

/-- **A run in the background leaves the console input alone**: only a stage of an earlier run takes any of it. -/
theorem unread_of_step (hs : s.Plumbed) (hb : clauses.any Clause.background = true)
    (h : (s.start clauses).play moves = some t) (hm : t.step? m = some u) :
    u.console.unread = t.console.unread ∨ ∃ (id most : Nat) (stage : Stage), m = .advance id most ∧
      t.stages[id]? = some stage ∧ id < s.stages.size ∧ stage.background = false ∧ stage.streams.input = .console := by
  rcases (tied_of_step? hm).unread with hunread | hdraws
  · exact .inl hunread
  cases m with
  | drive | vanish | interrupt => exact hdraws.elim
  | advance id most =>
    obtain ⟨w, hw, hin⟩ : t.ReadsConsole id := hdraws
    have hlt : id < s.stages.size := (lt_of_readsConsole hb ⟨w, wires_of_play h ▸ hw, hin⟩).1
    obtain ⟨stage, hstage, rfl⟩ := Option.map_eq_some_iff.1 hw
    refine .inr ⟨id, most, stage, rfl, hstage, hlt, ?_, Input.place_eq_console_iff.1 hin⟩
    by_contra hfront
    have hback : stage.background = true := by simpa using hfront
    exact (unread_of_background most ((plumbed_start hs).play h) hstage hback).1 (Input.place_eq_console_iff.1 hin)

theorem unread_of_play (hb : clauses.any Clause.background = true)
    (hearlier : ∀ id, s.ReadsConsole id → s.hasEnded id = true) (h : (s.start clauses).play moves = some t) :
    t.console.unread = s.console.unread := by
  have hstart : ∀ id, (s.start clauses).ReadsConsole id → (s.start clauses).hasEnded id = true := by
    intro id hreads
    obtain ⟨hid, hreads⟩ := lt_of_readsConsole hb hreads
    rw [hasEnded_eq, faces_start_of_lt hid, ← hasEnded_eq]
    exact hearlier id hreads
  -- Whoever reads from the console has ended, and stays so: nobody is left to draw on it.
  refine (play_keeps (P := fun u => u.console.unread = s.console.unread ∧ ∀ id, u.ReadsConsole id → u.hasEnded id = true)
    ?_ ⟨by rw [console_start], hstart⟩ h).1
  rintro u m v ⟨hunread, hended⟩ hm
  obtain ⟨hwires, -, hdraws⟩ := tied_of_step? hm
  refine ⟨?_, fun id hreads => ?_⟩
  · rcases hdraws with hsame | hdraws
    · exact hsame.trans hunread
    · cases m with
      | drive | vanish | interrupt => exact hdraws.elim
      | advance id most => exact absurd ((advance?_of_hasEnded (hended id hdraws)).symm.trans hm) nofun
  · rw [ReadsConsole, hwires] at hreads
    exact (step_of_step? hm).hasEnded (hended id hreads)

/-- **The wiring of a run.**  Its stages are given the streams that fall to their clauses, where the files can be opened;
it makes a pipe for each two neighbours, open at the ends that a stage holds; and in every order of moves each end has
one owner at most, the stage it is for.  A run in the background takes nothing from the console, and no stage of one ever
does. -/
theorem wiring_of_run (hs : s.Lived) :
    (∀ i input output, (s.streamsOf clauses)[i]? = some (.ok ⟨input, output⟩) ↔ ∃ clause, clauses[i]? = some clause ∧
      (s.planFor clauses).Reads i clause ((s.planFor clauses).filesBefore clauses s.files i) input ∧
      (s.planFor clauses).Writes i clause ((s.planFor clauses).filesBefore clauses s.files i) output) ∧
    (s.start clauses).pipes.size = s.pipes.size + (clauses.length - 1) ∧
    (∀ (e : PipeEnd) (j : Nat), j + 1 < clauses.length →
      (e.isOpen ((s.start clauses).pipe (s.pipes.size + j)) = true ↔
        ∃ id, (s.start clauses).Owns e id (s.pipes.size + j))) ∧
    (∀ moves t, (s.start clauses).play moves = some t → Wired s clauses t ∧ (clauses.any Clause.background = true →
      (∀ m u, t.step? m = some u → u.console.unread = t.console.unread ∨
        ∃ (id most : Nat) (stage : Stage), m = .advance id most ∧ t.stages[id]? = some stage ∧ id < s.stages.size ∧
          stage.background = false ∧ stage.streams.input = .console) ∧
      ((∀ id, s.ReadsConsole id → s.hasEnded id = true) → t.console.unread = s.console.unread))) ∧
    ∀ (v : Session) (id most : Nat) (stage : Stage), v.Lived → v.stages[id]? = some stage → stage.background = true →
      stage.streams.input ≠ .console ∧
        ∀ w, v.step? (.advance id most) = some w → w.console.unread = v.console.unread := by
  refine ⟨fun i input output => streamsOf_eq_ok, size_pipes_start, fun e j => isOpen_start_iff hs.plumbed,
    fun moves t h => ⟨wired_of_play hs.dated hs.plumbed h, fun hb => ⟨fun m u => ?_, fun hearlier => ?_⟩⟩,
    fun v id most stage hv hstage => unread_of_background most hv.plumbed hstage⟩
  · exact unread_of_step hs.plumbed hb h
  · exact unread_of_play hb hearlier h

/-- A session at its root that knows the builtins, with some input typed. -/
def typedAtRoot : Session where
  path := "/"
  registry := (Registry.install {}).2
  console := { unread := Bytes.ofString "typed" }
  files := .blank

/-- Three stages of a run in the background, the second of which writes to a file: the first is given no console, and
nobody can write to the second pipe. -/
theorem wiring_of_run_background :
    let clauses : List Clause :=
      [{ name := "cat" }, { name := "cat", output := "out" }, { name := "wc", background := true }]
    typedAtRoot.streamsOf clauses = [.ok ⟨.exhausted, .pipe 0⟩, .ok ⟨.pipe 0, .file 1 0⟩, .ok ⟨.pipe 1, .console⟩] ∧
      (typedAtRoot.start clauses).pipe 0 = ⟨[], true, true⟩ ∧ (typedAtRoot.start clauses).pipe 1 = ⟨[], true, false⟩ ∧
      (¬ ∃ id, (typedAtRoot.start clauses).Owns .writing id 1) ∧
      ∀ moves t, (typedAtRoot.start clauses).play moves = some t → t.console.unread = Bytes.ofString "typed" := by
  intro clauses
  have hlived : typedAtRoot.Lived := Opened.lived ⟨rfl, rfl, rfl, rfl⟩
  obtain ⟨-, -, hopen, hplay, -⟩ := wiring_of_run hlived
  have hclosed : (typedAtRoot.start clauses).pipe 1 = ⟨[], true, false⟩ := by decide +kernel
  refine ⟨by decide +kernel, by decide +kernel, hclosed, fun hwriter => ?_, fun moves t h => ?_⟩
  · have hwritable : PipeEnd.writing.isOpen ((typedAtRoot.start clauses).pipe 1) = true :=
      (hopen .writing 1 (by decide)).2 hwriter
    rw [hclosed] at hwritable
    cases hwritable
  · refine ((hplay moves t h).2 rfl).2 fun id hreads => ?_
    obtain ⟨w, hw, -⟩ := hreads
    cases hw

end Session
end LineShell
