import LineShell.Proofs.Session.Plays
import LineShell.Proofs.Session.Rows
import Mathlib.Data.List.Nodup
/-!
# Roster — who belongs to a run

A stage never changes its seat: its run, its place there, its name and whether it is in the background.  Nor does a run
change its charter.  So what `Manned` says of the two (every stage of the run has a place of its own, and no other stage
has one) holds as long as the run is under way, once it holds at its start (`manned_start`).
-/
namespace LineShell

/-- What of a stage never changes. -/
structure Seat where
  run : Nat
  index : Nat
  name : String
  background : Bool
  deriving DecidableEq

def Face.seat (f : Face) : Seat := ⟨f.run, f.index, f.name, f.background⟩

/-- What of a run never changes. -/
structure Charter where
  number : Nat
  background : Bool
  capacity : Nat
  stages : List Nat
  names : List String
  deriving DecidableEq

def Run.charter (run : Run) : Charter :=
  ⟨run.number, run.background, run.capacity, run.stages, run.board.rows.map Board.Row.name⟩

theorem Run.charter_told (run : Run) : run.told.charter = run.charter := by
  unfold Run.told
  split <;> rfl

namespace Session

def seats (s : Session) (id : Nat) : Option Seat := (s.faces id).map Face.seat

theorem seats_of_faces {s : Session} {id : Nat} {f : Face} (h : s.faces id = some f) : s.seats id = some f.seat := by
  simp [seats, h]

theorem seats_of_set {s t : Session} {id : Nat} {f g : Face} (hf : s.faces id = some f)
    (h : t.faces = s.faces.set id g) (hg : g.seat = f.seat) : t.seats = s.seats := by
  funext j
  by_cases hj : j = id
  · subst hj; simp [seats, h, hf, hg]
  · simp [seats, h, Faces.set_ne _ _ hj]

theorem seat_of_works {f g : Face} (h : Face.Works f g) : g.seat = f.seat := by cases h <;> rfl

/-- **No move changes a seat.** -/
theorem Step.seats_eq {s t : Session} {m : Move} (h : Step s t m) : t.seats = s.seats := by
  have same : t.faces = s.faces → t.seats = s.seats := fun h => by funext id; simp [seats, h]
  cases h with
  | work hf hw ht => exact seats_of_set hf ht (seat_of_works hw)
  | appeal hf _ ht => exact seats_of_set hf ht rfl
  | report hf _ _ _ _ ht => exact seats_of_set hf ht rfl
  | lose hf _ _ ht => exact seats_of_set hf ht rfl
  | vanish hf _ ht => exact seats_of_set hf ht rfl
  | interrupt ht => exact same ht
  | launch _ _ hf ht => exact seats_of_set hf ht rfl
  | skip _ _ _ ht | collect _ _ _ ht | receive _ _ _ _ ht | heed _ _ _ _ ht | close _ _ _ ht | conclude _ _ ht =>
    exact same ht
  | leave _ _ _ ht | abandon _ _ ht | join _ _ _ ht => subst ht; exact same rfl

/-- **No move changes the charter of the run under way.** -/
theorem Step.charter_eq {s t : Session} {m : Move} (h : Step s t m) {run run' : Run} (hs : s.current = some run)
    (ht : t.current = some run') : run'.charter = run.charter := by
  have same : t.current = s.current → run'.charter = run.charter := fun h => by
    rw [h, hs] at ht; cases ht; rfl
  have told : t.current = s.current.map Run.told → run'.charter = run.charter := fun h => by
    rw [h, hs] at ht; cases ht; exact run.charter_told
  cases h with
  | work _ _ _ h | lose _ _ _ _ h | vanish _ _ _ h => exact same h
  | appeal _ _ _ h | interrupt _ h => exact told h
  | report _ _ hr _ _ _ h | collect hr _ _ _ h | skip hr _ _ _ h | close hr _ _ _ h =>
    rw [hr] at hs; rw [h] at ht; cases hs; cases ht; rfl
  | launch hr _ _ _ h =>
    rw [hr] at hs; rw [h] at ht; cases hs; cases ht
    simp only [Run.charter, Charter.mk.injEq, true_and]
    split
    · exact Board.names_record _ _ _ _
    · rfl
  | receive hr _ _ _ _ h =>
    rw [hr] at hs; rw [h] at ht; cases hs; cases ht
    simp only [Run.charter, Board.names_record]
  | heed hr _ _ _ _ h =>
    rw [hr] at hs; rw [h] at ht; cases hs; cases ht
    simp only [Run.charter, Board.names_requestStop]
  | conclude hr _ _ h =>
    rw [hr] at hs; rw [h] at ht; cases hs; cases ht
    simp only [Run.charter, Board.names_conclude]
  | leave _ _ _ h | abandon _ _ h | join _ _ _ h => subst h; cases ht

theorem Step.current_eq_none {s t : Session} {m : Move} (h : Step s t m) (hs : s.current = none) : t.current = none := by
  cases h with
  | work _ _ _ h | lose _ _ _ _ h | vanish _ _ _ h => rw [h, hs]
  | appeal _ _ _ h | interrupt _ h => rw [h, hs]; rfl
  | report _ _ hr | collect hr | skip hr | close hr | launch hr | receive hr | heed hr | conclude hr | leave hr
  | abandon hr | join hr => rw [hs] at hr; cases hr

theorem Step.kept_of_none {s t : Session} {m : Move} (h : Step s t m) (hs : s.current = none) : Kept s t := by
  cases h with
  | work _ _ _ _ h | lose _ _ _ _ _ h | vanish _ _ _ _ h | appeal _ _ _ _ h | interrupt _ _ h => exact h
  | report _ _ hr | collect hr | skip hr | close hr | launch hr | receive hr | heed hr | conclude hr | leave hr
  | abandon hr | join hr => rw [hs] at hr; cases hr

theorem seats_of_play {s t : Session} {moves : List Move} (h : s.play moves = some t) : t.seats = s.seats :=
  play_keeps (P := fun t => t.seats = s.seats) (fun _ _ _ hu hm => (step_of_step? hm).seats_eq.trans hu) rfl h

theorem Step.runs_eq {s t : Session} {m : Move} (h : Step s t m) : t.runs = s.runs := by
  cases h with
  | work _ _ _ _ h | lose _ _ _ _ _ h | vanish _ _ _ _ h | appeal _ _ _ _ h | interrupt _ _ h
  | report _ _ _ _ _ _ _ h | launch _ _ _ _ _ h | skip _ _ _ _ _ h | collect _ _ _ _ _ h | receive _ _ _ _ _ _ h
  | heed _ _ _ _ _ _ h | close _ _ _ _ _ h | conclude _ _ _ _ h => exact h.runs
  | leave _ _ _ h | abandon _ _ h | join _ _ _ h => subst h; rfl

end Session

/-- **The stages of a run and their seats**: each has a place among the names, and no two have the same. -/
structure Manned (seats : Nat → Option Seat) (c : Charter) : Prop where
  nodup : c.stages.Nodup
  seat : ∀ id ∈ c.stages, ∃ seat, seats id = some seat ∧ seat.run = c.number ∧ seat.background = c.background ∧
    c.names[seat.index]? = some seat.name
  mine : ∀ id seat, seats id = some seat → seat.run = c.number → id ∈ c.stages
  apart : ∀ id ∈ c.stages, ∀ id' ∈ c.stages, ∀ seat seat', seats id = some seat → seats id' = some seat' →
    seat.index = seat'.index → id = id'
  capacity : c.capacity = c.names.length
  few : c.stages.length ≤ c.names.length

theorem Manned.index_lt {s : Session} {run : Run} (hm : Manned s.seats run.charter) {id : Nat} {f : Face}
    (hid : id ∈ run.stages) (hf : s.faces id = some f) : f.index < run.board.rows.length := by
  obtain ⟨seat, hseat, -, -, hname⟩ := hm.seat id hid
  rw [Session.seats_of_faces hf, Option.some.injEq] at hseat
  subst hseat
  have hlt : f.index < (run.board.rows.map Board.Row.name).length := (List.getElem?_eq_some_iff.1 hname).1
  rwa [List.length_map] at hlt

/-! ## At the start -/

theorem Wiring.length_openFrom (p : Wiring.Plan) :
    ∀ (index : Nat) (clauses : List Clause) (fs : Files), (Wiring.openFrom p index clauses fs).1.length = clauses.length
  | _, [], _ => rfl
  | index, c :: clauses, fs => by
    simp only [openFrom, List.length_cons]
    rw [length_openFrom p (index + 1) clauses]

theorem length_wire (base : String) (first : Nat) (clauses : List Clause) (fs : Files) :
    (wire base first clauses fs).1.length = clauses.length := Wiring.length_openFrom _ _ _ _

namespace Board

/-- The row of a stage that is prepared: it has its status where the stage does not run. -/
def Row.prepared (r : Row) : Except Status Session.Job → Row
  | .error status => r.record status none
  | .ok _ => r

theorem getElem?_foldl_record (l : List (Except Status Session.Job)) :
    ∀ (n : Nat) (b : Board) (j : Nat),
      ((l.zipIdx n).foldl (fun b (p, index) => match p with
        | .error status => b.record index status none
        | .ok _ => b) b).rows[j]? =
      if n ≤ j then (b.rows[j]?).map (fun r => (l[j - n]?).elim r r.prepared) else b.rows[j]? := by
  induction l with
  | nil => intro n b j; simp
  | cons p l ih =>
    intro n b j
    rw [List.zipIdx_cons, List.foldl_cons, ih]
    have hrow : ∀ i, (match p with | .error status => b.record n status none | .ok _ => b).rows[i]? =
        if i = n then (b.rows[i]?).map (fun r => r.prepared p) else b.rows[i]? := by
      intro i
      cases p with
      | error status =>
        by_cases hi : i = n
        · subst hi; simp [record, Row.prepared]
        · simp [record, Ne.symm hi, hi]
      | ok job => by_cases hi : i = n <;> simp [Row.prepared, hi]
    rw [hrow]
    by_cases hlt : n + 1 ≤ j
    · have hne : j ≠ n := by omega
      have hsub : j - n = (j - (n + 1)) + 1 := by omega
      simp [hlt, hne, hsub, Nat.le_of_succ_le hlt]
    · by_cases heq : j = n
      · subst heq; simp [hlt]
      · have : ¬ n ≤ j := by omega
        simp [hlt, heq, this]

end Board

namespace Session

def streamsOf (s : Session) (clauses : List Clause) : List (Except String Streams) :=
  (wire s.path s.pipes.size clauses s.files).1

/-- What the clauses of a run come to: jobs, or statuses where they do not run. -/
def preparedOf (s : Session) (clauses : List Clause) : List (Except Status Job) :=
  (clauses.zip (s.streamsOf clauses)).map (fun (clause, streams) => s.prepare clause streams)

def jobsOf (s : Session) (clauses : List Clause) : List (Nat × Job) :=
  (s.preparedOf clauses).zipIdx.filterMap (fun (p, index) =>
    match p with
    | .ok job => some (index, job)
    | .error _ => none)

def idsOf (s : Session) (clauses : List Clause) : List Nat :=
  (List.range (s.jobsOf clauses).length).map (· + s.stages.size)

def boardOf (s : Session) (clauses : List Clause) : Board :=
  (s.preparedOf clauses).zipIdx.foldl (fun board (p, index) =>
    match p with
    | .error status => board.record index status none
    | .ok _ => board) (Board.ofNames (clauses.map Clause.name))

def runOf (s : Session) (clauses : List Clause) : Run where
  number := s.runs
  background := clauses.any Clause.background
  board := s.boardOf clauses
  capacity := clauses.length
  armed := !clauses.any Clause.background
  stages := s.idsOf clauses
  phase := .launching (s.idsOf clauses)

def crewOf (s : Session) (clauses : List Clause) : List Stage :=
  (s.jobsOf clauses).map (fun (index, job) => job.stage s.runs index (clauses.any Clause.background))

variable {s : Session} {clauses : List Clause}

theorem current_start (h : clauses ≠ []) : (s.start clauses).current = some (s.runOf clauses) := by
  simp only [start, List.isEmpty_eq_false_iff.2 h, Bool.false_eq_true, if_false]
  rfl

theorem stages_start : (s.start clauses).stages.toList = s.stages.toList ++ s.crewOf clauses := by
  by_cases h : clauses = []
  · subst h
    exact (List.append_nil _).symm
  · simp only [start, List.isEmpty_eq_false_iff.2 h, Bool.false_eq_true, if_false, Array.toList_appendList]
    rfl

theorem runs_start (h : clauses ≠ []) : (s.start clauses).runs = s.runs + 1 := by
  simp only [start, List.isEmpty_eq_false_iff.2 h, Bool.false_eq_true, if_false]

theorem console_start (s : Session) (clauses : List Clause) : (s.start clauses).console = s.console := by
  unfold start
  dsimp only
  split <;> rfl

theorem pipes_start : (s.start clauses).pipes.toList =
    s.pipes.toList ++ (List.range (clauses.length - 1)).map (fun i =>
      pipeFor ((s.jobsOf clauses).map Prod.snd) (s.pipes.size + i)) := by
  by_cases h : clauses = []
  · subst h
    exact (List.append_nil _).symm
  · simp only [start, List.isEmpty_eq_false_iff.2 h, Bool.false_eq_true, if_false, Array.toList_appendList]
    rfl

theorem size_pipes_start : (s.start clauses).pipes.size = s.pipes.size + (clauses.length - 1) := by
  rw [← Array.length_toList, pipes_start, List.length_append, List.length_map, List.length_range, Array.length_toList]

theorem pipe_start_eq {i : Nat} (hi : i + 1 < clauses.length) :
    (s.start clauses).pipe (s.pipes.size + i) = pipeFor ((s.jobsOf clauses).map Prod.snd) (s.pipes.size + i) := by
  rw [pipe, Array.getD_eq_getD_getElem?, ← Array.getElem?_toList, pipes_start, List.getElem?_append_right (by simp),
    @Array.length_toList _ s.pipes, Nat.add_sub_cancel_left, List.getElem?_map, List.getElem?_range (by omega),
    Option.map_some, Option.getD_some]

theorem length_streamsOf (s : Session) (clauses : List Clause) : (s.streamsOf clauses).length = clauses.length :=
  length_wire _ _ _ _

theorem length_preparedOf (s : Session) (clauses : List Clause) : (s.preparedOf clauses).length = clauses.length := by
  simp [preparedOf, length_streamsOf]

theorem getElem?_preparedOf {i : Nat} {clause : Clause} {streams : Except String Streams}
    (hc : clauses[i]? = some clause) (hs : (s.streamsOf clauses)[i]? = some streams) :
    (s.preparedOf clauses)[i]? = some (s.prepare clause streams) := by
  simp [preparedOf, List.getElem?_zip_eq_some, hc, hs]

theorem mem_jobsOf {i : Nat} {job : Job} :
    (i, job) ∈ s.jobsOf clauses ↔ (s.preparedOf clauses)[i]? = some (.ok job) := by
  simp only [jobsOf, List.mem_filterMap, Prod.exists]
  constructor
  · rintro ⟨p, j, hmem, hp⟩
    rw [List.mk_mem_zipIdx_iff_getElem?] at hmem
    cases p with
    | ok job' => cases hp; exact hmem
    | error status => cases hp
  · intro h
    exact ⟨.ok job, i, List.mk_mem_zipIdx_iff_getElem?.2 h, rfl⟩

theorem sublist_jobsOf (s : Session) (clauses : List Clause) :
    ((s.jobsOf clauses).map Prod.fst).Sublist (List.range clauses.length) := by
  have hrange : List.range clauses.length = (s.preparedOf clauses).zipIdx.map Prod.snd := by
    rw [List.zipIdx_map_snd, length_preparedOf, List.range_eq_range']
  rw [hrange, jobsOf]
  generalize (s.preparedOf clauses).zipIdx = l
  induction l with
  | nil => exact .slnil
  | cons p l ih =>
    obtain ⟨p, i⟩ := p
    cases p with
    | ok job => exact ih.cons_cons i
    | error status => exact ih.cons i

theorem length_jobsOf_le (s : Session) (clauses : List Clause) : (s.jobsOf clauses).length ≤ clauses.length := by
  simpa using (sublist_jobsOf s clauses).length_le

theorem jobsOf_inj {k k' i : Nat} {job job' : Job} (hk : (s.jobsOf clauses)[k]? = some (i, job))
    (hk' : (s.jobsOf clauses)[k']? = some (i, job')) : k = k' := by
  have hnd : ((s.jobsOf clauses).map Prod.fst).Nodup := (sublist_jobsOf s clauses).nodup List.nodup_range
  have hlt : k < ((s.jobsOf clauses).map Prod.fst).length := by
    rw [List.length_map]
    exact (List.getElem?_eq_some_iff.1 hk).1
  refine (List.getElem?_inj hlt hnd).1 ?_
  rw [List.getElem?_map, List.getElem?_map, hk, hk']
  rfl

theorem mem_idsOf {id : Nat} :
    id ∈ s.idsOf clauses ↔ ∃ k, k < (s.jobsOf clauses).length ∧ id = k + s.stages.size := by
  simp only [idsOf, List.mem_map, List.mem_range]
  exact ⟨fun ⟨k, hk, h⟩ => ⟨k, hk, h.symm⟩, fun ⟨k, hk, h⟩ => ⟨k, hk, h.symm⟩⟩

theorem size_stages_start : (s.start clauses).stages.size = s.stages.size + (s.jobsOf clauses).length := by
  rw [← Array.length_toList, stages_start, List.length_append, crewOf, List.length_map, Array.length_toList]

theorem stages_start_of_lt {id : Nat} (hid : id < s.stages.size) : (s.start clauses).stages[id]? = s.stages[id]? := by
  rw [← Array.getElem?_toList, stages_start, List.getElem?_append_left (by simpa using hid), Array.getElem?_toList]

theorem stages_start_of_job {k : Nat} :
    (s.start clauses).stages[k + s.stages.size]? =
      ((s.jobsOf clauses)[k]?).map (fun (index, job) => job.stage s.runs index (clauses.any Clause.background)) := by
  rw [← Array.getElem?_toList, stages_start, List.getElem?_append_right (by simp), Array.length_toList,
    Nat.add_sub_cancel, crewOf, List.getElem?_map]

theorem stages_start_cases {id : Nat} {stage : Stage} (h : (s.start clauses).stages[id]? = some stage) :
    (id < s.stages.size ∧ s.stages[id]? = some stage) ∨
      ∃ k i job, id = k + s.stages.size ∧ (s.jobsOf clauses)[k]? = some (i, job) ∧
        stage = job.stage s.runs i (clauses.any Clause.background) := by
  by_cases hid : id < s.stages.size
  · rw [stages_start_of_lt hid] at h
    exact .inl ⟨hid, h⟩
  · obtain ⟨k, rfl⟩ : ∃ k, id = k + s.stages.size := ⟨id - s.stages.size, by omega⟩
    rw [stages_start_of_job, Option.map_eq_some_iff] at h
    obtain ⟨⟨i, job⟩, hk, rfl⟩ := h
    exact .inr ⟨k, i, job, rfl, hk, rfl⟩

theorem faces_start_of_lt {id : Nat} (hid : id < s.stages.size) : (s.start clauses).faces id = s.faces id := by
  rw [faces, stages_start_of_lt hid, faces]

theorem faces_start_of_job {k : Nat} :
    (s.start clauses).faces (k + s.stages.size) =
      ((s.jobsOf clauses)[k]?).map (fun (index, job) =>
        (job.stage s.runs index (clauses.any Clause.background)).face) := by
  rw [faces, stages_start_of_job, Option.map_map]
  rfl

theorem getElem?_boardOf (i : Nat) :
    (s.boardOf clauses).rows[i]? = (clauses[i]?).map (fun clause =>
      ((s.preparedOf clauses)[i]?).elim { name := clause.name } (Board.Row.prepared { name := clause.name })) := by
  rw [boardOf, Board.getElem?_foldl_record]
  simp [Board.ofNames, Function.comp_def]

theorem names_boardOf (s : Session) (clauses : List Clause) :
    (s.boardOf clauses).rows.map Board.Row.name = clauses.map Clause.name := by
  apply List.ext_getElem?
  intro i
  rw [List.getElem?_map, List.getElem?_map, getElem?_boardOf]
  cases clauses[i]? with
  | none => rfl
  | some clause =>
    cases (s.preparedOf clauses)[i]? with
    | none => rfl
    | some p => cases p <;> simp [Board.Row.prepared, Board.Row.name_record]

theorem length_boardOf (s : Session) (clauses : List Clause) : (s.boardOf clauses).rows.length = clauses.length := by
  rw [← List.length_map Board.Row.name, names_boardOf, List.length_map]

theorem prepare_eq_ok {clause : Clause} {streams : Except String Streams} {job : Job}
    (h : s.prepare clause streams = .ok job) :
    s.registry.isExit clause.name = false ∧ s.registry.lookup clause.name = some job.command ∧
      job.command.name = clause.name ∧ streams = .ok job.streams ∧
      job.call = ⟨s.path, clause.arguments, clause.options⟩ := by
  unfold prepare at h
  split at h
  · cases h
  next he =>
  split at h
  · cases h
  next command hl =>
  split at h <;> cases h
  refine ⟨by simpa using he, hl, ?_, rfl, rfl⟩
  simpa using List.find?_some hl

theorem prepare_eq_error_iff {clause : Clause} {streams : Except String Streams} {status : Status} :
    s.prepare clause streams = .error status ↔
      (s.registry.isExit clause.name = true ∧ status = ⟨.exitRequested, clause.name, none⟩) ∨
      (s.registry.isExit clause.name = false ∧ s.registry.lookup clause.name = none ∧
        status = ⟨.unknownCommand, clause.name, none⟩) ∨
      ∃ command text, s.registry.isExit clause.name = false ∧ s.registry.lookup clause.name = some command ∧
        streams = .error text ∧ status = ⟨.ok, clause.name, some text⟩ := by
  unfold prepare
  cases s.registry.isExit clause.name with
  | true => simp [eq_comm]
  | false =>
    cases s.registry.lookup clause.name with
    | none => simp [eq_comm]
    | some command => cases streams <;> simp [eq_comm]

theorem faces_start_cases {id : Nat} {f : Face} (hf : (s.start clauses).faces id = some f) :
    (id < s.stages.size ∧ s.faces id = some f) ∨
      ∃ k i job, id = k + s.stages.size ∧ (s.jobsOf clauses)[k]? = some (i, job) ∧
        f = (job.stage s.runs i (clauses.any Clause.background)).face := by
  obtain ⟨stage, hstage, rfl⟩ := Option.map_eq_some_iff.1 hf
  obtain ⟨hid, hs⟩ | ⟨k, i, job, rfl, hk, rfl⟩ := stages_start_cases hstage
  · exact .inl ⟨hid, faces_of_getElem? hs⟩
  · exact .inr ⟨k, i, job, rfl, hk, rfl⟩

theorem face_of_mem_idsOf {id : Nat} {f : Face} (hid : id ∈ s.idsOf clauses) (hf : (s.start clauses).faces id = some f) :
    ∃ (k i : Nat) (job : Job), (s.jobsOf clauses)[k]? = some (i, job) ∧
      f = (job.stage s.runs i (clauses.any Clause.background)).face := by
  obtain ⟨k, -, rfl⟩ := mem_idsOf.1 hid
  rw [faces_start_of_job, Option.map_eq_some_iff] at hf
  obtain ⟨⟨i, job⟩, hk, rfl⟩ := hf
  exact ⟨k, i, job, hk, rfl⟩

theorem seats_start_of_job {k i : Nat} {job : Job} (hk : (s.jobsOf clauses)[k]? = some (i, job)) :
    (s.start clauses).seats (k + s.stages.size) =
      some ⟨s.runs, i, job.command.name, clauses.any Clause.background⟩ := by
  rw [seats, faces_start_of_job, hk]
  rfl

theorem clause_of_job {k i : Nat} {job : Job} (hk : (s.jobsOf clauses)[k]? = some (i, job)) :
    ∃ clause streams, clauses[i]? = some clause ∧ (s.streamsOf clauses)[i]? = some streams ∧
      s.prepare clause streams = .ok job := by
  have hp := mem_jobsOf.1 (List.mem_of_getElem? hk)
  simp only [preparedOf, List.getElem?_map, Option.map_eq_some_iff, Prod.exists] at hp
  obtain ⟨clause, streams, hz, hp⟩ := hp
  obtain ⟨hc, hs⟩ := List.getElem?_zip_eq_some.1 hz
  exact ⟨clause, streams, hc, hs, hp⟩

/-- **Every stage belongs to a run that was started.** -/
def Dated (s : Session) : Prop := ∀ id seat, s.seats id = some seat → seat.run < s.runs

theorem dated_start (hs : s.Dated) : (s.start clauses).Dated := by
  by_cases h : clauses = []
  · subst h; exact hs
  intro id seat hseat
  rw [runs_start h]
  obtain ⟨f, hf, rfl⟩ := Option.map_eq_some_iff.1 hseat
  obtain ⟨-, hf⟩ | ⟨k, i, job, -, -, rfl⟩ := faces_start_cases hf
  · exact Nat.lt_succ_of_lt (hs id f.seat (seats_of_faces hf))
  · exact Nat.lt_succ_self s.runs

/-- **A run is manned at its start.** -/
theorem manned_start (hs : s.Dated) : Manned (s.start clauses).seats (s.runOf clauses).charter where
  nodup := by
    refine List.Nodup.map (fun a b hab => ?_) List.nodup_range
    exact Nat.add_right_cancel hab
  seat := by
    intro id hid
    obtain ⟨k, hk, rfl⟩ := mem_idsOf.1 hid
    obtain ⟨⟨i, job⟩, hj⟩ : ∃ p, (s.jobsOf clauses)[k]? = some p := ⟨_, List.getElem?_eq_getElem hk⟩
    obtain ⟨clause, streams, hc, -, hp⟩ := clause_of_job hj
    refine ⟨_, seats_start_of_job hj, rfl, rfl, ?_⟩
    show ((s.boardOf clauses).rows.map Board.Row.name)[i]? = some job.command.name
    rw [names_boardOf, List.getElem?_map, hc, (prepare_eq_ok hp).2.2.1]
    rfl
  mine := by
    intro id seat hseat hrun
    obtain ⟨f, hf, rfl⟩ := Option.map_eq_some_iff.1 hseat
    obtain ⟨-, hf⟩ | ⟨k, i, job, rfl, hk, rfl⟩ := faces_start_cases hf
    · exact absurd hrun (Nat.ne_of_lt (hs id f.seat (seats_of_faces hf)))
    · exact mem_idsOf.2 ⟨k, (List.getElem?_eq_some_iff.1 hk).1, rfl⟩
  apart := by
    intro id hid id' hid' seat seat' hseat hseat' hindex
    obtain ⟨k, hk, rfl⟩ := mem_idsOf.1 hid
    obtain ⟨k', hk', rfl⟩ := mem_idsOf.1 hid'
    obtain ⟨⟨i, job⟩, hj⟩ : ∃ p, (s.jobsOf clauses)[k]? = some p := ⟨_, List.getElem?_eq_getElem hk⟩
    obtain ⟨⟨i', job'⟩, hj'⟩ : ∃ p, (s.jobsOf clauses)[k']? = some p := ⟨_, List.getElem?_eq_getElem hk'⟩
    rw [seats_start_of_job hj, Option.some.injEq] at hseat
    rw [seats_start_of_job hj', Option.some.injEq] at hseat'
    subst hseat hseat'
    obtain rfl : i = i' := hindex
    rw [jobsOf_inj hj hj']
  capacity := by
    show clauses.length = ((s.boardOf clauses).rows.map Board.Row.name).length
    rw [names_boardOf, List.length_map]
  few := by
    show (s.idsOf clauses).length ≤ ((s.boardOf clauses).rows.map Board.Row.name).length
    rw [names_boardOf, List.length_map, idsOf, List.length_map, List.length_range]
    exact length_jobsOf_le s clauses

end Session
end LineShell
