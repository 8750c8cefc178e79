import LineShell.Proofs.Wiring.Closed
import LineShell.Proofs.Wiring.Mending
/-!
# Failures — what a stage that does not run leaves to the others

A stage that does not run leaves its place in the pipeline vacant: the ends of pipes that it would have held are closed
before any stage is launched, so whoever reads behind it comes to the end of the input at once, and whoever writes to it
finds nobody (`Vacant`).  `failures_of_run` puts together what that means for one run: who does not run and why, what the
neighbours see in every order of moves, what is left of the files, and that the stages that run are not touched.
-/
namespace LineShell
namespace Session

variable {s t : Session} {clauses : List Clause} {clause : Clause} {moves : List Move} {j : Nat} {status : Status}

/-- **The neighbours of a place at which no stage runs.** -/
structure Vacant (s : Session) (clauses : List Clause) (j : Nat) (t : Session) : Prop where
  /-- The stage behind it, if it reads its pipe, is at the end of its input. -/
  successor : ∀ (id : Nat) (stage : Stage) (clause : Clause), t.stages[id]? = some stage → stage.run = s.runs →
    stage.index = j + 1 → clauses[stage.index]? = some clause → clause.input = "" →
    ∀ most limit, t.answer? id stage most (.read limit) = some (.ok [], t)
  /-- The stage before it, if it writes to its pipe, writes to nobody. -/
  predecessor : ∀ (id : Nat) (stage : Stage) (clause : Clause), t.stages[id]? = some stage → stage.run = s.runs →
    stage.index + 1 = j → clauses[stage.index]? = some clause → clause.output = "" →
    ∀ most data, data ≠ [] → t.answer? id stage most (.write data) = some (.error (.system .brokenPipe), t)

theorem input_of_play (hs : s.Lived) (h : (s.start clauses).play moves = some t) {id k : Nat} {stage : Stage}
    (hstage : t.stages[id]? = some stage) (hrun : stage.run = s.runs) (hindex : stage.index = k + 1)
    (hc : clauses[stage.index]? = some clause) (hin : clause.input = "") :
    stage.streams.input = .pipe (s.pipes.size + k) := by
  obtain ⟨-, ⟨input, output⟩, hstreams, hplace⟩ := (wired_of_play hs.dated hs.plumbed h).streams id stage hstage hrun
  obtain ⟨clause', hc', hreads, -⟩ := streamsOf_eq_ok.1 hstreams
  obtain rfl : clause' = clause := Option.some.inj (hc'.symm.trans hc)
  have hinput : input = .pipe (s.pipes.size + k) := by
    rw [hindex] at hreads
    exact hreads.unique (.pipe hin (Nat.succ_pos k))
  have hsame : stage.streams.input.place = input.place := congrArg Streams.input hplace
  rw [hinput] at hsame
  exact Input.place_eq_pipe_iff.1 hsame

theorem output_of_play (hs : s.Lived) (h : (s.start clauses).play moves = some t) {id : Nat} {stage : Stage}
    (hstage : t.stages[id]? = some stage) (hrun : stage.run = s.runs) (hlt : stage.index + 1 < clauses.length)
    (hc : clauses[stage.index]? = some clause) (hout : clause.output = "") :
    stage.streams.output = .pipe (s.pipes.size + stage.index) := by
  obtain ⟨-, ⟨input, output⟩, hstreams, hplace⟩ := (wired_of_play hs.dated hs.plumbed h).streams id stage hstage hrun
  obtain ⟨clause', hc', -, hwrites⟩ := streamsOf_eq_ok.1 hstreams
  obtain rfl : clause' = clause := Option.some.inj (hc'.symm.trans hc)
  have houtput : output = .pipe (s.pipes.size + stage.index) := hwrites.unique (.pipe hout hlt)
  have hsame : stage.streams.output.place = output.place := congrArg Streams.output hplace
  rw [houtput] at hsame
  exact Output.place_eq_pipe_iff.1 hsame

/-- **A clause that is refused leaves its place vacant**, in every order of moves. -/
theorem vacant_of_play (hs : s.Lived) (h : s.Refused clauses j status) (hplay : (s.start clauses).play moves = some t) :
    Vacant s clauses j t where
  successor := by
    intro id stage clause hstage hrun hindex hc hin most limit
    have hlt : j + 1 < clauses.length := hindex ▸ (List.getElem?_eq_some_iff.1 hc).1
    have hclosed : PipeEnd.writing.isOpen ((s.start clauses).pipe (s.pipes.size + j)) = false :=
      isOpen_start_of_refused (e := .writing) h hlt
    have hempty : ((s.start clauses).pipe (s.pipes.size + j)).held = [] := by
      rw [pipe_start_eq hlt]
      rfl
    have hnobody := not_owns_of_refused (e := .writing) hs.plumbed h
    exact answer?_read_dry (input_of_play hs hplay hstage hrun hindex hc hin) (held_of_play hplay hempty hnobody)
      (isOpen_of_play hplay hclosed) id most limit
  predecessor := by
    intro id stage clause hstage hrun hindex hc hout most data _
    subst hindex
    have hlt : stage.index + 1 < clauses.length := by
      rw [← length_preparedOf s clauses]
      exact (List.getElem?_eq_some_iff.1 h).1
    have hclosed : PipeEnd.reading.isOpen ((s.start clauses).pipe (s.pipes.size + stage.index)) = false :=
      isOpen_start_of_refused (e := .reading) h hlt
    exact answer?_write_closed (output_of_play hs hplay hstage hrun hlt hc hout) (isOpen_of_play hplay hclosed) id most
      data

theorem mends_set_output (hc : clauses[j]? = some clause) {text : String}
    (h : (s.streamsOf clauses)[j]? = some (.error text)) :
    s.Mends clauses s.registry (clauses.set j { clause with output := "" }) where
  length := List.length_set
  background := by
    have hflags : (clauses.map Clause.background)[j]? = some clause.background := by rw [List.getElem?_map, hc]; rfl
    obtain ⟨hj, hflag⟩ := List.getElem?_eq_some_iff.1 hflags
    have hmap : (clauses.set j { clause with output := "" }).map Clause.background = clauses.map Clause.background := by
      rw [List.map_set]
      show (clauses.map Clause.background).set j clause.background = clauses.map Clause.background
      rw [← hflag, List.set_getElem_self]
    have hany : ∀ l : List Clause, l.any Clause.background = (l.map Clause.background).any id := fun l => by
      rw [List.any_map]
      rfl
    rw [hany, hany, hmap]
  redirects := by
    intro i c c' hc₁ hc₁'
    by_cases hi : i = j
    · subst hi
      rw [List.getElem?_set_self (List.getElem?_eq_some_iff.1 hc).1, Option.some.injEq] at hc₁'
      exact .inr ⟨hc₁' ▸ rfl, text, h⟩
    · rw [List.getElem?_set_ne (Ne.symm hi), hc₁, Option.some.injEq] at hc₁'
      subst hc₁'
      exact .inl ⟨rfl, rfl⟩
  stands := by
    intro i job c hjob hc₁
    obtain ⟨clause', streams, hc', hs, hp⟩ := mem_jobsOf_iff.1 hjob
    obtain rfl : clause' = c := Option.some.inj (hc'.symm.trans hc₁)
    have hi : i ≠ j := by
      rintro rfl
      obtain ⟨-, -, -, rfl, -⟩ := prepare_eq_ok hp
      rw [hs] at h
      cases h
    exact ⟨by rw [List.getElem?_set_ne (Ne.symm hi), hc₁], (prepare_eq_ok hp).1, rfl⟩

/-- **What a stage that does not run leaves to the others.**  Exit keywords come first, then unknown names, then files
that cannot be opened.  At the start of a run no stage is launched and the pipe ends of a stage that does not run are
closed; in every order of moves its place stays vacant, and its status is what it was.  A stage whose input cannot be
opened leaves the files as they are, as if it named no output.  The other stages do the same jobs in every run that is
mended, and there is one in which all run; where other files are found, they do so but for the files their clauses
name. -/
theorem failures_of_run (hs : s.Lived) :
    (∀ j clause status, clauses[j]? = some clause →
      (s.Refused clauses j status ↔ s.Refusal clauses j clause status)) ∧
    (∀ (id : Nat) (stage : Stage), (s.start clauses).stages[id]? = some stage → stage.run = s.runs →
      ∃ i job, (i, job) ∈ s.jobsOf clauses ∧ stage = job.stage s.runs i (clauses.any Clause.background) ∧
        stage.phase = .ready (job.command.execute job.call)) ∧
    (∀ j status, s.Refused clauses j status →
      (∀ (e : PipeEnd) (k : Nat), e.stageOf k = j → k + 1 < clauses.length →
        e.isOpen ((s.start clauses).pipe (s.pipes.size + k)) = false) ∧
      ∀ moves t, (s.start clauses).play moves = some t →
        Vacant s clauses j t ∧ (t.current = none → t.statuses[j]? = some status)) ∧
    (∀ j clause f, clauses[j]? = some clause → clause.input ≠ "" →
      ((s.planFor clauses).filesBefore clauses s.files j).openRead ((s.planFor clauses).path clause.input) = .error f →
      (s.planFor clauses).filesBefore clauses s.files (j + 1) = (s.planFor clauses).filesBefore clauses s.files j ∧
      (s.start clauses).files = (s.start (clauses.set j { clause with output := "" })).files) ∧
    (∀ registry clauses', s.Mends clauses registry clauses' → ∀ i job, (i, job) ∈ s.jobsOf clauses →
      (i, job) ∈ ({ s with registry } : Session).jobsOf clauses') ∧
    (∃ registry clauses', s.Mends clauses registry clauses' ∧
      ∀ i < clauses.length, ∃ job, (i, job) ∈ ({ s with registry } : Session).jobsOf clauses') ∧
    ∀ (s' : Session) (clauses' : List Clause) (i : Nat) (clause : Clause) (job job' : Job),
      s'.planFor clauses' = s.planFor clauses → clauses[i]? = some clause → clauses'[i]? = some clause →
      s'.registry.lookup clause.name = s.registry.lookup clause.name → (i, job) ∈ s.jobsOf clauses →
      (i, job') ∈ s'.jobsOf clauses' →
      Job.Alike (s.planFor clauses) i clause ((s.planFor clauses).filesBefore clauses s.files i)
        ((s.planFor clauses).filesBefore clauses' s'.files i) job job' := by
  refine ⟨fun j clause status hc => refused_iff hc, fun id stage hstage hrun => ?_, fun j status h => ⟨?_, ?_⟩,
    fun j clause f hc hne hf => ?_, fun registry clauses' h i job hjob => h.mem_jobsOf hjob, exists_mends s clauses,
    fun s' clauses' i clause job job' hplan hc hc' hlookup hjob hjob' => alike_of_jobs hplan hc hc' hlookup hjob hjob'⟩
  · obtain ⟨hid, hstage⟩ | ⟨k, i, job, rfl, hk, rfl⟩ := stages_start_cases hstage
    · exact absurd hrun (Nat.ne_of_lt (hs.dated id _ (seats_of_faces (faces_of_getElem? hstage))))
    · exact ⟨i, job, List.mem_of_getElem? hk, rfl, rfl⟩
  · rintro e k rfl hk
    exact isOpen_start_of_refused h hk
  · intro moves t hplay
    exact ⟨vacant_of_play hs h hplay, status_of_refused hs.dated h hplay⟩
  · have hbars : (s.planFor clauses).Bars j clause ((s.planFor clauses).filesBefore clauses s.files j)
        (Wiring.inputFault (s.planFor clauses) clause.input f) := .input hne hf
    refine ⟨?_, ?_⟩
    · rw [Wiring.filesBefore_succ hc, Wiring.openStreams_snd_of_error (Wiring.openStreams_eq_error_iff.2 hbars)]
    · exact (mends_set_output hc ((streamsOf_eq_error_iff hc).2 hbars)).files_eq.symm

/-- A `cat` between two other stages whose input is not there: nobody reads the first pipe, nobody writes to the second,
and no file is made for its output. -/
theorem failures_of_run_missing :
    let clauses : List Clause :=
      [{ name := "echo", arguments := ["x"] }, { name := "cat", input := "missing", output := "out" }, { name := "wc" }]
    let status : Status := ⟨.ok, "cat", some "File for reading the input with name missing does not exist"⟩
    (typedAtRoot.start clauses).pipe 0 = ⟨[], false, true⟩ ∧ (typedAtRoot.start clauses).pipe 1 = ⟨[], true, false⟩ ∧
      (typedAtRoot.start clauses).files = typedAtRoot.files ∧
      ∀ moves t, (typedAtRoot.start clauses).play moves = some t →
        Vacant typedAtRoot clauses 1 t ∧ (t.current = none → t.statuses[1]? = some status) := by
  intro clauses status
  have hlived : typedAtRoot.Lived := Opened.lived ⟨rfl, rfl, rfl, rfl⟩
  obtain ⟨-, -, hvacant, hfiles, -⟩ := @failures_of_run typedAtRoot clauses hlived
  have hstreams : (typedAtRoot.streamsOf clauses)[1]? =
      some (.error "File for reading the input with name missing does not exist") := by
    decide +kernel
  have hexit : typedAtRoot.registry.isExit "cat" = false := by decide +kernel
  obtain ⟨command, hlookup⟩ : ∃ command, typedAtRoot.registry.lookup "cat" = some command :=
    Option.isSome_iff_exists.1 (by decide +kernel)
  have hrefused : typedAtRoot.Refused clauses 1 status := by
    rw [Refused, getElem?_preparedOf rfl hstreams,
      prepare_eq_error_iff.2 (.inr (.inr ⟨command, _, hexit, hlookup, rfl, rfl⟩))]
  have hmissing : ((typedAtRoot.planFor clauses).filesBefore clauses typedAtRoot.files 1).openRead
      ((typedAtRoot.planFor clauses).path "missing") = .error (.system .notFound) := by
    decide +kernel
  refine ⟨by decide +kernel, by decide +kernel, ?_, (hvacant 1 status hrefused).2⟩
  rw [(hfiles 1 _ _ rfl (by decide) hmissing).2]
  decide +kernel

end Session
end LineShell
