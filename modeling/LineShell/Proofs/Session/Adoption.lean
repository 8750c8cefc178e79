import LineShell.Proofs.Session.Receipts
/-!
# Adoption — where a session is after a run

A run changes the session's path at its end at most, and then to the path of its only stage: the run was waited for, and
the report of that stage was received and said that it ended well (`Adopts`).  With builtins alone the stage was a `cd`,
since any other builtin ends up where it is called from (`path_of_run`).
-/
namespace LineShell
namespace Session

variable {s t u : Session} {clauses : List Clause} {moves before : List Move} {m : Move} {run : Run} {path : String}

/-- **The path that a run leads to**: that of its single stage, which was waited for and whose report of a good end was
received. -/
def Adopts (s : Session) (clauses : List Clause) (moves : List Move) (path : String) : Prop :=
  ∃ clause status, clauses = [clause] ∧ clause.background = false ∧ status.code = .ok ∧
    (s.start clauses).Receives moves 0 status path

/-- **A stage ran to its end**: the command of its clause was launched on streams that could be opened, and ended with a
status, at a path. -/
def Completed (s : Session) (clauses : List Clause) (moves : List Move) (i : Nat) (status : Status) (path : String) :
    Prop :=
  ∃ clause command streams id, clauses[i]? = some clause ∧ s.registry.isExit clause.name = false ∧
    s.registry.lookup clause.name = some command ∧ (s.streamsOf clauses)[i]? = some (.ok streams) ∧
    (s.start clauses).faces id = some ⟨s.runs, i, clause.name, clauses.any Clause.background, command.path,
      .ready (command.execute ⟨s.path, clause.arguments, clause.options⟩)⟩ ∧
    (s.start clauses).Passes moves (fun u => ∃ f outcome, u.faces id = some f ∧ f.phase = .running (.done outcome) ∧
      Status.Of clause.name outcome status ∧ path = f.path)

/-! ## The end of a run -/

theorem adopts_snoc_of_not (hu : (s.start clauses).play before = some u)
    (hnot : ∀ i status path, ¬ (m = .drive ∧ u.Takes i status path)) :
    s.Adopts clauses (before ++ [m]) path ↔ s.Adopts clauses before path := by
  simp only [Adopts, receives_snoc hu, or_iff_left (hnot _ _ _)]

theorem pathUpdate_iff_adopts (hs : s.Dated) (hne : clauses ≠ []) (hu : (s.start clauses).play before = some u)
    (hr : u.current = some run) :
    run.board.pathUpdate run.background = some path ↔ s.Adopts clauses before path := by
  obtain ⟨-, hcharter, hman, -⟩ := underway hs hne hu hr
  have hreceipts := receipts_of_play hs hne hu hr
  have hback : run.background = clauses.any Clause.background := congrArg Charter.background hcharter
  have hlen : run.board.rows.length = clauses.length :=
    (Run.length_rows hman).trans (congrArg Charter.capacity hcharter)
  rw [Board.pathUpdate_eq_some_iff, hback, hlen]
  constructor
  · rintro ⟨hfront, hlone, status, hrec, hok⟩
    obtain ⟨clause, rfl⟩ := List.length_eq_one_iff.1 hlone
    exact ⟨clause, status, rfl, by simpa using hfront, hok, (hreceipts.filed 0 status path).1 hrec⟩
  · rintro ⟨clause, status, rfl, hfront, hok, hrec⟩
    exact ⟨by simpa using hfront, rfl, status, (hreceipts.filed 0 status path).2 hrec, hok⟩

theorem Step.path_eq (h : Step s t m) (ht : t.current ≠ none) : t.path = s.path := by
  cases h with
  | work _ _ _ _ h | lose _ _ _ _ _ h | vanish _ _ _ _ h | appeal _ _ _ _ h | interrupt _ _ h
  | report _ _ _ _ _ _ _ h | launch _ _ _ _ _ h | skip _ _ _ _ _ h | collect _ _ _ _ _ h | receive _ _ _ _ _ _ h
  | heed _ _ _ _ _ _ h | close _ _ _ _ _ h | conclude _ _ _ _ h => exact h.path
  | leave _ _ _ h | abandon _ _ h | join _ _ _ h =>
    subst h
    exact absurd rfl ht

/-- **The path that the end of a run leaves** is the one on its board, or the path before. -/
theorem Step.path_of_ends (h : Step s t m) (hs : s.current = some run) (ht : t.current = none)
    (htidy : run.board.Tidy) : t.path = (run.board.pathUpdate run.background).getD s.path := by
  obtain ⟨-, ⟨-, -, rfl⟩ | ⟨-, rfl⟩ | ⟨-, -, rfl⟩⟩ := h.ends hs ht
  · rfl
  · show ((run.board.conclude silence).pathUpdate run.background).getD s.path = _
    rw [Board.pathUpdate_conclude htidy]
  · rfl

theorem Step.not_takes_of_ends (h : Step s t m) (hs : s.current = some run) (ht : t.current = none) (i : Nat)
    (status : Status) (path : String) : ¬ s.Takes i status path := by
  intro htakes
  have hp := ((takes_iff hs).1 htakes).1
  obtain ⟨-, ⟨hp', -⟩ | ⟨hp', -⟩ | ⟨hp', -⟩⟩ := h.ends hs ht <;> rw [hp] at hp' <;> cases hp'

/-- **The path of a session** stays as it is while a run is under way, and after it is the one that the run leads to, or
the same as before. -/
theorem path_of_play (hs : s.Dated) (hne : clauses ≠ []) (h : (s.start clauses).play moves = some t) :
    (t.current ≠ none → t.path = s.path) ∧
      (t.current = none → (∀ path, s.Adopts clauses moves path → t.path = path) ∧
        ((∀ path, ¬ s.Adopts clauses moves path) → t.path = s.path)) := by
  have hstart : (s.start clauses).path = s.path := by
    simp only [start, List.isEmpty_eq_false_iff.2 hne, Bool.false_eq_true, if_false]
  refine play_induction (P := fun moves t => (t.current ≠ none → t.path = s.path) ∧
    (t.current = none → (∀ path, s.Adopts clauses moves path → t.path = path) ∧
      ((∀ path, ¬ s.Adopts clauses moves path) → t.path = s.path))) ?_ ?_ h
  · exact ⟨fun _ => hstart, fun hover => by rw [current_start hne] at hover; cases hover⟩
  intro before u m t hu ih hm
  have hstep := step_of_step? hm
  cases hr : u.current with
  | none =>
    have hpath := (hstep.kept_of_none hr).path
    refine ⟨fun hunder => absurd (hstep.current_eq_none hr) hunder, fun _ => ?_⟩
    obtain ⟨hadopts, hsame⟩ := ih.2 hr
    have hsnoc : ∀ path, s.Adopts clauses (before ++ [m]) path ↔ s.Adopts clauses before path :=
      fun path => adopts_snoc_of_not hu fun _ _ _ hd => not_takes_of_none hr hd.2
    simp only [hpath, hsnoc]
    exact ⟨hadopts, hsame⟩
  | some run =>
    have hu' : u.path = s.path := ih.1 (by rw [hr]; exact Option.some_ne_none run)
    refine ⟨fun hunder => (hstep.path_eq hunder).trans hu', fun hover => ?_⟩
    have hends := hstep.path_of_ends hr hover (receipts_of_play hs hne hu hr).tidy
    have hsnoc : ∀ path, s.Adopts clauses (before ++ [m]) path ↔ run.board.pathUpdate run.background = some path := by
      intro path
      rw [adopts_snoc_of_not hu fun i st p hd => hstep.not_takes_of_ends hr hover i st p hd.2]
      exact (pathUpdate_iff_adopts hs hne hu hr).symm
    rw [hends, hu']
    refine ⟨fun path hadopts => ?_, fun hnone => ?_⟩
    · rw [(hsnoc path).1 hadopts, Option.getD_some]
    · have hupdate : run.board.pathUpdate run.background = none :=
        Option.eq_none_iff_forall_ne_some.2 fun path hp => hnone path ((hsnoc path).2 hp)
      rw [hupdate, Option.getD_none]

theorem idle_of_play (hs : s.current = none) (h : s.play moves = some t) : t.current = none ∧ t.path = s.path := by
  refine play_keeps (P := fun t => t.current = none ∧ t.path = s.path) ?_ ⟨hs, rfl⟩ h
  rintro u m v ⟨hu, hpath⟩ hm
  have hstep := step_of_step? hm
  exact ⟨hstep.current_eq_none hu, (hstep.kept_of_none hu).path.trans hpath⟩

theorem not_receives_of_idle (hs : s.current = none) {i : Nat} {status : Status} :
    ¬ s.Receives moves i status path := by
  rintro ⟨before, after, u, -, hu, htakes⟩
  exact not_takes_of_none (idle_of_play hs hu).1 htakes

/-! ## The stage of a report -/

theorem job_of_seat (hs : s.Dated) {id : Nat} {seat : Seat}
    (hseat : (s.start clauses).seats id = some seat) (hrun : seat.run = s.runs) :
    ∃ clause command streams, clauses[seat.index]? = some clause ∧ s.registry.isExit clause.name = false ∧
      s.registry.lookup clause.name = some command ∧ (s.streamsOf clauses)[seat.index]? = some (.ok streams) ∧
      seat.name = clause.name ∧
      (s.start clauses).faces id = some ⟨s.runs, seat.index, clause.name, clauses.any Clause.background, command.path,
        .ready (command.execute ⟨s.path, clause.arguments, clause.options⟩)⟩ := by
  obtain ⟨f, hf, rfl⟩ := Option.map_eq_some_iff.1 hseat
  obtain ⟨-, hf'⟩ | ⟨k, i, job, rfl, hk, rfl⟩ := faces_start_cases hf
  · exact absurd hrun (Nat.ne_of_lt (hs id f.seat (seats_of_faces hf')))
  · obtain ⟨clause, streams, hc, hstreams, hp⟩ := clause_of_job hk
    obtain ⟨he, hl, hname, rfl, hcall⟩ := prepare_eq_ok hp
    refine ⟨clause, job.command, job.streams, hc, he, hl, hstreams, hname, ?_⟩
    rw [hf]
    simp only [Job.stage, Stage.face, Face.seat, hname, hcall]

/-- **A report that is received** was made by a stage that ran its command to the end. -/
theorem completed_of_receives (hs : s.Dated) (hne : clauses ≠ []) {i : Nat} {status : Status}
    (hrec : (s.start clauses).Receives moves i status path) :
    s.Completed clauses moves i status path := by
  obtain ⟨front, back, v, hmoves, hv, htakes⟩ := hrec
  obtain ⟨run, channel, hr, -, -, hch⟩ := id htakes
  obtain ⟨-, hcharter, -, -⟩ := underway hs hne hv hr
  have hnumber : run.number = s.runs := congrArg Charter.number hcharter
  have hsent : .finished i status path ∈ run.channel := by rw [hch]; exact List.mem_cons_self
  obtain ⟨early, late, u, hfront, hu, id, f, outcome, hf, hrun, rfl, hp, hst, hpath⟩ :=
    (receipts_of_play hs hne hv hr).sent i status path hsent
  have hseat : (s.start clauses).seats id = some f.seat := seats_of_play hu ▸ seats_of_faces hf
  obtain ⟨clause, command, streams, hc, he, hl, hstreams, hname, hface⟩ :=
    job_of_seat hs hseat (hrun.trans hnumber)
  have hname : f.name = clause.name := hname
  refine ⟨clause, command, streams, id, hc, he, hl, hstreams, hface, early, late ++ .drive :: back, u, ?_, hu, ?_⟩
  · rw [hmoves, hfront, List.append_assoc]
  · exact ⟨f, outcome, hf, hp, hname ▸ hst, hpath⟩

theorem path_of_completed {i : Nat} {status : Status} {clause : Clause} {b : Builtin} (hb : b ∈ Builtin.all)
    (hc : clauses[i]? = some clause) (hl : s.registry.lookup clause.name = some b.command) (hcd : clause.name ≠ "cd")
    (h : s.Completed clauses moves i status path) : path = s.path := by
  obtain ⟨clause', command, streams, id, hc', -, hl', -, hface, before, after, u, -, hu, f, outcome, hf, hp, -, rfl⟩ := h
  obtain rfl : clause = clause' := Option.some.inj (hc.symm.trans hc')
  obtain rfl : b.command = command := Option.some.inj (hl.symm.trans hl')
  have hname : b.command.name = clause.name := by simpa using List.find?_some hl
  have hname : b.name = clause.name := hname
  have hlands : f.Lands s.path := by
    refine lands_of_play (fun g hg => ?_) hu f hf
    rw [hface, Option.some.injEq] at hg
    subst hg
    exact Builtin.lands_execute hb (hname ▸ hcd) _ _
  unfold Face.Lands at hlands
  rw [hp] at hlands
  exact hlands

/-- **Where a session is after a run.**  However its stages are scheduled and interrupted, the path stays as it is while
the run is under way; afterwards it is the path of the only stage, if the run was waited for and that stage was received
to have ended well, and the same as before if not.  A report is received only from a stage that ran its command to the
end, with the path it had then.  Where all commands are builtins, a path that differs is due to a `cd`. -/
theorem path_of_run (hs : s.Lived) (hidle : s.current = none) (h : (s.start clauses).play moves = some t) :
    (t.current ≠ none → t.path = s.path) ∧
    (t.current = none → (∀ path, s.Adopts clauses moves path → t.path = path) ∧
      ((∀ path, ¬ s.Adopts clauses moves path) → t.path = s.path)) ∧
    (∀ i status path, (s.start clauses).Receives moves i status path → s.Completed clauses moves i status path) ∧
    ((∀ command ∈ s.registry.commands, ∃ b ∈ Builtin.all, command = b.command) → t.path ≠ s.path →
      ∃ clause, clauses = [clause] ∧ clause.name = "cd" ∧ clause.background = false) := by
  by_cases hne : clauses = []
  · subst hne
    have hstart : (s.start []).current = none := hidle
    obtain ⟨hnone, hpath⟩ := idle_of_play hstart h
    have hpath : t.path = s.path := hpath
    refine ⟨fun _ => hpath, fun _ => ⟨fun path hadopts => ?_, fun _ => hpath⟩, fun _ _ _ hrec => ?_, fun _ hd => ?_⟩
    · obtain ⟨clause, -, hc, -⟩ := hadopts
      cases hc
    · exact absurd hrec (not_receives_of_idle hstart)
    · exact absurd hpath hd
  obtain ⟨hunder, hover⟩ := path_of_play hs.dated hne h
  have hcompleted : ∀ i status path, (s.start clauses).Receives moves i status path →
      s.Completed clauses moves i status path := fun i status path => completed_of_receives hs.dated hne
  refine ⟨hunder, hover, hcompleted, fun hbuiltins hdiffers => ?_⟩
  have hnone : t.current = none := by
    by_contra hne'
    exact hdiffers (hunder hne')
  obtain ⟨path, hadopts⟩ : ∃ path, s.Adopts clauses moves path := by
    by_contra hnot
    exact hdiffers ((hover hnone).2 fun path hp => hnot ⟨path, hp⟩)
  obtain ⟨clause, status, rfl, hfront, hok, hrec⟩ := id hadopts
  refine ⟨clause, rfl, ?_, hfront⟩
  by_contra hcd
  have hdone := hcompleted 0 status path hrec
  obtain ⟨clause', command, streams, id, hc', he, hl, hrest⟩ := id hdone
  obtain rfl : clause = clause' := Option.some.inj hc'
  obtain ⟨b, hb, rfl⟩ := hbuiltins command (List.mem_of_find?_eq_some hl)
  exact hdiffers (((hover hnone).1 path hadopts).trans (path_of_completed hb hc' hl hcd hdone))

/-- A session at `/home` that knows the builtins. -/
def home : Session where
  path := "/home"
  registry := (Registry.install {}).2
  files := .blank

/-- A lone `cd` without a target, played to its end, leads to the root. -/
theorem path_of_run_cd : ∃ t,
    (home.start [{ name := "cd" }]).play
      ([.drive, .drive] ++ List.replicate 5 (.advance 0 0) ++ List.replicate 4 .drive) = some t ∧
    t.current = none ∧ t.path = "/" ∧
    (∃ path, home.Adopts [{ name := "cd" }]
      ([.drive, .drive] ++ List.replicate 5 (.advance 0 0) ++ List.replicate 4 .drive) path ∧ path = "/") ∧
    (∀ command ∈ home.registry.commands, ∃ b ∈ Builtin.all, command = b.command) ∧
    ∃ clause : Clause, [{ name := "cd" }] = [clause] ∧ clause.name = "cd" ∧ clause.background = false := by
  obtain ⟨t, ht, hnone, hpath⟩ : ∃ t, (home.start [{ name := "cd" }]).play
      ([.drive, .drive] ++ List.replicate 5 (.advance 0 0) ++ List.replicate 4 .drive) = some t ∧ t.current = none ∧
      t.path = "/" := ⟨_, rfl, rfl, rfl⟩
  have hhome : home.Lived := Opened.lived ⟨rfl, rfl, rfl, rfl⟩
  have hbuiltins : ∀ command ∈ home.registry.commands, ∃ b ∈ Builtin.all, command = b.command := by
    have hcommands : home.registry.commands = Builtin.all.map Builtin.command := rfl
    intro command hmem
    rw [hcommands, List.mem_map] at hmem
    obtain ⟨b, hb, rfl⟩ := hmem
    exact ⟨b, hb, rfl⟩
  have hmoved : t.path ≠ "/home" := by rw [hpath]; decide
  obtain ⟨-, hover, -, hcd⟩ := path_of_run hhome rfl ht
  obtain ⟨hadopts, hsame⟩ := hover hnone
  refine ⟨t, ht, hnone, hpath, ?_, hbuiltins, hcd hbuiltins hmoved⟩
  by_contra hnot
  refine hmoved (hsame fun path hp => hnot ⟨path, hp, ?_⟩)
  rw [← hadopts path hp, hpath]

end Session
end LineShell
