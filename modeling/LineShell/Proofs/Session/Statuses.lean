import LineShell.Proofs.Session.Vouching
import LineShell.Session.Schedule
/-!
# Statuses — one status a clause

Whatever the order of moves, a run that is over has given one status a clause, in the order of the clauses, and each has
its reason (`Account`).  A run gets there: it is driven on only so often, and where it cannot be driven on, it waits for
a command that is at work or a report that can be given.  The order in which runs are scheduled is one of these
(`interpret_play`).
-/
namespace LineShell
namespace Session

variable {s t : Session} {clauses : List Clause} {moves : List Move}

def Came (id : Nat) (outcome : Outcome) (u : Session) : Prop :=
  ∃ f, u.faces id = some f ∧ f.phase = .running (.done outcome)

/-- **The reason of a status**, for the clause at a place of a run. -/
inductive Account (s : Session) (clauses : List Clause) (moves : List Move) (i : Nat) (clause : Clause)
    (streams : Except String Streams) : Status → Prop
  | exit : s.registry.isExit clause.name = true →
      Account s clauses moves i clause streams ⟨.exitRequested, clause.name, none⟩
  | unknown :
      s.registry.isExit clause.name = false → s.registry.lookup clause.name = none →
      Account s clauses moves i clause streams ⟨.unknownCommand, clause.name, none⟩
  | unopened {command : Command} {e : String} :
      s.registry.isExit clause.name = false → s.registry.lookup clause.name = some command → streams = .error e →
      Account s clauses moves i clause streams ⟨.ok, clause.name, some e⟩
  /-- In the background a stage that is launched counts as ended well. -/
  | left {command : Command} {opened : Streams} :
      s.registry.isExit clause.name = false → s.registry.lookup clause.name = some command → streams = .ok opened →
      clauses.any Clause.background = true → Account s clauses moves i clause streams ⟨.ok, clause.name, none⟩
  /-- The stage of the clause ran its command to the end. -/
  | ran {command : Command} {opened : Streams} {id : Nat} {outcome : Outcome} {status : Status} :
      s.registry.isExit clause.name = false → s.registry.lookup clause.name = some command → streams = .ok opened →
      clauses.any Clause.background = false →
      (s.start clauses).faces id = some ⟨s.runs, i, clause.name, false, command.path,
        .ready (command.execute ⟨s.path, clause.arguments, clause.options⟩)⟩ →
      (s.start clauses).Passes moves (Came id outcome) → Status.Of clause.name outcome status →
      Account s clauses moves i clause streams status
  | cut {command : Command} {opened : Streams} :
      s.registry.isExit clause.name = false → s.registry.lookup clause.name = some command → streams = .ok opened →
      clauses.any Clause.background = false → (s.start clauses).Delivers moves →
      Account s clauses moves i clause streams ⟨.interrupted, clause.name, none⟩

namespace Account

variable {i : Nat} {clause : Clause} {streams : Except String Streams} {status : Status}

theorem command_eq (h : Account s clauses moves i clause streams status) : status.command = clause.name := by
  cases h with
  | ran _ _ _ _ _ _ hstatus => exact hstatus.command_eq
  | exit | unknown | unopened | left | cut => rfl

theorem exitRequested_iff (h : Account s clauses moves i clause streams status) :
    status.code = .exitRequested ↔ s.registry.isExit clause.name = true := by
  cases h with
  | exit he => simp [he]
  | ran he _ _ _ _ _ hstatus => rcases hstatus.code_cases with hc | hc <;> simp [hc, he]
  | unknown he | unopened he | left he | cut he => simp [he]

theorem unknownCommand_iff (h : Account s clauses moves i clause streams status) :
    status.code = .unknownCommand ↔
      s.registry.isExit clause.name = false ∧ s.registry.lookup clause.name = none := by
  cases h with
  | exit he => simp [he]
  | unknown he hl => simp [he, hl]
  | ran _ hl _ _ _ _ hstatus => rcases hstatus.code_cases with hc | hc <;> simp [hc, hl]
  | unopened _ hl | left _ hl | cut _ hl => simp [hl]

end Account

/-! ## Reasons -/

theorem account_of_refused {i : Nat} {clause : Clause} {streams : Except String Streams} {status : Status}
    (h : s.prepare clause streams = .error status) : Account s clauses moves i clause streams status := by
  obtain ⟨hexit, rfl⟩ | ⟨hexit, hlookup, rfl⟩ | ⟨command, text, hexit, hlookup, hstreams, rfl⟩ := prepare_eq_error_iff.1 h
  · exact .exit hexit
  · exact .unknown hexit hlookup
  · exact .unopened hexit hlookup hstreams

theorem account_of_origin {i : Nat} {clause : Clause} {streams : Except String Streams}
    {status : Status} (hc : clauses[i]? = some clause) (hs : (s.streamsOf clauses)[i]? = some streams)
    (h : Origin (s.Refused clauses)
      (fun id st => (s.start clauses).Passes moves (fun u => ∃ f outcome, u.faces id = some f ∧
        f.phase = .running (.done outcome) ∧ st = Status.ofOutcome f.name outcome))
      ((s.start clauses).Delivers moves) (s.start clauses).seats (s.runOf clauses).charter i status) :
    Account s clauses moves i clause streams status := by
  have job : ∀ id ∈ s.idsOf clauses, ∀ seat, (s.start clauses).seats id = some seat → seat.index = i →
      ∃ j : Job, s.prepare clause streams = .ok j ∧ seat.name = clause.name ∧
        (s.start clauses).faces id = some (j.stage s.runs i (clauses.any Clause.background)).face := by
    intro id hid seat hseat hindex
    obtain ⟨k, hk, rfl⟩ := mem_idsOf.1 hid
    obtain ⟨⟨i', j⟩, hj⟩ : ∃ p, (s.jobsOf clauses)[k]? = some p := ⟨_, List.getElem?_eq_getElem hk⟩
    rw [seats_start_of_job hj, Option.some.injEq] at hseat
    subst hseat
    obtain rfl : i' = i := hindex
    have hprep := mem_jobsOf.1 (List.mem_of_getElem? hj)
    rw [getElem?_preparedOf hc hs, Option.some.injEq] at hprep
    exact ⟨j, hprep, (prepare_eq_ok hprep).2.2.1, by rw [faces_start_of_job, hj]; rfl⟩
  cases h with
  | fixed hfixed =>
    rw [Refused, getElem?_preparedOf hc hs, Option.some.injEq] at hfixed
    exact account_of_refused hfixed
  | left hb hid hseat hindex =>
    obtain ⟨j, hj, hname, -⟩ := job _ hid _ hseat hindex
    obtain ⟨he, hl, -, hstreams, -⟩ := prepare_eq_ok hj
    rw [hname]
    exact .left he hl hstreams hb
  | cut hb hid hseat hindex hI =>
    obtain ⟨j, hj, hname, -⟩ := job _ hid _ hseat hindex
    obtain ⟨he, hl, -, hstreams, -⟩ := prepare_eq_ok hj
    rw [hname]
    exact .cut he hl hstreams hb hI
  | @said id seat st hb hid hseat hindex hP =>
    obtain ⟨j, hj, hname, hface⟩ := job id hid seat hseat hindex
    obtain ⟨he, hl, hjname, hstreams, hcall⟩ := prepare_eq_ok hj
    have hb : clauses.any Clause.background = false := hb
    obtain ⟨before, after, u, hm, hu, f, outcome, hf, hp, rfl⟩ := hP
    have hseats : u.seats = (s.start clauses).seats :=
      play_keeps (P := fun u => u.seats = (s.start clauses).seats)
        (fun _ _ _ h hm => (step_of_step? hm).seats_eq.trans h) rfl hu
    have hfname : f.name = clause.name := by
      have hfseat := seats_of_faces hf
      rw [hseats, hseat, Option.some.injEq] at hfseat
      rw [← hname, hfseat]
      rfl
    rw [hfname]
    refine .ran he hl hstreams hb ?_ ⟨before, after, u, hm, hu, f, hf, hp⟩ (Status.of_ofOutcome _ _)
    rw [hface, hb]
    simp only [Job.stage, Stage.face, hjname, hcall]

/-- **Every status of a run that is over has its reason.** -/
theorem accounts_of_play (hs : s.Dated) (hne : clauses ≠ []) (h : (s.start clauses).play moves = some t)
    (hover : t.current = none) : t.statuses.length = clauses.length ∧
      ∀ i clause streams, clauses[i]? = some clause → (s.streamsOf clauses)[i]? = some streams →
        ∃ status, t.statuses[i]? = some status ∧ Account s clauses moves i clause streams status := by
  obtain ⟨hlen, hall⟩ := verdict
    (P := fun moves id st => (s.start clauses).Passes moves (fun u => ∃ f outcome, u.faces id = some f ∧
      f.phase = .running (.done outcome) ∧ st = Status.ofOutcome f.name outcome))
    (I := fun moves => (s.start clauses).Delivers moves) hs hne
    (fun _ m _ _ hp => hp.append [m]) (fun _ m hd => hd.append [m])
    (fun before u id f outcome hu _ hf hp => Passes.last hu ⟨f, outcome, hf, hp, rfl⟩)
    (fun before u m hu hd => Delivers.last hu hd) h hover
  refine ⟨hlen, fun i clause streams hc hstreams => ?_⟩
  have hst := List.getElem?_eq_getElem (hlen ▸ (List.getElem?_eq_some_iff.1 hc).1 : i < t.statuses.length)
  exact ⟨_, hst, account_of_origin hc hstreams (hall i _ hst)⟩

/-! ## The end of a run -/

/-- **The statuses of a run.**  However its stages are scheduled and interrupted, a run that is over has given one
status a clause, with the name of its command and a reason.  It is driven on only so often until then, and if no stage
vanishes, it waits for nothing but commands at work. -/
theorem statuses_of_run (hs : s.Lived) (hne : clauses ≠ []) (h : (s.start clauses).play moves = some t) :
    (t.current = none → t.statuses.length = clauses.length ∧
      ∀ i clause streams, clauses[i]? = some clause → (s.streamsOf clauses)[i]? = some streams →
        ∃ status, t.statuses[i]? = some status ∧ status.command = clause.name ∧
          (status.code = .exitRequested ↔ s.registry.isExit clause.name = true) ∧
          (status.code = .unknownCommand ↔
            s.registry.isExit clause.name = false ∧ s.registry.lookup clause.name = none) ∧
          Account s clauses moves i clause streams status) ∧
    moves.count .drive ≤ 2 * clauses.length + 4 ∧
    ((∀ id, .vanish id ∉ moves) → t.current ≠ none → t.drive? = none →
      ∃ id ∈ s.idsOf clauses, (∃ f program, t.faces id = some f ∧ f.phase = .running program) ∨
        ∀ most, t.advance? id most ≠ none) := by
  refine ⟨fun hover => ?_, count_drive_le hs.dated hne h, fun hv hunder hstuck => ?_⟩
  · obtain ⟨hlen, hall⟩ := verdict
      (P := fun moves id st => (s.start clauses).Passes moves (fun u => ∃ f outcome, u.faces id = some f ∧
        f.phase = .running (.done outcome) ∧ st = Status.ofOutcome f.name outcome))
      (I := fun moves => (s.start clauses).Delivers moves) hs.dated hne
      (fun _ m _ _ hp => hp.append [m]) (fun _ m hd => hd.append [m])
      (fun before u id f outcome hu _ hf hp => Passes.last hu ⟨f, outcome, hf, hp, rfl⟩)
      (fun before u m hu hd => Delivers.last hu hd) h hover
    refine ⟨hlen, fun i clause streams hc hstreams => ?_⟩
    have hi : i < t.statuses.length := hlen ▸ (List.getElem?_eq_some_iff.1 hc).1
    have hst := List.getElem?_eq_getElem hi
    have haccount := account_of_origin hc hstreams (hall i _ hst)
    exact ⟨_, hst, haccount.command_eq, haccount.exitRequested_iff, haccount.unknownCommand_iff, haccount⟩
  · obtain ⟨run, hr⟩ := Option.ne_none_iff_exists'.1 hunder
    obtain ⟨-, hcharter, -, hcourse⟩ := underway hs.dated hne h hr
    have hstages : run.stages = s.idsOf clauses := congrArg Charter.stages hcharter
    have hcap : run.capacity = clauses.length := congrArg Charter.capacity hcharter
    rw [← hstages]
    exact waits_for hr hcourse (filed_of_play hs.dated hne h hr) (heard_of_play hs.dated hne hv h hr)
      (joined_of_play hs.dated hne h hr) (hcap ▸ List.length_pos_iff.2 hne) hstuck

/-- A session with a command for every way to end. -/
def motley : Session :=
  let ends : List (String × Outcome) := [("well", .done), ("ill", .failed (.other "no use")),
    ("lost", .failed (.fault (.system .notFound))), ("halted", .failed .stopped), ("brittle", .brokeDown)]
  { small with registry := ⟨["exit"], ends.map fun c => ⟨c.1, "/", fun _ => .done c.2⟩⟩ }

/-- Each of its commands ends, the first one once more but too late to report, and behind them come an exit keyword and a
name that nobody knows. -/
theorem statuses_of_run_interrupted :
    let clauses : List Clause := ["well", "ill", "lost", "halted", "brittle", "well", "exit", "nope"].map fun name => { name }
    let moves : List Move := List.replicate 7 .drive ++ (List.range 5).flatMap (fun id => [.advance id 0, .advance id 0]) ++
      [.advance 5 0, .interrupt] ++ List.replicate 7 .drive
    let statuses : List Status := [⟨.ok, "well", none⟩, ⟨.ok, "ill", some "no use"⟩,
      ⟨.ok, "lost", some "No such file or directory (os error 2)"⟩, ⟨.interrupted, "halted", none⟩,
      ⟨.ok, "brittle", some "command panicked"⟩, ⟨.interrupted, "well", none⟩, ⟨.exitRequested, "exit", none⟩,
      ⟨.unknownCommand, "nope", none⟩]
    ∃ t, (motley.start clauses).play moves = some t ∧ t.statuses = statuses ∧
      ∀ i clause, clauses[i]? = some clause → ∃ streams status,
        t.statuses[i]? = some status ∧ Account motley clauses moves i clause streams status := by
  intro clauses moves statuses
  have hplayed : ((motley.start clauses).play moves).any (fun t => t.current.isNone && t.statuses == statuses) = true := by
    decide +kernel
  obtain ⟨t, ht, hover⟩ := (Option.any_eq_true _ _).1 hplayed
  obtain ⟨hnone, hst⟩ : t.current = none ∧ t.statuses = statuses := by simpa using hover
  refine ⟨t, ht, hst, fun i clause hclause => ?_⟩
  have hi : i < (motley.streamsOf clauses).length :=
    (length_streamsOf motley clauses).symm ▸ (List.getElem?_eq_some_iff.1 hclause).1
  obtain ⟨status, hstatus, -, -, -, haccount⟩ :=
    ((statuses_of_run (Opened.lived ⟨rfl, rfl, rfl, rfl⟩) (List.cons_ne_nil _ _) ht).1 hnone).2 i clause _ hclause
      (List.getElem?_eq_getElem hi)
  exact ⟨_, status, hstatus, haccount⟩

/-! ## The schedule -/

theorem settleWithin_play (fuel : Nat) (s : Session) : ∃ moves, s.play moves = some (settleWithin fuel s) := by
  induction fuel generalizing s with
  | zero => exact ⟨[], rfl⟩
  | succ fuel ih =>
    unfold settleWithin
    cases hn : s.next? with
    | none => exact ⟨[], rfl⟩
    | some u =>
      obtain ⟨moves, hmoves⟩ := ih u
      have hm : ∃ m, s.step? m = some u := by
        unfold next? at hn
        split at hn
        · next hd => cases hn; exact ⟨.drive, hd⟩
        · obtain ⟨id, -, hid⟩ := List.exists_of_findSome?_eq_some hn
          exact ⟨.advance id s.pipeCapacity, hid⟩
      obtain ⟨m, hm⟩ := hm
      exact ⟨m :: moves, by rw [play, hm]; exact hmoves⟩

/-- **The order that is scheduled is one of the orders of moves.** -/
theorem interpret_play (s : Session) (clauses : List Clause) :
    ∃ moves, (s.start clauses).play moves = some (s.interpret clauses).2 ∧
      (s.interpret clauses).1 = (s.interpret clauses).2.statuses := by
  obtain ⟨moves, hmoves⟩ := settleWithin_play patience (s.start clauses)
  exact ⟨moves, hmoves, rfl⟩

end Session
end LineShell
