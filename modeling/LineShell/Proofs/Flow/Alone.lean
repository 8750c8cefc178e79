import LineShell.Proofs.Command.Worlds
import LineShell.Proofs.Flow.Closing
import LineShell.Proofs.Wiring.Refusals
/-!
# Alone — a run of one stage

A run in the foreground of one clause, whose output goes to a file, has one stage; and where nobody else is at work,
nobody else touches what the stage can reach, which is the files, the console and its place in the file that it writes to
(`Desk`).  So the stage is always where its program comes to at that desk (`Session.Alone`), one step of it a move, however
the run is driven.  If the program ends, so does the run (`settles_of_done`); and if it never does, neither does the run
(`goes_on_of_lasts`).
-/
namespace LineShell

/-- What a stage can reach that reads the console and writes to a file. -/
structure Desk where
  files : Files
  console : Console
  file : NodeId
  offset : Nat

namespace Desk

/-- What is replied to a request; nothing where the reply would depend on more than the desk. -/
def answer? (d : Desk) : (q : Request) → Option (q.Reply × Desk)
  | .poll => some (false, d)
  | .read limit => some (.ok (d.console.read limit).1, { d with console := (d.console.read limit).2 })
  | .write data =>
    match d.files.writeAt d.file d.offset data with
    | (.ok n, files) => some (.ok n, { d with files, offset := d.offset + n })
    | (.error f, files) => some (.error f, { d with files })
  | .flush => some (.ok (), d)
  | .moveTo _ => some ((), d)
  | .files q => some ((d.files.serve q).1, { d with files := (d.files.serve q).2 })
  | _ => none

def Answers (d : Desk) (q : Request) (reply : q.Reply) (d' : Desk) : Prop := d.answer? q = some (reply, d')

theorem definite_answers : Program.Definite Answers := by
  intro d q reply reply' d' d'' h h'
  have h : d.answer? q = some (reply, d') := h
  rw [show d.answer? q = some (reply', d'') from h'] at h
  cases h
  exact ⟨rfl, rfl⟩

end Desk

namespace Session

open Program (Comes GoesOn Lasts)

variable {s t u v : Session} {c : Clause} {stage : Stage} {d d' d₀ : Desk} {id n N most : Nat} {moves : List Move}
  {p₀ : Program Outcome} {outcome : Outcome} {clauses : List Clause}

/-- **A stage sits at a desk**, and nobody has asked it to stop. -/
structure Sits (t : Session) (d : Desk) (stage : Stage) : Prop where
  background : stage.background = false
  slot : stage.slot ≠ .full
  streams : stage.streams = ⟨.console, .file d.file d.offset⟩
  files : t.files = d.files
  console : t.console = d.console

/-- **A stage is answered as its desk answers.** -/
theorem Sits.answer (h : t.Sits d stage) (hs : t.stages[id]? = some stage) {q : Request} {reply reply' : q.Reply}
    (hd : d.Answers q reply d') (ha : t.answer? id stage most q = some (reply', v)) :
    reply' = reply ∧ ∃ stage', Touches t v id stage stage' ∧ v.Sits d' stage' ∧ stage'.phase = stage.phase := by
  obtain ⟨hback, hslot, hstreams, hfiles, hconsole⟩ := h
  have hd : d.answer? q = some (reply, d') := hd
  cases q with
  | poll =>
    cases hd
    have htake : some (stage.slot.take.1, t.modifyStage id (fun st => { st with slot := stage.slot.take.2 })) =
      some (reply', v) := ha
    have hno : stage.slot.take.1 = false := by
      rw [← Bool.not_eq_true, StopSlot.take_fst_iff]
      exact hslot
    rw [hno] at htake
    cases htake
    exact ⟨rfl, _, (Touches.of_eq hs rfl).modifyStage (fun st => { st with slot := stage.slot.take.2 }),
      ⟨hback, StopSlot.take_snd_ne_full _, hstreams, hfiles, hconsole⟩, rfl⟩
  | read limit =>
    cases hd
    have hread : t.readInput? id ⟨.console, .file d.file d.offset⟩ limit most = some (reply', v) := hstreams ▸ ha
    cases hread
    rw [hconsole]
    exact ⟨rfl, _, Touches.of_eq hs rfl, ⟨hback, hslot, hstreams, hfiles, rfl⟩, rfl⟩
  | write data =>
    have hwrite : t.writeOutput? id ⟨.console, .file d.file d.offset⟩ data most = some (reply', v) := hstreams ▸ ha
    simp only [writeOutput?, hfiles] at hwrite
    simp only [Desk.answer?] at hd
    split at hd
    · next n files hn =>
      rw [hn] at hwrite
      cases hd
      cases hwrite
      exact ⟨rfl, _, (Touches.of_eq (v := { t with files }) hs rfl).modifyStage _,
        ⟨hback, hslot, rfl, rfl, hconsole⟩, rfl⟩
    · next f files hf =>
      rw [hf] at hwrite
      cases hd
      cases hwrite
      exact ⟨rfl, _, Touches.of_eq hs rfl, ⟨hback, hslot, hstreams, rfl, hconsole⟩, rfl⟩
  | flush =>
    cases hd
    cases ha
    exact ⟨rfl, _, Touches.of_eq hs rfl, ⟨hback, hslot, hstreams, hfiles, hconsole⟩, rfl⟩
  | moveTo path =>
    cases hd
    cases ha
    exact ⟨rfl, _, (Touches.of_eq hs rfl).modifyStage _, ⟨hback, hslot, hstreams, hfiles, hconsole⟩, rfl⟩
  | files q =>
    cases hd
    have hserve : some ((t.files.serve q).1, { t with files := (t.files.serve q).2 }) = some (reply', v) := ha
    rw [hfiles] at hserve
    cases hserve
    exact ⟨rfl, _, Touches.of_eq hs rfl, ⟨hback, hslot, hstreams, rfl, hconsole⟩, rfl⟩
  -- A desk has no reply to these.
  | ownPath | resolve | connect | note | isArmed | interrupt | streams => cases hd

/-- How far a stage is after some moves of its own: it has made steps of its program, or has done with it. -/
inductive Gets (p₀ : Program Outcome) (d₀ : Desk) : Nat → Phase → Desk → Prop
  | ready : Gets p₀ d₀ 0 (.ready p₀) d₀
  | running {n : Nat} {p : Program Outcome} {d : Desk} :
      Comes Desk.Answers n p₀ d₀ p d → Gets p₀ d₀ n (.running p) d
  | sending {n : Nat} {outcome : Outcome} {status : Status} {d : Desk} :
      Comes Desk.Answers n p₀ d₀ (.done outcome) d → Gets p₀ d₀ (n + 1) (.sending status) d
  | ended {n : Nat} {outcome : Outcome} {d : Desk} :
      Comes Desk.Answers n p₀ d₀ (.done outcome) d → Gets p₀ d₀ (n + 2) .ended d

theorem Gets.le (h : Gets p₀ d₀ n stage.phase d) (hdone : Comes Desk.Answers N p₀ d₀ (.done outcome) d') :
    n ≤ N + 2 := by
  generalize stage.phase = phase at h
  have hle : ∀ {m p w}, Comes Desk.Answers m p₀ d₀ p w → m ≤ N := fun hm => hdone.le_of_done Desk.definite_answers hm
  cases h with
  | ready => exact Nat.zero_le _
  | running h => exact Nat.le_trans (hle h) (Nat.le_add_right _ _)
  | sending h => exact Nat.le_succ_of_le (Nat.succ_le_succ (hle h))
  | ended h => exact Nat.succ_le_succ (Nat.succ_le_succ (hle h))

/-- **A stage is alone**: there are the stages of earlier runs, which have ended, and itself at its desk. -/
structure Alone (s : Session) (p₀ : Program Outcome) (d₀ : Desk) (n : Nat) (t : Session) : Prop where
  size : t.stages.size = s.stages.size + 1
  earlier : ∀ id < s.stages.size, t.hasEnded id = true
  stage : ∃ stage d, t.stages[s.stages.size]? = some stage ∧ t.Sits d stage ∧ Gets p₀ d₀ n stage.phase d

namespace Alone

theorem eq_size (h : Alone s p₀ d₀ n t) (hid : t.hasEnded id = false) : id = s.stages.size := by
  rcases Nat.lt_trichotomy id s.stages.size with hlt | heq | hgt
  · rw [h.earlier id hlt] at hid
    cases hid
  · exact heq
  · have hnone : t.stages[id]? = none := Array.getElem?_eq_none (by rw [h.size]; omega)
    unfold hasEnded at hid
    rw [hnone] at hid
    cases hid

theorem next (h : Alone s p₀ d₀ n t) {stage' : Stage} (ht : Touches t v s.stages.size stage stage')
    (hsits : v.Sits d stage') (hgets : Gets p₀ d₀ N stage'.phase d) : Alone s p₀ d₀ N v where
  size := ht.size.trans h.size
  earlier id hid := by
    have hended := h.earlier id hid
    unfold hasEnded at hended ⊢
    rwa [ht.others id (Nat.ne_of_lt hid)]
  stage := ⟨stage', d, ht.after, hsits, hgets⟩

/-- **A move of the stage is a step of its program**, or a step on its way out. -/
theorem advance (hgo : GoesOn Desk.Answers p₀ d₀) (h : Alone s p₀ d₀ n t) (hadv : t.advance? id most = some v) :
    Alone s p₀ d₀ (n + 1) v := by
  obtain rfl : id = s.stages.size := by
    refine h.eq_size (Bool.not_eq_true _ ▸ fun hended => ?_)
    rw [advance?_of_hasEnded hended] at hadv
    cases hadv
  obtain ⟨stage, d, hs, hsits, hgets⟩ := h.stage
  obtain ⟨stage', hs', hadv⟩ := advances_of_advance? hadv
  obtain rfl : stage = stage' := Option.some.inj (hs.symm.trans hs')
  -- By how far the stage is: one that is not launched yet, or has ended, makes no move of its own.
  generalize hphase : stage.phase = phase at hgets
  cases hgets with
  | ready | ended =>
    cases hadv with
    | done hph | entered hph | answered hph | shown hph | ready hph | sent hph => rw [hphase] at hph; cases hph
  | sending hcomes =>
    cases hadv with
    | sent hph hsend =>
      obtain ⟨current, rfl⟩ := send?_eq hsend
      have ht := (Touches.of_eq hs rfl).modifyStage (fun st => { st with phase := .ended, slot := .gone })
      exact h.next (v := { t.endStage s.stages.size with current }) ⟨hs, ht.after, ht.others, ht.size⟩
        ⟨hsits.background, nofun, hsits.streams, hsits.files, hsits.console⟩ (.ended hcomes)
    | done hph | entered hph | answered hph | shown hph | ready hph => rw [hphase] at hph; cases hph
  | running hcomes =>
    cases hadv with
    | shown hph | ready hph | sent hph => rw [hphase] at hph; cases hph
    | done hph =>
      rw [hphase] at hph
      cases hph
      have hclosed : t.closeEnds stage.streams = t := by rw [hsits.streams]; rfl
      rw [hclosed, hsits.background]
      refine h.next ((Touches.of_eq hs rfl).modifyStage _)
        ⟨hsits.background, hsits.slot, hsits.streams, hsits.files, hsits.console⟩ (.sending hcomes)
    | entered hph =>
      rw [hphase] at hph
      cases hph
      exact h.next ((Touches.of_eq hs rfl).modifyStage _)
        ⟨hsits.background, hsits.slot, hsits.streams, hsits.files, hsits.console⟩
        (.running (hcomes.trans (.enter (.refl _ _))))
    | answered hph ha =>
      rw [hphase] at hph
      cases hph
      rcases hgo _ _ _ hcomes with ⟨a, ha'⟩ | ⟨p', d', hstep⟩
      · cases ha'
      cases hstep with
      | ask hd hrest =>
        cases hrest
        obtain ⟨rfl, stage', ht, hsits', -⟩ := hsits.answer hs hd ha
        exact h.next (ht.modifyStage _)
          ⟨hsits'.background, hsits'.slot, hsits'.streams, hsits'.files, hsits'.console⟩
          (.running (hcomes.trans (.ask hd (.refl _ _))))

/-- **Driving the run on** moves no stage; it launches one at most. -/
theorem drive (h : Alone s p₀ d₀ n t) (hd : t.drive? = some v) : Alone s p₀ d₀ n v := by
  obtain ⟨hstill, hsize, hlaunches⟩ := launches_of_drive? hd
  refine ⟨hsize.trans h.size, fun id hid => ?_, ?_⟩
  · have hended := h.earlier id hid
    unfold hasEnded at hended ⊢
    rcases hlaunches id with he | ⟨stage, p, hs, hp, -⟩
    · rwa [he]
    · rw [hs] at hended
      dsimp only at hended
      rw [hp] at hended
      cases hended
  · obtain ⟨stage, d, hs, hsits, hgets⟩ := h.stage
    have hsits' : v.Sits d stage := ⟨hsits.background, hsits.slot, hsits.streams, hstill.files.trans hsits.files,
      hstill.console.trans hsits.console⟩
    rcases hlaunches s.stages.size with he | ⟨stage', p, hs', hp, he⟩
    · exact ⟨stage, d, he.trans hs, hsits', hgets⟩
    · obtain rfl : stage = stage' := Option.some.inj (hs.symm.trans hs')
      rw [hp] at hgets
      cases hgets
      exact ⟨_, _, he, ⟨hsits'.background, hsits'.slot, hsits'.streams, hsits'.files, hsits'.console⟩,
        .running (.refl _ _)⟩

theorem appeals_eq_false (hgo : GoesOn Desk.Answers p₀ d₀) (h : Alone s p₀ d₀ n t) {f : Face}
    (hf : t.faces id = some f) : f.phase.appeals = false := by
  rw [← Bool.not_eq_true]
  intro happeals
  have hended : t.hasEnded id = false := by
    rw [hasEnded_eq, hf, Option.all_some]
    revert happeals
    cases f.phase <;> simp [Phase.appeals, Phase.isEnded]
  obtain rfl := h.eq_size hended
  obtain ⟨stage, d, hs, -, hgets⟩ := h.stage
  obtain rfl : stage.face = f := Option.some.inj ((faces_of_getElem? hs).symm.trans hf)
  have happeals : stage.phase.appeals = true := happeals
  unfold Phase.appeals at happeals
  split at happeals
  · next hphase =>
    rw [hphase] at hgets
    cases hgets with
    | running hcomes =>
      rcases hgo _ _ _ hcomes with ⟨a, ha⟩ | ⟨p, d', hstep⟩
      · cases ha
      · cases hstep with | ask hd _ => cases hd
  · cases happeals

end Alone

/-! ## A run of one clause -/

/-- **A clause in the foreground becomes a stage at a desk.** -/
structure Seats (s : Session) (c : Clause) (p₀ : Program Outcome) (d₀ : Desk) : Prop where
  front : c.background = false
  job : ∃ job, s.jobsOf [c] = [(0, job)] ∧ job.command.name = c.name
  alone : Alone s p₀ d₀ 0 (s.start [c])

theorem any_background_single (h : c.background = false) : [c].any Clause.background = false := by
  rw [List.any_cons, h, List.any_nil]
  rfl

theorem Seats.mem_idsOf (h : s.Seats c p₀ d₀) : id ∈ s.idsOf [c] ↔ id = s.stages.size := by
  obtain ⟨job, hjob, -⟩ := h.job
  rw [Session.mem_idsOf, hjob, List.length_singleton]
  constructor
  · rintro ⟨k, hk, rfl⟩
    omega
  · rintro rfl
    exact ⟨0, Nat.one_pos, (Nat.zero_add _).symm⟩

section

variable (hs : s.Dated) (hseats : s.Seats c p₀ d₀) (hgo : GoesOn Desk.Answers p₀ d₀)

include hs hseats hgo

/-- **The stage is alone in every order of moves**; each move is one of its own, or drives the run on. -/
theorem alone_of_play (hq : Quiet moves) (h : (s.start [c]).play moves = some t) :
    ∃ n, Alone s p₀ d₀ n t ∧ moves.length + t.left ≤ n + (s.start [c]).left := by
  refine play_induction (P := fun moves t => Quiet moves → ∃ n, Alone s p₀ d₀ n t ∧
    moves.length + t.left ≤ n + (s.start [c]).left) (fun _ => ⟨0, hseats.alone, by simp⟩) ?_ h hq
  intro before u m v hu ih hm hq
  obtain ⟨hq, hmove⟩ := hq.split
  obtain ⟨n, halone, hle⟩ := ih hq
  have hleft := left_step hs (List.cons_ne_nil c []) hu hm
  rw [List.length_append, List.length_singleton]
  rcases hmove with rfl | ⟨id, most, rfl⟩
  · rw [if_pos rfl] at hleft
    exact ⟨n, halone.drive hm, by omega⟩
  · rw [if_neg nofun] at hleft
    exact ⟨n + 1, halone.advance hgo hm, by omega⟩

theorem not_quiet_of_delivers_alone (h : (s.start [c]).play moves = some t) {m : Move} (hd : t.delivers m = true) :
    ¬ Quiet (moves ++ [m]) := by
  intro hq
  obtain ⟨hbefore, rfl | ⟨id, most, rfl⟩⟩ := hq.split
  · cases hd
  · obtain ⟨n, halone, -⟩ := alone_of_play hs hseats hgo hbefore h
    cases hf : t.faces id with
    | none => simp [delivers, hf] at hd
    | some f => simp [delivers_advance hf, halone.appeals_eq_false hgo hf] at hd

/-- **A run whose stage is never stuck is not stuck either.** -/
theorem quiet_move_alone (hq : Quiet moves) (h : (s.start [c]).play moves = some t) (hunder : t.current ≠ none) :
    ∃ m v, Quiet [m] ∧ t.step? m = some v := by
  have hne : [c] ≠ [] := List.cons_ne_nil c []
  cases hd : t.drive? with
  | some v => exact ⟨.drive, v, quiet_drive, hd⟩
  | none =>
    obtain ⟨id, hid, hgoes⟩ := busy_of_stuck hs hne h (fun run => heard_of_play hs hne hq.reported h) hunder hd
    have hadv : t.advance? id 0 ≠ none := by
      rcases hgoes with ⟨f, p, hf, hp⟩ | hadv
      · -- A command at work waits for pipes only, and this one has none.
        intro hnone
        obtain rfl := hseats.mem_idsOf.1 hid
        obtain ⟨n, halone, -⟩ := alone_of_play hs hseats hgo hq h
        obtain ⟨stage, d, hstage, hsits, -⟩ := halone.stage
        obtain rfl : stage.face = f := Option.some.inj ((faces_of_getElem? hstage).symm.trans hf)
        rcases waits_of_advance? hstage hp hnone with ⟨n, hn, -⟩ | ⟨n, hn, -⟩
        · rw [hsits.streams] at hn
          cases hn
        · rw [hsits.streams] at hn
          cases hn
      · exact hadv 0
    obtain ⟨v, hv⟩ := Option.ne_none_iff_exists'.1 hadv
    exact ⟨.advance id 0, v, quiet_advance id 0, hv⟩

theorem ended_alone (hq : Quiet moves) (h : (s.start [c]).play moves = some t) (hover : t.current = none) (id : Nat) :
    t.hasEnded id = true := by
  have hmine := ended_of_undisturbed hs (List.cons_ne_nil c []) (any_background_single hseats.front)
    (fun _ _ _ hu hd => not_quiet_of_delivers_alone hs hseats hgo hu hd) hq h hover s.stages.size
    (hseats.mem_idsOf.2 rfl)
  obtain ⟨n, halone, -⟩ := alone_of_play hs hseats hgo hq h
  rw [← Bool.not_eq_false]
  intro hid
  obtain rfl := halone.eq_size hid
  rw [hmine] at hid
  cases hid

end

theorem statuses_alone (hs : s.Dated) (hseats : s.Seats c p₀ d₀)
    (hdone : Comes Desk.Answers N p₀ d₀ (.done outcome) d) (hq : Quiet moves) (h : (s.start [c]).play moves = some t)
    (hover : t.current = none) : t.statuses = [Status.ofOutcome c.name outcome] := by
  have hgo := hdone.goesOn Desk.definite_answers
  obtain ⟨job, hjob, hname⟩ := hseats.job
  obtain ⟨hlen, hall⟩ := verdict (P := fun moves _ st => Quiet moves → st = Status.ofOutcome c.name outcome)
    (I := fun moves => ¬ Quiet moves) hs (List.cons_ne_nil c []) (fun _ m _ _ hp hq => hp hq.split.1)
    (fun _ _ hnot hq => hnot hq.split.1) (fun before u id f outcome' hu hid hf hph hq => by
      obtain rfl := hseats.mem_idsOf.1 hid
      obtain ⟨n, halone, -⟩ := alone_of_play hs hseats hgo hq hu
      obtain ⟨stage, d', hstage, -, hgets⟩ := halone.stage
      obtain rfl : stage.face = f := Option.some.inj ((faces_of_getElem? hstage).symm.trans hf)
      have hph : stage.phase = .running (.done outcome') := hph
      rw [hph] at hgets
      cases hgets with
      | running hcomes =>
        obtain ⟨-, rfl, -⟩ := hcomes.done_unique Desk.definite_answers hdone
        have hfirst : (s.jobsOf [c])[0]? = some (0, job) := by rw [hjob]; rfl
        have hseat := seats_start_of_job hfirst
        rw [Nat.zero_add, ← seats_of_play hu, seats_of_faces hf, Option.some.injEq] at hseat
        exact congrArg (Status.ofOutcome · outcome') ((congrArg Seat.name hseat).trans hname))
    (fun _ _ _ hu hd => not_quiet_of_delivers_alone hs hseats hgo hu hd) h hover
  obtain ⟨st, hst⟩ := List.length_eq_one_iff.1 hlen
  rw [hst]
  refine congrArg (fun st => [st]) ?_
  cases hall 0 st (by rw [hst]; rfl) with
  | fixed hp =>
    have hmem := mem_jobsOf.1 (show (0, job) ∈ s.jobsOf [c] by rw [hjob]; exact List.mem_singleton_self _)
    rw [Refused, hmem] at hp
    cases hp
  | left hb =>
    have hback : (s.runOf [c]).charter.background = false := any_background_single hseats.front
    rw [hback] at hb
    cases hb
  | cut _ _ _ _ hnot => exact absurd hq hnot
  | said _ _ _ _ hp => exact hp hq

/-- **A run whose program ends comes to its end**: the stage has ended, the files are as its program left them, and its
status says how its program ended. -/
theorem settles_of_done (hs : s.Dated) (hseats : s.Seats c p₀ d₀)
    (hdone : Comes Desk.Answers N p₀ d₀ (.done outcome) d) : s.Settles [c] (fun t =>
      (∀ id, t.hasEnded id = true) ∧ t.statuses = [Status.ofOutcome c.name outcome] ∧ t.files = d.files) := by
  have hgo := hdone.goesOn Desk.definite_answers
  refine ⟨N + 2 + (s.start [c]).left, fun moves t hq h => ?_⟩
  obtain ⟨n, halone, hle⟩ := alone_of_play hs hseats hgo hq h
  obtain ⟨stage, d', hstage, hsits, hgets⟩ := halone.stage
  have hn := hgets.le hdone
  refine ⟨by omega, quiet_move_alone hs hseats hgo hq h, fun hover => ?_⟩
  have hended := ended_alone hs hseats hgo hq h hover
  refine ⟨hended, statuses_alone hs hseats hdone hq h hover, ?_⟩
  have hphase : stage.phase.isEnded = true := by
    have := hended s.stages.size
    unfold hasEnded at this
    rwa [hstage] at this
  generalize stage.phase = phase at hgets hphase
  cases hgets with
  | ready | running | sending => cases hphase
  | ended hcomes =>
    obtain ⟨-, -, rfl⟩ := hcomes.done_unique Desk.definite_answers hdone
    exact hsits.files

/-- **A run whose program never ends goes on for ever.** -/
theorem goes_on_of_lasts (hs : s.Dated) (hseats : s.Seats c p₀ d₀) (hlasts : Lasts Desk.Answers p₀ d₀)
    (hq : Quiet moves) (h : (s.start [c]).play moves = some t) :
    t.current ≠ none ∧ ∃ m v, Quiet [m] ∧ t.step? m = some v := by
  have hgo := hlasts.goesOn Desk.definite_answers
  have hunder : t.current ≠ none := by
    intro hover
    have hended := ended_alone hs hseats hgo hq h hover s.stages.size
    obtain ⟨n, halone, -⟩ := alone_of_play hs hseats hgo hq h
    obtain ⟨stage, d, hstage, -, hgets⟩ := halone.stage
    unfold hasEnded at hended
    rw [hstage] at hended
    dsimp only at hended
    generalize stage.phase = phase at hgets hended
    cases hgets with
    | ready | running | sending => cases hended
    | ended hcomes => exact hlasts.not_done Desk.definite_answers hcomes
  exact ⟨hunder, quiet_move_alone hs hseats hgo hq h hunder⟩

/-! ## How the run begins -/

variable {k : NodeId} {files : Files} {command : Command} {f : Fault}

theorem preparedOf_single (s : Session) (c : Clause) :
    s.preparedOf [c] = [s.prepare c (Wiring.openStreams (s.planFor [c]) 0 c s.files).1] := rfl

theorem openInput_console (hfront : c.background = false) (hin : c.input = "") :
    Wiring.openInput (s.planFor [c]) 0 c s.files = .ok .console := by
  have hback : (s.planFor [c]).background = false := any_background_single hfront
  rw [Wiring.openInput, if_pos hin, Wiring.Plan.input, hback]
  rfl

/-- **A known command that is to write to a file** becomes a stage at a desk. -/
theorem seats_of_create (hended : ∀ id, s.hasEnded id = true) (hexit : s.registry.isExit c.name = false)
    (hfound : s.registry.lookup c.name = some command) (hfront : c.background = false) (hin : c.input = "")
    (hout : c.output ≠ "") (hcreate : s.files.create (Action.resolve s.path c.output) = (.ok k, files)) :
    s.Seats c (command.execute (s.callOf c)) ⟨files, s.console, k, 0⟩ := by
  have hcreate : s.files.create ((s.planFor [c]).path c.output) = (.ok k, files) := hcreate
  have hstreams : Wiring.openStreams (s.planFor [c]) 0 c s.files = (.ok ⟨.console, .file k 0⟩, files) := by
    rw [Wiring.openStreams, openInput_console hfront hin, Wiring.openOutput, if_neg hout, hcreate]
  have hprepared : s.preparedOf [c] = [.ok ⟨command, s.callOf c, ⟨.console, .file k 0⟩⟩] := by
    rw [preparedOf_single, hstreams, prepare, hexit, hfound]
    rfl
  have hjobs : s.jobsOf [c] = [(0, ⟨command, s.callOf c, ⟨.console, .file k 0⟩⟩)] := by
    rw [jobsOf, hprepared]
    rfl
  have hfiles : (s.start [c]).files = files := by
    rw [Session.files_start, List.length_singleton, Wiring.filesBefore_succ (c := c) rfl]
    exact congrArg Prod.snd hstreams
  have hstage : (s.start [c]).stages[0 + s.stages.size]? = _ := stages_start_of_job
  rw [hjobs, Nat.zero_add, any_background_single hfront] at hstage
  refine ⟨hfront, ⟨_, hjobs, name_of_lookup hfound⟩, ⟨?_, fun id hid => ?_, _, _, hstage, ?_, .ready⟩⟩
  · rw [size_stages_start, hjobs]
    rfl
  · exact hasEnded_start (hended id) hid
  · exact ⟨rfl, by simp [Job.stage], rfl, hfiles, s.console_start [c]⟩

/-- **A clause whose output cannot be opened** starts no stage, and its run is soon over. -/
theorem settles_of_not_create (hs : s.Dated) (hended : ∀ id, s.hasEnded id = true)
    (hexit : s.registry.isExit c.name = false) (hfound : s.registry.lookup c.name = some command)
    (hfront : c.background = false) (hin : c.input = "") (hout : c.output ≠ "")
    (hcreate : s.files.create (Action.resolve s.path c.output) = (.error f, files)) : s.Settles [c] (fun t =>
      (∀ id, t.hasEnded id = true) ∧ t.statuses.length = 1) := by
  have hcreate : s.files.create ((s.planFor [c]).path c.output) = (.error f, files) := hcreate
  have hstreams : Wiring.openStreams (s.planFor [c]) 0 c s.files =
      (.error (Wiring.outputFault (s.planFor [c]) c.output f), files) := by
    rw [Wiring.openStreams, openInput_console hfront hin, Wiring.openOutput, if_neg hout, hcreate]
  have hjobs : s.jobsOf [c] = [] := by
    rw [jobsOf, preparedOf_single, hstreams, prepare, hexit, hfound]
    rfl
  exact settles_of_jobsOf_nil hs (List.cons_ne_nil c []) hended hjobs

end Session
end LineShell
