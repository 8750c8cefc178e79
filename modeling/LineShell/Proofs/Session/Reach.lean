import LineShell.Proofs.Session.Cut
import LineShell.Proofs.Session.Marks
/-!
# Reach — whom an interrupt reaches

An interrupt is for the run that is armed when it comes.  A run in the foreground is armed from its start on, before any of
its stages is launched, until its statuses are concluded; nothing else ever is.  So every stage of the run is within the
reach of an interrupt until its report is there or the run is cut short (`out_of_reach`), and no stage of another run is
ever asked to stop, however long it is still at work (`interrupts_stay_inside`).
-/
namespace LineShell
namespace Session

variable {s₀ s t u : Session} {clauses : List Clause} {moves : List Move} {m : Move} {run run' : Run} {id : Nat}

/-- Whether an interrupt has just ended the run under way before its time. -/
def CutShort (s : Session) : Prop := ∃ run, s.current = some run ∧ run.phase = .closing true

/-- Whether the report of a stage has come to the run that still takes reports. -/
def HasReported (s : Session) (id : Nat) : Prop :=
  ∃ run f, s.current = some run ∧ run.listens ∧ s.faces id = some f ∧ run.known f.index ≠ none

/-- **Whether an interrupt would reach a stage**: it finds a run, and the stage, if it is still at work, has a request to
stop in its slot afterwards. -/
def InReach (s : Session) (id : Nat) : Prop :=
  s.isArmed = true ∧ (s.hasEnded id = false → s.trigger.2.slot? id = some .full)

/-! ## Slots -/

theorem slot?_start (hid : id ∈ s.idsOf clauses) : (s.start clauses).slot? id = some .empty := by
  obtain ⟨k, hk, rfl⟩ := mem_idsOf.1 hid
  rw [slot?, stages_start_of_job, List.getElem?_eq_getElem hk]
  rfl

theorem slot?_start_cases {slot : StopSlot} (h : (s.start clauses).slot? id = some slot) :
    s.slot? id = some slot ∨ slot = .empty := by
  obtain ⟨stage, hs, rfl⟩ := Option.map_eq_some_iff.1 h
  obtain ⟨-, hs⟩ | ⟨k, i, job, -, -, rfl⟩ := stages_start_cases hs
  · exact .inl (slot?_of_getElem? hs)
  · exact .inr rfl

theorem hasEnded_start (he : s.hasEnded id = true) (hid : id < s.stages.size) :
    (s.start clauses).hasEnded id = true := by
  rwa [hasEnded, stages_start_of_lt hid]

theorem lt_size_of_slot? {slot : StopSlot} (h : s.slot? id = some slot) : id < s.stages.size := by
  obtain ⟨stage, hs, -⟩ := Option.map_eq_some_iff.1 h
  exact (Array.getElem?_eq_some_iff.1 hs).1

/-- **Nobody gives up a slot before it ends.** -/
theorem Becomes.ended_of_gone (h₀ : s₀.Opened) (h : s₀.Becomes s) :
    ∀ id, s.slot? id = some .gone → s.hasEnded id = true := by
  obtain ⟨past, hlives⟩ := h
  induction hlives with
  | here =>
    intro id hid
    simp [slot?, h₀.stages] at hid
  | next _ hd ih =>
    cases hd with
    | moved hm =>
      intro id hid
      rcases (marks_of_step? hm).gone id hid with hgone | hended
      · exact (step_of_step? hm).hasEnded (ih id hgone)
      · exact hended
    | started clauses =>
      intro id hid
      rcases slot?_start_cases hid with hgone | hempty
      · exact hasEnded_start (ih id hgone) (lt_size_of_slot? hgone)
      · cases hempty
    | waited _ hw =>
      obtain ⟨-, rfl⟩ := waitBackground?_eq_some hw
      exact ih
    | enrolled | changed => exact ih

theorem slot?_trigger (hr : s.current = some run) (ha : run.armed = true) (hid : id ∈ run.stages)
    (hgone : s.slot? id = some .gone → s.hasEnded id = true) (he : s.hasEnded id = false) :
    s.trigger.2.slot? id = some .full := by
  obtain ⟨stage, hs, -⟩ : ∃ stage, s.stages[id]? = some stage ∧ stage.phase.isEnded = false := by
    unfold hasEnded at he
    split at he
    · next stage hs => exact ⟨stage, hs, he⟩
    · cases he
  have hslot : stage.slot.request.2 = .full := by
    cases hslot : stage.slot with
    | empty | full => rfl
    | gone =>
      rw [slot?_of_getElem? hs, hslot] at hgone
      rw [hgone rfl] at he
      cases he
  rw [trigger_of_armed hr ha]
  show ((s.requestStops run.stages).stages[id]?).map Stage.slot = _
  rw [stages_requestStops, hs, Option.map_some, Option.map_some, if_pos hid]
  exact congrArg some hslot

/-! ## The armed run -/

theorem current_of_play_nil (hnone : s.current = none) (h : (s.start []).play moves = some t) : t.current = none := by
  have hstart : (s.start []).current = none := hnone
  exact play_keeps (P := fun t => t.current = none) (fun _ _ _ hu hm => (step_of_step? hm).current_eq_none hu) hstart h

/-- **What is armed** is a run in the foreground whose statuses are not concluded yet. -/
theorem isArmed_iff (hs : s.Dated) (hnone : s.current = none) (h : (s.start clauses).play moves = some t) :
    t.isArmed = true ↔ ∃ run, t.current = some run ∧ run.background = false ∧ run.phase ≠ .joining := by
  by_cases hne : clauses = []
  · subst hne
    simp [isArmed, current_of_play_nil hnone h]
  · cases hr : t.current with
    | none => simp [isArmed, hr]
    | some run =>
      obtain ⟨-, -, -, hcourse⟩ := underway hs hne h hr
      simp [isArmed, hr, hcourse.armed]

theorem Goes.phase_of_joining (h : Goes s t m run run') (hj : run'.phase = .joining) :
    run.phase = .joining ∨ run.phase = .closing false := by
  cases h with
  | work | fade | report => exact .inl hj
  | appeal | interrupt => exact .inl (run.told_phase ▸ hj)
  | receive hp => exact .inl hj
  | launch | collect | heed | close => cases hj
  | conclude hp => exact .inr hp

theorem hasReported_of_complete (hr : s.current = some run) (hm : Manned s.seats run.charter) (hl : run.listens)
    (hd : run.board.isComplete = true) (hid : id ∈ run.stages) : s.HasReported id := by
  obtain ⟨seat, hseat, -⟩ := hm.seat id hid
  obtain ⟨f, hf, -⟩ := Option.map_eq_some_iff.1 hseat
  refine ⟨run, f, hr, hl, hf, fun hnone => ?_⟩
  exact (Board.isComplete_iff _).1 hd f.index (hm.index_lt hid hf) (Option.or_eq_none_iff.1 hnone).1

/-- **Whatever is out of reach has reported**, unless an interrupt cut the run short. -/
theorem out_of_reach (hs : s.Dated) (hfront : clauses.any Clause.background = false)
    (h : (s.start clauses).play moves = some t) (ha : t.isArmed = false) :
    (s.start clauses).Passes moves CutShort ∨
      ∀ id ∈ s.idsOf clauses, (s.start clauses).Passes moves (fun u => u.HasReported id) := by
  by_cases hne : clauses = []
  · subst hne
    exact .inr (fun id hid => nomatch hid)
  refine play_induction (P := fun moves t => t.isArmed = false → (s.start clauses).Passes moves CutShort ∨
    ∀ id ∈ s.idsOf clauses, (s.start clauses).Passes moves (fun u => u.HasReported id)) ?_ ?_ h ha
  · intro ha
    simp [isArmed, current_start hne, runOf, hfront] at ha
  intro before u m t hu ih hm ha
  cases hau : u.isArmed with
  | false => exact (ih hau).imp (·.append [m]) (fun h id hid => (h id hid).append [m])
  | true =>
    -- The run was armed up to this move: it was closed with all reports, or cut short.
    obtain ⟨run, hr, hra⟩ := armed_of_isArmed hau
    obtain ⟨-, hcharter, hman, hcourse⟩ := underway hs hne hu hr
    obtain ⟨hb, hj⟩ := hcourse.armed.1 hra
    have hstep := step_of_step? hm
    cases hr' : t.current with
    | some run' =>
      have hb' : run'.background = false := (congrArg Charter.background (hstep.charter_eq hr hr')).trans hb
      obtain ⟨-, -, -, hcourse'⟩ := underway hs hne (play_snoc hu hm) hr'
      have hj' : run'.phase = .joining := by
        by_contra hj'
        simp [isArmed, hr', hcourse'.armed.2 ⟨hb', hj'⟩] at ha
      have hclose := ((hstep.goes hman hcourse hr hr').phase_of_joining hj').resolve_left hj
      have hd := (filed_of_play hs hne hu hr).full (.inl hclose)
      refine .inr (fun id hid => (Passes.last hu ?_).append [m])
      rw [show s.idsOf clauses = run.stages from (congrArg Charter.stages hcharter).symm] at hid
      exact hasReported_of_complete hr hman ⟨hb, hj⟩ hd hid
    | none =>
      rcases (hstep.ends hr hr').2 with ⟨-, hback, -⟩ | ⟨hcut, -⟩ | ⟨hjoin, -⟩
      · rw [hb] at hback; cases hback
      · exact .inl ((Passes.last hu ⟨run, hr, hcut⟩).append [m])
      · exact absurd hjoin hj

/-- **No slot is filled but by an interrupt of its own run.** -/
theorem full_of_play (hs : s.Dated) (hnone : s.current = none) (h : (s.start clauses).play moves = some t)
    (hid : t.slot? id = some .full) :
    s.slot? id = some .full ∨ id ∈ s.idsOf clauses ∧ clauses.any Clause.background = false ∧
      (s.start clauses).Delivers moves := by
  refine play_induction (P := fun moves t => ∀ id, t.slot? id = some .full → s.slot? id = some .full ∨
    id ∈ s.idsOf clauses ∧ clauses.any Clause.background = false ∧ (s.start clauses).Delivers moves) ?_ ?_ h id hid
  · intro id hid
    exact (slot?_start_cases hid).imp_right nofun
  intro before u m t hu ih hm id hid
  rcases (marks_of_step? hm).asked id hid with hfull | ⟨hd, run, hr, hmem⟩
  · exact (ih id hfull).imp_right (fun ⟨hid, hb, hdel⟩ => ⟨hid, hb, hdel.append [m]⟩)
  · have hne : clauses ≠ [] := by
      rintro rfl
      rw [current_of_play_nil hnone hu] at hr
      cases hr
    obtain ⟨-, hcharter, -, hcourse⟩ := underway hs hne hu hr
    have ha : u.isArmed = true := by
      unfold delivers at hd
      split at hd
      · exact hd
      · exact (Bool.and_eq_true_iff.1 hd).1
      · cases hd
    have hb : run.background = false := (hcourse.armed.1 (by simpa [isArmed, hr] using ha)).1
    refine .inr ⟨?_, ?_, .last hu hd⟩
    · rwa [← show run.stages = s.idsOf clauses from congrArg Charter.stages hcharter]
    · rwa [← show run.background = clauses.any Clause.background from congrArg Charter.background hcharter]

/-- **Interrupts stay inside their run.**  Between runs, at `s`, an interrupt does nothing at all.  At every moment `t` after
the start of a run: what is armed is a run in the foreground that is not concluded; without one an interrupt does nothing;
with one it asks the stages of that run and touches no other stage and nothing else but the run's channel.  A stage has a
request in its slot only from its own run, with none at its start; and until its report is there or the run is cut short, a
stage in the foreground is in reach. -/
theorem interrupts_stay_inside (h₀ : s₀.Opened) (hs : s₀.Becomes s) (hnone : s.current = none)
    (h : (s.start clauses).play moves = some t) :
    (s.isArmed = false ∧ s.trigger = (false, s)) ∧
    (t.isArmed = true ↔ ∃ run, t.current = some run ∧ run.background = false ∧ run.phase ≠ .joining) ∧
    (t.isArmed = false → t.trigger = (false, t)) ∧
    (t.isArmed = true → t.trigger.1 = true ∧
      t.trigger.2 = { t with stages := t.trigger.2.stages, current := t.current.map Run.told } ∧
      ∀ id, t.trigger.2.stages[id]? = (t.stages[id]?).map (fun stage =>
        if id ∈ s.idsOf clauses then { stage with slot := stage.slot.request.2 } else stage)) ∧
    (∀ id ∈ s.idsOf clauses, (s.start clauses).slot? id = some .empty) ∧
    (∀ id, t.slot? id = some .full → s.slot? id = some .full ∨ id ∈ s.idsOf clauses ∧
      clauses.any Clause.background = false ∧ (s.start clauses).Delivers moves) ∧
    (clauses.any Clause.background = false → ∀ id ∈ s.idsOf clauses, t.InReach id ∨
      (s.start clauses).Passes moves (fun u => u.HasReported id) ∨ (s.start clauses).Passes moves CutShort) := by
  have hdated := hs.dated h₀
  have harmed : t.isArmed = true → ∃ run, t.current = some run ∧ run.armed = true ∧ run.stages = s.idsOf clauses := by
    intro ha
    obtain ⟨run, hr, hra⟩ := armed_of_isArmed ha
    have hne : clauses ≠ [] := by
      rintro rfl
      rw [current_of_play_nil hnone h] at hr
      cases hr
    obtain ⟨-, hcharter, -, -⟩ := underway hdated hne h hr
    exact ⟨run, hr, hra, congrArg Charter.stages hcharter⟩
  have hidle : s.isArmed = false := by rw [isArmed, hnone, Option.any_none]
  refine ⟨⟨hidle, trigger_of_not_armed hidle⟩, isArmed_iff hdated hnone h, trigger_of_not_armed, fun ha => ?_, fun id hid => slot?_start hid,
    fun id hid => full_of_play hdated hnone h hid, fun hfront id hid => ?_⟩
  · obtain ⟨run, hr, hra, hstages⟩ := harmed ha
    rw [trigger_of_armed hr hra, hr]
    refine ⟨rfl, ?_, fun id => ?_⟩
    · exact requestStops_rest run.stages t _
    · rw [← hstages]
      exact stages_requestStops run.stages t id
  · cases ha : t.isArmed with
    | true =>
      obtain ⟨run, hr, hra, hstages⟩ := harmed ha
      have hgone := (hs.trans (becomes_of_run hnone h)).ended_of_gone h₀ id
      exact .inl ⟨ha, slot?_trigger hr hra (hstages ▸ hid) hgone⟩
    | false => exact .inr ((out_of_reach hdated hfront h ha).symm.imp_left (fun h => h id hid))

/-- A run was cut short, and its stage is still at work with a request in its slot; the next run is interrupted when its
only stage is launched. -/
theorem interrupts_stay_inside_after_cut :
    ∃ s t, small.Becomes s ∧ s.current = none ∧ s.hasEnded 0 = false ∧ s.slot? 0 = some .full ∧
      (s.start [{ name := "go" }]).play [.drive, .advance 0 0, .interrupt] = some t ∧ t.slot? 1 = some .full ∧
      (s.slot? 1 = some .full ∨ 1 ∈ s.idsOf [{ name := "go" }] ∧
        [({ name := "go" } : Clause)].any Clause.background = false ∧
        (s.start [{ name := "go" }]).Delivers [.drive, .advance 0 0, .interrupt]) := by
  obtain ⟨s, hs, hnone, he, hfull, t, ht, hslot⟩ :
      ∃ s, (small.start [{ name := "go" }]).play [.drive, .drive, .interrupt, .drive, .drive] = some s ∧
        s.current = none ∧ s.hasEnded 0 = false ∧ s.slot? 0 = some .full ∧
        ∃ t, (s.start [{ name := "go" }]).play [.drive, .advance 0 0, .interrupt] = some t ∧ t.slot? 1 = some .full :=
    ⟨_, rfl, rfl, rfl, rfl, _, rfl, rfl⟩
  have hlife : small.Becomes s := becomes_of_run rfl hs
  exact ⟨s, t, hlife, hnone, he, hfull, ht, hslot,
    (interrupts_stay_inside opened_small hlife hnone ht).2.2.2.2.2.1 1 hslot⟩

end Session
end LineShell
