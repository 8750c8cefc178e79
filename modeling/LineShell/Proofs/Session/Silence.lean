import LineShell.Proofs.Session.Filing
/-!
# Silence — stages that end without a report

A run in the foreground is armed as long as messages are taken for it, and an armed run could always be interrupted.  So
nobody ever gives up on a stage that has ended without its report: the run waits for it (`drive?_eq_none_iff`) although
nothing but an interrupt can happen any more, and is over once one has come (`silent_run`).
-/
namespace LineShell
namespace Session

variable {s t u : Session} {clauses : List Clause} {moves : List Move} {m : Move} {run : Run} {id most : Nat}

/-- **What a run that takes messages waits for**: the next message, whether or not a stage is left to send it. -/
theorem drive?_eq_none_iff (hr : s.current = some run) (hc : Course s.faces run) (hp : run.phase = .collecting) :
    s.drive? = none ↔ run.channel = [] ∧ run.board.isComplete = false := by
  constructor
  · intro h
    rcases stuck_cases hr h with ⟨-, hch, hd⟩ | ⟨hp', -⟩
    · exact ⟨hch, hd⟩
    · rw [hp] at hp'
      cases hp'
  · rintro ⟨hch, hd⟩
    unfold drive?
    simp only [hr, hp, hd, hch, mayReport_of_course hc hp, Bool.false_eq_true, if_false, if_true]

theorem vanish?_of_hasEnded (h : s.hasEnded id = true) : s.vanish? id = none := by
  unfold hasEnded at h
  unfold vanish?
  split
  · next hs =>
    rw [hs] at h
    cases h
  · rfl

theorem eq_interrupt (hended : ∀ id, s.hasEnded id = true) (hd : s.drive? = none) (h : s.step? m = some t) :
    m = .interrupt := by
  cases m with
  | drive => exact absurd (hd.symm.trans h) nofun
  | advance id most => exact absurd ((advance?_of_hasEnded (hended id)).symm.trans h) nofun
  | vanish id => exact absurd ((vanish?_of_hasEnded (hended id)).symm.trans h) nofun
  | interrupt => rfl

/-- An interrupt ends a run that waits for messages: every row without a status counts as interrupted. -/
theorem play_interrupt (hr : s.current = some run) (hc : Course s.faces run) (hf : Filed s.seats run)
    (hp : run.phase = .collecting) (hch : run.channel = []) (hd : run.board.isComplete = false)
    (hcap : 0 < run.capacity) : ∃ t, s.play [.interrupt, .drive, .drive] = some t ∧ t.current = none ∧
      ∀ (i : Nat) (r : Board.Row), run.board.rows[i]? = some r → r.status = none →
        t.statuses[i]? = some ⟨.interrupted, r.name, none⟩ := by
  have harmed : run.armed = true := hc.armed.2 ⟨hc.background_eq_false (by rw [hp]; simp), by rw [hp]; simp⟩
  have htold : run.told = { run with channel := [.interrupt] } := by
    rw [Run.told, if_pos ⟨harmed, by rw [hch]; exact hcap⟩, hch]
    rfl
  have hcur : s.trigger.2.current = some { run with channel := [.interrupt] } := by
    rw [current_trigger, hr, Option.map_some, htold]
  obtain ⟨u, hu, hucur⟩ : ∃ u, s.trigger.2.drive? = some u ∧
      u.current = some { run with channel := [], board := run.board.requestStop.2, phase := .closing true } := by
    unfold drive?
    simp only [hcur, hp, hd, Bool.false_eq_true, if_false]
    exact ⟨_, rfl, rfl⟩
  obtain ⟨t, ht, hover, hst⟩ : ∃ t, u.drive? = some t ∧ t.current = none ∧
      t.statuses = (run.board.requestStop.2.conclude silence).statuses := by
    unfold drive?
    simp only [hucur, if_true]
    exact ⟨_, rfl, rfl, rfl⟩
  refine ⟨t, ?_, hover, fun i r hrow hnone => ?_⟩
  · simp only [play, step?, hu, ht]
  · have hstate : r.state = .running := by
      rw [hf.state i r hrow hnone, hp, if_neg (by simp)]
    rw [hst, Board.getElem?_statuses (Board.isComplete_conclude _ _), Board.status?_conclude, Board.requestStop,
      List.getElem?_map, hrow, Option.map_some, Option.map_some, Board.Row.status_requestStop, hnone, Option.getD_none]
    simp [Board.Row.requestStop, hstate]

/-- **A run whose stages have all ended, and from which a report is missing**, waits until it is interrupted; then what
is missing counts as interrupted. -/
theorem silent_run (hs : s.Lived) (hne : clauses ≠ []) (h : (s.start clauses).play moves = some t)
    (hr : t.current = some run) (hp : run.phase = .collecting) (hended : ∀ id, t.hasEnded id = true)
    (hch : run.channel = []) (hd : run.board.isComplete = false) :
    (∀ m v, t.step? m = some v → m = .interrupt) ∧ ∃ v, t.play [.interrupt, .drive, .drive] = some v ∧ v.current = none ∧
      ∀ (i : Nat) (r : Board.Row), run.board.rows[i]? = some r → r.status = none →
        v.statuses[i]? = some ⟨.interrupted, r.name, none⟩ := by
  obtain ⟨-, hcharter, -, hcourse⟩ := underway hs.dated hne h hr
  have hcap : 0 < run.capacity := by
    rw [show run.capacity = clauses.length from congrArg Charter.capacity hcharter]
    exact List.length_pos_iff.2 hne
  have hstuck := (drive?_eq_none_iff hr hcourse hp).2 ⟨hch, hd⟩
  exact ⟨fun m v hm => eq_interrupt hended hstuck hm,
    play_interrupt hr hcourse (filed_of_play hs.dated hne h hr) hp hch hd hcap⟩

/-- One stage that vanishes is enough. -/
example : ∃ t run, (small.start [{ name := "go" }]).play [.drive, .drive, .advance 0 0, .vanish 0] = some t ∧
    t.current = some run ∧ run.phase = .collecting ∧ run.channel = [] ∧ run.board.isComplete = false ∧ t.drive? = none :=
  ⟨_, _, rfl, rfl, rfl, rfl, rfl, rfl⟩

end Session
end LineShell
