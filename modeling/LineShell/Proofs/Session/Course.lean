import LineShell.Proofs.Session.Lifetime
/-!
# Course — how a run under way goes on

`Course` says how far a run is: which of its stages wait to be launched, and that an interrupt reaches it from its start
until it is concluded, unless it is in the background.  As long as that holds a run goes on in one of the ways of `Goes`
and ends in one of three (`Step.ends`); in particular whoever drives it never gives up on a silent channel.
-/
namespace LineShell

def Phase.isReady : Phase → Bool
  | ready _ => true
  | _ => false

namespace Run

def waiting (run : Run) : List Nat :=
  match run.phase with
  | .launching waiting => waiting
  | _ => []

@[simp] theorem told_phase (run : Run) : run.told.phase = run.phase := by unfold told; split <;> rfl

@[simp] theorem told_waiting (run : Run) : run.told.waiting = run.waiting := by rw [waiting, told_phase]; rfl

@[simp] theorem told_stages (run : Run) : run.told.stages = run.stages := by unfold told; split <;> rfl

@[simp] theorem told_background (run : Run) : run.told.background = run.background := by unfold told; split <;> rfl

@[simp] theorem told_armed (run : Run) : run.told.armed = run.armed := by unfold told; split <;> rfl

@[simp] theorem told_board (run : Run) : run.told.board = run.board := by unfold told; split <;> rfl

theorem channel_told (run : Run) :
    run.told.channel = run.channel ∨ run.armed = true ∧ run.told.channel = run.channel ++ [.interrupt] := by
  unfold told
  split
  · next h => exact .inr ⟨h.1, rfl⟩
  · exact .inl rfl

end Run

/-- **How far a run is.** -/
structure Course (F : Faces) (run : Run) : Prop where
  waits : run.waiting <:+ run.stages
  ready : ∀ id ∈ run.stages, ∀ f, F id = some f → (f.phase.isReady = true ↔ id ∈ run.waiting)
  armed : run.armed = true ↔ run.background = false ∧ run.phase ≠ .joining
  /-- Nobody collects for a run in the background. -/
  away : run.background = true → ∃ waiting, run.phase = .launching waiting

namespace Session

inductive Goes (s t : Session) (m : Move) (run : Run) : Run → Prop
  | work {id : Nat} {f g : Face} :
      s.faces id = some f → Face.Works f g → t.faces = s.faces.set id g → m ≠ .drive → Goes s t m run run
  | appeal {id : Nat} {f : Face} {next : Bool → Program Outcome} :
      s.faces id = some f → f.phase = .running (.ask .interrupt next) →
      t.faces = s.faces.set id { f with phase := .running (next s.isArmed) } → s.delivers m = s.isArmed → m ≠ .drive →
      Goes s t m run run.told
  | interrupt : t.faces = s.faces → s.delivers m = s.isArmed → m ≠ .drive → Goes s t m run run.told
  | report {id : Nat} {f : Face} {status : Status} :
      s.faces id = some f → f.phase = .sending status → f.run = run.number → run.channel.length < run.capacity →
      t.faces = s.faces.set id { f with phase := .ended } → m ≠ .drive →
      Goes s t m run { run with channel := run.channel ++ [.finished f.index status f.path] }
  /-- A stage of the run vanishes, or one of an earlier run ends. -/
  | fade {id : Nat} {f : Face} {status : Status} :
      s.faces id = some f → f.phase = .sending status → m = .vanish id ∨ f.run ≠ run.number →
      t.faces = s.faces.set id { f with phase := .ended } → m ≠ .drive → Goes s t m run run
  | launch {id : Nat} {waiting : List Nat} {f : Face} :
      run.phase = .launching (id :: waiting) → s.faces id = some f →
      t.faces = s.faces.set id { f with phase := f.phase.launched } → m = .drive →
      Goes s t m run { run with
        board := if run.background then run.board.record f.index ⟨.ok, f.name, none⟩ none else run.board
        phase := .launching waiting }
  | collect :
      run.phase = .launching [] → run.background = false → t.faces = s.faces → m = .drive →
      Goes s t m run { run with phase := .collecting }
  | receive {index : Nat} {status : Status} {path : String} {channel : List Event} :
      run.phase = .collecting → run.channel = .finished index status path :: channel → t.faces = s.faces → m = .drive →
      Goes s t m run { run with channel, board := run.board.record index status (some path) }
  | heed {channel : List Event} :
      run.phase = .collecting → run.channel = .interrupt :: channel → t.faces = s.faces → m = .drive →
      Goes s t m run { run with channel, board := run.board.requestStop.2, phase := .closing true }
  | close :
      run.phase = .collecting → run.board.isComplete = true → t.faces = s.faces → m = .drive →
      Goes s t m run { run with phase := .closing false }
  | conclude :
      run.phase = .closing false → t.faces = s.faces → m = .drive →
      Goes s t m run { run with armed := false, board := run.board.conclude silence, phase := .joining }

variable {s t : Session} {m : Move} {run run' : Run}

/-- An armed run that is waited for could always be interrupted, so the channel never counts as silent. -/
theorem mayReport_of_course (hc : Course s.faces run) (hp : run.phase = .collecting) : s.mayReport run = true := by
  have hb : run.background = false := by
    by_contra hb
    obtain ⟨waiting, hw⟩ := hc.away (by simpa using hb)
    rw [hp] at hw
    cases hw
  have ha : run.armed = true := hc.armed.2 ⟨hb, by rw [hp]; simp⟩
  simp [mayReport, ha]

theorem delivers_advance {id most : Nat} {f : Face} (hf : s.faces id = some f) :
    s.delivers (.advance id most) = (s.isArmed && f.phase.appeals) := by simp [delivers, hf]

theorem Step.goes (h : Step s t m) (hm : Manned s.seats run.charter) (hc : Course s.faces run)
    (hs : s.current = some run) (ht : t.current = some run') : Goes s t m run run' := by
  cases h with
  | work hf hw hF hcur => rw [hcur, hs] at ht; cases ht; exact .work hf hw hF nofun
  | appeal hf hp hF hcur =>
    rw [hcur, hs] at ht; cases ht
    exact .appeal hf hp hF (by rw [delivers_advance hf, hp]; simp [Phase.appeals]) nofun
  | report hf hp hr hn hroom hF hcur =>
    rw [hs] at hr; cases hr; rw [hcur] at ht; cases ht
    exact .report hf hp hn hroom hF nofun
  | lose hf hp hn hF hcur => rw [hcur, hs] at ht; cases ht; exact .fade hf hp (.inr (hn _ hs)) hF nofun
  | vanish hf hp hF hcur => rw [hcur, hs] at ht; cases ht; exact .fade hf hp (.inl rfl) hF nofun
  | interrupt hF hcur => rw [hcur, hs] at ht; cases ht; exact .interrupt hF rfl nofun
  | launch hr hp hf hF hcur => rw [hs] at hr; cases hr; rw [hcur] at ht; cases ht; exact .launch hp hf hF rfl
  | skip hr hp hf =>
    rw [hs] at hr; cases hr
    have hid : _ ∈ run.stages := hc.waits.subset (by rw [Run.waiting, hp]; exact List.mem_cons_self)
    obtain ⟨seat, hseat, -⟩ := hm.seat _ hid
    rw [seats, hf] at hseat
    cases hseat
  | collect hr hp hb hF hcur => rw [hs] at hr; cases hr; rw [hcur] at ht; cases ht; exact .collect hp hb hF rfl
  | receive hr hp _ hch hF hcur => rw [hs] at hr; cases hr; rw [hcur] at ht; cases ht; exact .receive hp hch hF rfl
  | heed hr hp _ hch hF hcur => rw [hs] at hr; cases hr; rw [hcur] at ht; cases ht; exact .heed hp hch hF rfl
  | close hr hp hd hF hcur =>
    rw [hs] at hr; cases hr; rw [hcur] at ht; cases ht
    rcases hd with hd | ⟨-, hd⟩
    · exact .close hp hd hF rfl
    · rw [mayReport_of_course hc hp] at hd; cases hd
  | conclude hr hp hF hcur => rw [hs] at hr; cases hr; rw [hcur] at ht; cases ht; exact .conclude hp hF rfl
  | leave _ _ _ hF | abandon _ _ hF | join _ _ _ hF => subst hF; cases ht

theorem Step.ends (h : Step s t m) (hs : s.current = some run) (ht : t.current = none) :
    m = .drive ∧ ((run.phase = .launching [] ∧ run.background = true ∧ t = s.finish run true) ∨
      (run.phase = .closing true ∧
        t = s.finish { run with armed := false, board := run.board.conclude silence } true) ∨
      (run.phase = .joining ∧ (∀ id ∈ run.stages, s.hasEnded id = true) ∧ t = s.finish run false)) := by
  cases h with
  | work _ _ _ hcur | lose _ _ _ _ hcur | vanish _ _ _ hcur => rw [hcur, hs] at ht; cases ht
  | appeal _ _ _ hcur | interrupt _ hcur => rw [hcur, hs] at ht; cases ht
  | report _ _ _ _ _ _ hcur | launch _ _ _ _ hcur | skip _ _ _ _ hcur | collect _ _ _ _ hcur | receive _ _ _ _ _ hcur
  | heed _ _ _ _ _ hcur | close _ _ _ _ hcur | conclude _ _ _ hcur => rw [hcur] at ht; cases ht
  | leave hr hp hb ht' => rw [hs] at hr; cases hr; exact ⟨rfl, .inl ⟨hp, hb, ht'⟩⟩
  | abandon hr hp ht' => rw [hs] at hr; cases hr; exact ⟨rfl, .inr (.inl ⟨hp, ht'⟩)⟩
  | join hr hp hall ht' => rw [hs] at hr; cases hr; exact ⟨rfl, .inr (.inr ⟨hp, hall, ht'⟩)⟩

theorem ready_of_works {f g : Face} (h : Face.Works f g) : f.phase.isReady = false ∧ g.phase.isReady = false := by
  cases h with
  | closed hp =>
    refine ⟨by rw [hp]; rfl, ?_⟩
    show (phaseAfter _ _).isReady = false
    unfold phaseAfter
    split <;> rfl
  | answered _ _ hp | entered hp | shown hp | ready hp => exact ⟨by rw [hp]; rfl, rfl⟩

end Session

namespace Course

variable {F : Faces} {run : Run}

theorem of_set (hc : Course F run) {id : Nat} {f g : Face} (hf : F id = some f)
    (hg : g.phase.isReady = f.phase.isReady) : Course (F.set id g) run where
  waits := hc.waits
  ready := by
    intro j hj f' hf'
    by_cases h : j = id
    · subst h
      rw [Faces.set_self, Option.some.injEq] at hf'
      subst hf'
      rw [hg]
      exact hc.ready j hj f hf
    · rw [Faces.set_ne _ _ h] at hf'
      exact hc.ready j hj f' hf'
  armed := hc.armed
  away := hc.away

theorem of_told (hc : Course F run) : Course F run.told where
  waits := by simpa using hc.waits
  ready := by simpa using hc.ready
  armed := by simpa using hc.armed
  away := by simpa using hc.away

theorem background_eq_false (hc : Course F run) (h : ∀ waiting, run.phase ≠ .launching waiting) :
    run.background = false := by
  by_contra hb
  obtain ⟨waiting, hw⟩ := hc.away (by simpa using hb)
  exact h waiting hw

theorem of_past (hc : Course F run) {run' : Run} (hw : run.waiting = []) (hw' : run'.waiting = [])
    (hs : run'.stages = run.stages) (hb' : run'.background = false) (ha : run'.armed = true ↔ run'.phase ≠ .joining) :
    Course F run' where
  waits := by rw [hw']; exact List.nil_suffix
  ready := by
    intro id hid f hf
    rw [hs] at hid
    rw [hc.ready id hid f hf, hw, hw']
  armed := by rw [ha, hb']; simp
  away := by rw [hb']; intro h; cases h

open Session in
/-- **Every way to go on keeps the course.** -/
theorem step {s t : Session} {m : Move} {run' : Run} (h : Goes s t m run run') (hm : Manned s.seats run.charter)
    (hc : Course s.faces run) : Course t.faces run' := by
  have past : ∀ {phase}, run.phase = phase → (∀ waiting, phase ≠ .launching waiting) →
      run.background = false ∧ run.waiting = [] := by
    intro phase hp hne
    refine ⟨hc.background_eq_false (by rw [hp]; exact hne), ?_⟩
    unfold Run.waiting
    split
    · next hw => rw [hp] at hw; exact absurd hw (hne _)
    · rfl
  cases h with
  | work hf hw hF =>
    obtain ⟨h1, h2⟩ := ready_of_works hw
    rw [hF]; exact hc.of_set hf (h2.trans h1.symm)
  | appeal hf hp hF => rw [hF]; exact (hc.of_set hf (by rw [hp]; rfl)).of_told
  | interrupt hF => rw [hF]; exact hc.of_told
  | @report id f status hf hp _ _ hF =>
    rw [hF]
    have hc := hc.of_set (g := { f with phase := .ended }) hf (by rw [hp]; rfl)
    exact ⟨hc.waits, hc.ready, hc.armed, hc.away⟩
  | fade hf hp _ hF => rw [hF]; exact hc.of_set hf (by rw [hp]; rfl)
  | @launch id waiting f hp hf hF =>
    have hwait : run.waiting = id :: waiting := by rw [Run.waiting, hp]
    have hsuf : id :: waiting <:+ run.stages := hwait ▸ hc.waits
    have hnd : (id :: waiting).Nodup := hm.nodup.sublist hsuf.sublist
    refine ⟨(List.suffix_cons id waiting).trans hsuf, ?_, ?_, fun _ => ⟨waiting, rfl⟩⟩
    · intro j hj g hg
      rw [hF] at hg
      by_cases hji : j = id
      · subst hji
        rw [Faces.set_self, Option.some.injEq] at hg
        subst hg
        refine ⟨fun hr => ?_, fun hin => absurd hin (List.nodup_cons.1 hnd).1⟩
        unfold Phase.launched at hr
        split at hr
        · cases hr
        · next hnot =>
          dsimp only at hr
          cases hph : f.phase with
          | ready program => exact absurd hph (hnot program)
          | running _ | reporting _ _ | sending _ | ended => rw [hph] at hr; cases hr
      · rw [Faces.set_ne _ _ hji] at hg
        rw [hc.ready j hj g hg, hwait, List.mem_cons, or_iff_right hji]
        rfl
    · show run.armed = true ↔ _
      rw [hc.armed, hp]
      simp
  | collect hp hb hF =>
    rw [hF]
    have ha : run.armed = true := hc.armed.2 ⟨hb, by rw [hp]; simp⟩
    exact hc.of_past (by rw [Run.waiting, hp]) rfl rfl hb (by simp [ha])
  | receive hp _ hF | heed hp _ hF | close hp _ hF =>
    rw [hF]
    obtain ⟨hb, hw⟩ := past hp (by simp)
    have ha : run.armed = true := hc.armed.2 ⟨hb, by rw [hp]; simp⟩
    refine hc.of_past hw ?_ rfl hb (by simp [ha, hp])
    simp [Run.waiting, hp]
  | conclude hp hF =>
    rw [hF]
    obtain ⟨hb, hw⟩ := past hp (by simp)
    exact hc.of_past hw rfl rfl hb (by simp)

end Course

namespace Session

theorem course_start {s : Session} {clauses : List Clause} :
    Course (s.start clauses).faces (s.runOf clauses) where
  waits := List.suffix_rfl
  ready := by
    intro id hid f hf
    obtain ⟨k, i, job, -, rfl⟩ := face_of_mem_idsOf hid hf
    exact ⟨fun _ => hid, fun _ => rfl⟩
  armed := by simp [runOf]
  away := fun _ => ⟨_, rfl⟩

/-! ## Along a run -/

variable {s t : Session} {clauses : List Clause} {moves : List Move} {run : Run}

/-- **A run under way has kept its stages, its charter and its course.** -/
theorem underway (hs : s.Dated) (hne : clauses ≠ []) (h : (s.start clauses).play moves = some t)
    (hr : t.current = some run) :
    t.seats = (s.start clauses).seats ∧ run.charter = (s.runOf clauses).charter ∧ Manned t.seats run.charter ∧
      Course t.faces run := by
  have start : ∀ run, (s.start clauses).current = some run → (s.start clauses).seats = (s.start clauses).seats ∧
      run.charter = (s.runOf clauses).charter ∧ Manned (s.start clauses).seats run.charter ∧
      Course (s.start clauses).faces run := by
    intro run hr
    rw [current_start hne] at hr
    cases hr
    exact ⟨rfl, rfl, manned_start hs, course_start⟩
  refine play_induction (P := fun _ t => ∀ run, t.current = some run → t.seats = (s.start clauses).seats ∧
    run.charter = (s.runOf clauses).charter ∧ Manned t.seats run.charter ∧ Course t.faces run) start ?_ h run hr
  intro before u m t _ hu hm run' hr'
  have hstep := step_of_step? hm
  cases hc : u.current with
  | none => rw [hstep.current_eq_none hc] at hr'; cases hr'
  | some run =>
    obtain ⟨hseats, hcharter, hman, hcourse⟩ := hu run hc
    have hch := hstep.charter_eq hc hr'
    rw [hstep.seats_eq, hch]
    exact ⟨hseats, hcharter, hman, hcourse.step (hstep.goes hman hcourse hc hr') hman⟩

theorem rows_of_play (hs : s.Dated) (hne : clauses ≠ []) (h : (s.start clauses).play moves = some t)
    (hr : t.current = some run) :
    run.board.rows.length = clauses.length ∧ ∀ (i : Nat) (clause : Clause), clauses[i]? = some clause →
      ∃ r : Board.Row, run.board.rows[i]? = some r ∧ r.name = clause.name := by
  obtain ⟨-, hcharter, -, -⟩ := underway hs hne h hr
  have hnames : run.board.rows.map Board.Row.name = clauses.map Clause.name :=
    (congrArg Charter.names hcharter).trans (names_boardOf s clauses)
  have hlen := congrArg List.length hnames
  rw [List.length_map, List.length_map] at hlen
  refine ⟨hlen, fun i clause hc => ?_⟩
  have hi : i < run.board.rows.length := hlen ▸ (List.getElem?_eq_some_iff.1 hc).1
  have hrow := List.getElem?_eq_getElem hi
  refine ⟨_, hrow, ?_⟩
  have hname := congrArg (fun names => names[i]?) hnames
  simp only [List.getElem?_map, hrow, hc, Option.map_some, Option.some.injEq] at hname
  exact hname

/-- A move of a run under way after which it is still under way. -/
structure Onward (s t : Session) (m : Move) (run run' : Run) : Prop where
  step : Step s t m
  before : s.current = some run
  after : t.current = some run'
  manned : Manned s.seats run.charter
  course : Course s.faces run
  goes : Goes s t m run run'

theorem Onward.charter {m : Move} {run run' : Run} (h : Onward s t m run run') : run'.charter = run.charter :=
  h.step.charter_eq h.before h.after

/-- **What holds of a run at its start and is kept as it goes on** holds as long as it is under way. -/
theorem run_induction (hs : s.Dated) (hne : clauses ≠ []) {P : List Move → Session → Run → Prop}
    (start : P [] (s.start clauses) (s.runOf clauses))
    (step : ∀ before u m t run run', (s.start clauses).play before = some u → Onward u t m run run' → P before u run →
      P (before ++ [m]) t run')
    (h : (s.start clauses).play moves = some t) (hr : t.current = some run) : P moves t run := by
  refine play_induction (P := fun moves t => ∀ run, t.current = some run → P moves t run) ?_ ?_ h run hr
  · intro run hr
    rw [current_start hne] at hr
    cases hr
    exact start
  · intro before u m t hplay hu hm run' hr'
    have hstep := step_of_step? hm
    cases hc : u.current with
    | none => rw [hstep.current_eq_none hc] at hr'; cases hr'
    | some run =>
      obtain ⟨-, -, hman, hcourse⟩ := underway hs hne hplay hc
      exact step before u m t run run' hplay ⟨hstep, hc, hr', hman, hcourse, hstep.goes hman hcourse hc hr'⟩ (hu run hc)

end Session
end LineShell
