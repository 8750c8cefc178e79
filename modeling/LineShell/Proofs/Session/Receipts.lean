import LineShell.Proofs.Session.Landing
import LineShell.Proofs.Session.Vouching
/-!
# Receipts — reports that are received

A report brings a status and the path of a command.  `Receives` says that whoever drives a run took a report from its
channel.  `Receipts` says along a run that the paths on its board are those that were received, and that every report
is of a stage whose command had come to its end with that status, at that path.
-/
namespace LineShell
namespace Board

/-! ## Receipts on a board -/

def Row.receipt? (r : Row) : Option (Status × String) :=
  match r.status, r.path with
  | some status, some path => some (status, path)
  | _, _ => none

def receipt? (b : Board) (i : Nat) : Option (Status × String) := (b.rows[i]?).bind Row.receipt?

def Tidy (b : Board) : Prop := ∀ r ∈ b.rows, r.status = none → r.path = none

theorem Row.receipt?_of_status {r : Row} (h : r.status = none) : r.receipt? = none := by
  unfold receipt?
  rw [h]

theorem Row.receipt?_of_path {r : Row} (h : r.path = none) : r.receipt? = none := by
  unfold receipt?
  rw [h]
  cases r.status <;> rfl

theorem Row.receipt?_record {r : Row} (h : r.status = none) (status : Status) (path : String) :
    (r.record status (some path)).receipt? = some (status, path) := by
  unfold record
  rw [h]
  rfl

theorem Row.receipt?_record_none (r : Row) (status : Status) : (r.record status none).receipt? = r.receipt? := by
  cases h : r.status with
  | none =>
    rw [receipt?_of_status h, record, h]
    rfl
  | some st => rw [record, h]

theorem Row.receipt?_requestStop (r : Row) : r.requestStop.receipt? = r.receipt? := by
  unfold requestStop
  split <;> rfl

theorem Row.receipt?_conclude {r : Row} (h : r.status = none → r.path = none) (reason : String) :
    (r.conclude reason).receipt? = r.receipt? := by
  cases hst : r.status with
  | none =>
    rw [receipt?_of_path (h hst), conclude, hst]
    exact receipt?_of_path (h hst)
  | some st => rw [conclude, hst]

theorem receipt?_record_ne (b : Board) {index j : Nat} (status : Status) (path : Option String) (h : index ≠ j) :
    (b.record index status path).receipt? j = b.receipt? j := by
  rw [receipt?, getElem?_record, if_neg h, receipt?]

theorem receipt?_record {b : Board} {index : Nat} (hi : index < b.rows.length) (h : b.status? index = none)
    (status : Status) (path : String) :
    (b.record index status (some path)).receipt? index = some (status, path) := by
  rw [status?, List.getElem?_eq_getElem hi] at h
  rw [receipt?, getElem?_record, if_pos rfl, List.getElem?_eq_getElem hi]
  exact Row.receipt?_record h status path

theorem receipt?_record_none (b : Board) (index j : Nat) (status : Status) :
    (b.record index status none).receipt? j = b.receipt? j := by
  rw [receipt?, getElem?_record, receipt?]
  split
  · cases b.rows[j]? with
    | none => rfl
    | some r => exact r.receipt?_record_none status
  · rfl

theorem receipt?_requestStop (b : Board) (j : Nat) : b.requestStop.2.receipt? j = b.receipt? j := by
  simp only [receipt?, requestStop, List.getElem?_map]
  cases b.rows[j]? with
  | none => rfl
  | some r => exact r.receipt?_requestStop

theorem receipt?_conclude {b : Board} (h : b.Tidy) (reason : String) (j : Nat) :
    (b.conclude reason).receipt? j = b.receipt? j := by
  simp only [receipt?, conclude, List.getElem?_map]
  cases hr : b.rows[j]? with
  | none => rfl
  | some r => exact Row.receipt?_conclude (h r (List.mem_of_getElem? hr)) reason

theorem Tidy.record {b : Board} (h : b.Tidy) (index : Nat) (status : Status) (path : Option String) :
    (b.record index status path).Tidy := by
  intro r hr hst
  obtain ⟨j, hj⟩ := List.mem_iff_getElem?.1 hr
  rw [getElem?_record] at hj
  split at hj
  · obtain ⟨r₀, -, rfl⟩ := Option.map_eq_some_iff.1 hj
    rw [Row.status_record] at hst
    cases hst
  · exact h r (List.mem_of_getElem? hj) hst

theorem Tidy.requestStop {b : Board} (h : b.Tidy) : b.requestStop.2.Tidy := by
  intro r hr hst
  obtain ⟨r₀, hr₀, rfl⟩ := List.mem_map.1 hr
  rw [Row.status_requestStop] at hst
  have hpath := h r₀ hr₀ hst
  unfold Row.requestStop
  split <;> exact hpath

theorem tidy_conclude (b : Board) (reason : String) : (b.conclude reason).Tidy := by
  intro r hr hst
  obtain ⟨r₀, -, rfl⟩ := List.mem_map.1 hr
  rw [Row.status_conclude] at hst
  cases hst

/-- **The path to adopt** is the one that a single stage reported, which ended well and was waited for. -/
theorem pathUpdate_eq_some_iff {b : Board} {background : Bool} {path : String} :
    b.pathUpdate background = some path ↔
      background = false ∧ b.rows.length = 1 ∧ ∃ status, b.receipt? 0 = some (status, path) ∧ status.code = .ok := by
  unfold pathUpdate
  split
  · next name state status path' hrows =>
    simp only [receipt?, hrows, List.getElem?_cons_zero, Option.bind_some, Row.receipt?, Status.isOk]
    cases background <;> simp [and_comm]
  · next hrows =>
    simp only [reduceCtorEq, false_iff, not_and]
    rintro - hlen ⟨status, hst, -⟩
    obtain ⟨⟨name, state, st?, path?⟩, hr⟩ := List.length_eq_one_iff.1 hlen
    rw [receipt?, hr, List.getElem?_cons_zero, Option.bind_some, Row.receipt?] at hst
    split at hst
    · next h1 h2 =>
      dsimp only at h1 h2
      subst h1 h2
      exact hrows _ _ _ _ hr
    · cases hst

theorem pathUpdate_conclude {b : Board} (h : b.Tidy) (reason : String) (background : Bool) :
    (b.conclude reason).pathUpdate background = b.pathUpdate background := by
  refine Option.ext fun path => ?_
  rw [pathUpdate_eq_some_iff, pathUpdate_eq_some_iff, receipt?_conclude h, conclude,
    List.length_map]

end Board

namespace Session

variable {s t u start : Session} {clauses : List Clause} {moves before : List Move} {m : Move} {run run' : Run}
  {i : Nat} {status : Status} {path : String}

/-! ## Receipts along a run -/

def Takes (u : Session) (i : Nat) (status : Status) (path : String) : Prop :=
  ∃ run channel, u.current = some run ∧ run.phase = .collecting ∧ run.board.isComplete = false ∧
    run.channel = .finished i status path :: channel

def Receives (s : Session) (moves : List Move) (i : Nat) (status : Status) (path : String) : Prop :=
  ∃ before after u, moves = before ++ .drive :: after ∧ s.play before = some u ∧ u.Takes i status path

/-- The command of the stage at a place of a run has just come to its end. -/
def Finishes (u : Session) (number i : Nat) (status : Status) (path : String) : Prop :=
  ∃ id f outcome, u.faces id = some f ∧ f.run = number ∧ f.index = i ∧ f.phase = .running (.done outcome) ∧
    Status.Of f.name outcome status ∧ path = f.path

theorem takes_iff (hs : s.current = some run) : s.Takes i status path ↔ run.phase = .collecting ∧
    run.board.isComplete = false ∧ ∃ channel, run.channel = .finished i status path :: channel := by
  constructor
  · rintro ⟨run', channel, hr, hp, hd, hch⟩
    rw [hs, Option.some.injEq] at hr
    subst hr
    exact ⟨hp, hd, channel, hch⟩
  · rintro ⟨hp, hd, channel, hch⟩
    exact ⟨run, channel, hs, hp, hd, hch⟩

theorem not_takes_of_none (hs : s.current = none) : ¬ s.Takes i status path := by
  rintro ⟨run, _, hr, -⟩
  rw [hs] at hr
  cases hr

theorem receives_snoc (hu : start.play before = some u) : start.Receives (before ++ [m]) i status path ↔
    start.Receives before i status path ∨ m = .drive ∧ u.Takes i status path := by
  constructor
  · rintro ⟨front, back, v, hm, hv, ht⟩
    rcases List.eq_nil_or_concat back with rfl | ⟨back, last, rfl⟩
    · obtain ⟨rfl, hlast⟩ := List.append_inj' hm rfl
      rw [hu, Option.some.injEq] at hv
      subst hv
      exact .inr ⟨List.singleton_inj.1 hlast, ht⟩
    · rw [List.concat_eq_append, ← List.cons_append, ← List.append_assoc] at hm
      exact .inl ⟨front, back, v, (List.append_inj' hm rfl).1, hv, ht⟩
  · rintro (⟨front, back, v, rfl, hv, ht⟩ | ⟨rfl, ht⟩)
    · exact ⟨front, back ++ [m], v, by rw [List.append_assoc, List.cons_append], hv, ht⟩
    · exact ⟨before, [], u, rfl, hu, ht⟩

/-- **What of a run's reports is known**: those that are due, those on the channel and those on the board. -/
structure Receipts (start : Session) (moves : List Move) (F : Faces) (run : Run) : Prop where
  due : ∀ id f status, F id = some f → f.run = run.number → f.phase.due? = some status →
    start.Passes moves (fun u => u.Finishes run.number f.index status f.path)
  sent : ∀ i status path, .finished i status path ∈ run.channel →
    start.Passes moves (fun u => u.Finishes run.number i status path)
  came : ∀ i status path, start.Receives moves i status path →
    start.Passes moves (fun u => u.Finishes run.number i status path)
  tidy : run.board.Tidy
  filed : ∀ i status path, run.board.receipt? i = some (status, path) ↔ start.Receives moves i status path

namespace Receipts

theorem path_of_works {f g : Face} (h : Face.Works f g) (hst : g.phase.due? = some status) : g.path = f.path := by
  cases h with
  | answered => cases hst
  | entered | closed | shown | ready => rfl

theorem due_of_turns {f g : Face} (hr : Receipts start before s.faces run) (hu : start.play before = some s) {id : Nat}
    (hf : s.faces id = some f) (hturn : Face.Turns f g) (hrun : g.run = run.number) (hst : g.phase.due? = some status) :
    start.Passes (before ++ [m]) (fun u => u.Finishes run.number g.index status g.path) := by
  have kept : f.run = run.number → f.phase.due? = some status →
      start.Passes (before ++ [m]) (fun u => u.Finishes run.number f.index status f.path) :=
    fun hn hd => (hr.due id f status hf hn hd).append [m]
  cases hturn with
  | rest => exact kept hrun hst
  | works hw =>
    have hseat := seat_of_works hw
    have hn : f.run = run.number := (congrArg Seat.run hseat).symm.trans hrun
    rw [show g.index = f.index from congrArg Seat.index hseat, path_of_works hw hst]
    rcases Vouched.due_of_works hw hst with hd | ⟨outcome, hp, rfl⟩
    · exact kept hn hd
    · exact (Passes.last hu ⟨id, f, outcome, hf, hn, rfl, hp, Status.of_ofOutcome _ _, rfl⟩).append [m]
  | appealed | ended => cases hst
  | launched =>
    refine kept hrun ?_
    cases hp : f.phase with
    | ready _ => simp [hp, Phase.launched, Phase.due?] at hst
    | running _ | reporting _ _ | sending _ | ended => simpa [hp, Phase.launched] using hst

theorem next (hr : Receipts start before s.faces run) (hu : start.play before = some s) (h : Onward s t m run run')
    (hsent : ∀ i status path, .finished i status path ∈ run'.channel → .finished i status path ∈ run.channel ∨
      ∃ id f, s.faces id = some f ∧ f.run = run.number ∧ f.phase = .sending status ∧ f.index = i ∧ f.path = path)
    (htidy : run'.board.Tidy)
    (hfiled : ∀ i status path, run'.board.receipt? i = some (status, path) ↔
      run.board.receipt? i = some (status, path) ∨ m = .drive ∧ s.Takes i status path) :
    Receipts start (before ++ [m]) t.faces run' := by
  have hnumber : run'.number = run.number := congrArg Charter.number h.charter
  constructor
  · intro id g status hg hrun hst
    rw [hnumber] at hrun ⊢
    obtain ⟨f, hf, hturn⟩ := h.step.turns hg
    exact hr.due_of_turns hu hf hturn hrun hst
  · intro i status path hmem
    rw [hnumber]
    rcases hsent i status path hmem with hmem | ⟨id, f, hf, hrun, hp, rfl, rfl⟩
    · exact (hr.sent i status path hmem).append [m]
    · exact (hr.due id f status hf hrun (by rw [hp]; rfl)).append [m]
  · intro i status path hrec
    rw [hnumber]
    rcases (receives_snoc hu).1 hrec with hrec | ⟨-, htakes⟩
    · exact (hr.came i status path hrec).append [m]
    · obtain ⟨-, -, channel, hch⟩ := (takes_iff h.before).1 htakes
      exact (hr.sent i status path (by rw [hch]; exact List.mem_cons_self)).append [m]
  · exact htidy
  · intro i status path
    rw [hfiled, receives_snoc hu, hr.filed]

theorem filed_of_eq (hboard : ∀ i, run'.board.receipt? i = run.board.receipt? i)
    (hnot : ∀ i status path, ¬ (m = .drive ∧ s.Takes i status path)) (i : Nat) (status : Status) (path : String) :
    run'.board.receipt? i = some (status, path) ↔
      run.board.receipt? i = some (status, path) ∨ m = .drive ∧ s.Takes i status path := by
  rw [hboard, or_iff_left (hnot i status path)]

theorem open_of_post (h : Onward s t m run run') (hp : Posted s.faces run) (hph : run.phase = .collecting)
    (hpost : (i, status) ∈ run.posts) :
    i < run.board.rows.length ∧ run.board.status? i = none ∧ run.board.isComplete = false := by
  have hlisten : run.listens := ⟨h.course.background_eq_false (by rw [hph]; simp), by rw [hph]; simp⟩
  have hempty : run.board.status? i = none := hp.unfiled hlisten _ hpost
  have hlt : i < run.board.rows.length := hp.index_lt h.manned hpost
  refine ⟨hlt, hempty, ?_⟩
  by_contra hd
  exact (Board.isComplete_iff _).1 (by simpa using hd) i hlt hempty

/-- **Every way to go on keeps the receipts.** -/
theorem step (hr : Receipts start before s.faces run) (hu : start.play before = some s) (h : Onward s t m run run')
    (hp : Posted s.faces run) : Receipts start (before ++ [m]) t.faces run' := by
  have undriven : m ≠ .drive → ∀ i status path, ¬ (m = .drive ∧ s.Takes i status path) := fun hm _ _ _ hd => hm hd.1
  have elsewhere : run.phase ≠ .collecting → ∀ i status path, ¬ (m = .drive ∧ s.Takes i status path) :=
    fun hne _ _ _ hd => hne ((takes_iff h.before).1 hd.2).1
  have told : ∀ i status path, .finished i status path ∈ run.told.channel → .finished i status path ∈ run.channel := by
    intro i status path hmem
    rcases run.channel_told with hch | ⟨-, hch⟩
    · rwa [hch] at hmem
    · rw [hch, List.mem_append, List.mem_singleton] at hmem
      exact hmem.resolve_right nofun
  -- Only a report that is taken from the channel is filed; a mark that a stage was launched is no receipt.
  cases h.goes with
  | work _ _ _ hm | fade _ _ _ _ hm =>
    exact hr.next hu h (fun _ _ _ hmem => .inl hmem) hr.tidy (filed_of_eq (fun _ => rfl) (undriven hm))
  | appeal _ _ _ _ hm | interrupt _ _ hm =>
    refine hr.next hu h (fun i st p hmem => .inl (told i st p hmem)) ?_ (filed_of_eq (fun _ => ?_) (undriven hm))
    · rw [run.told_board]
      exact hr.tidy
    · rw [run.told_board]
  | @report id f st hf hph hrun _ _ hm =>
    refine hr.next hu h (fun i st' p hmem => ?_) hr.tidy (filed_of_eq (fun _ => rfl) (undriven hm))
    rcases List.mem_append.1 hmem with hmem | hmem
    · exact .inl hmem
    · obtain ⟨rfl, rfl, rfl⟩ := Event.finished.inj (List.mem_singleton.1 hmem)
      exact .inr ⟨id, f, hf, hrun, hph, rfl, rfl⟩
  | launch hph =>
    refine hr.next hu h (fun _ _ _ hmem => .inl hmem) ?_ (filed_of_eq (fun j => ?_) (elsewhere (by rw [hph]; simp)))
    · split
      · exact hr.tidy.record _ _ _
      · exact hr.tidy
    · split
      · exact Board.receipt?_record_none _ _ _ _
      · rfl
  | collect hph =>
    exact hr.next hu h (fun _ _ _ hmem => .inl hmem) hr.tidy
      (filed_of_eq (fun _ => rfl) (elsewhere (by rw [hph]; simp)))
  | @receive index st p channel hph hch _ hm =>
    have hpost : (index, st) ∈ run.posts := by rw [Run.posts, hch]; exact List.mem_cons_self
    obtain ⟨hlt, hempty, hopen⟩ := open_of_post h hp hph hpost
    have hnone : run.board.receipt? index = none := by
      rw [Board.status?, List.getElem?_eq_getElem hlt] at hempty
      rw [Board.receipt?, List.getElem?_eq_getElem hlt]
      exact Board.Row.receipt?_of_status hempty
    have htakes : ∀ j st' p', m = .drive ∧ s.Takes j st' p' ↔ index = j ∧ st = st' ∧ p = p' := by
      intro j st' p'
      rw [takes_iff h.before, hch]
      simp [hm, hph, hopen]
    refine hr.next hu h (fun i st' p' hmem => .inl (by rw [hch]; exact List.mem_cons_of_mem _ hmem))
      (hr.tidy.record _ _ _) (fun j st' p' => ?_)
    rw [htakes]
    by_cases hj : index = j
    · subst hj
      rw [Board.receipt?_record hlt hempty, hnone]
      simp
    · rw [Board.receipt?_record_ne _ _ _ hj]
      simp [hj]
  | @heed channel hph hch =>
    refine hr.next hu h (fun i st p hmem => .inl (by rw [hch]; exact List.mem_cons_of_mem _ hmem))
      hr.tidy.requestStop (filed_of_eq run.board.receipt?_requestStop fun i st p hd => ?_)
    obtain ⟨-, -, channel', hch'⟩ := (takes_iff h.before).1 hd.2
    rw [hch] at hch'
    cases hch'
  | close hph hd =>
    refine hr.next hu h (fun _ _ _ hmem => .inl hmem) hr.tidy (filed_of_eq (fun _ => rfl) fun i st p htakes => ?_)
    rw [((takes_iff h.before).1 htakes.2).2.1] at hd
    cases hd
  | conclude hph =>
    exact hr.next hu h (fun _ _ _ hmem => .inl hmem) (Board.tidy_conclude _ _)
      (filed_of_eq (Board.receipt?_conclude hr.tidy silence) (elsewhere (by rw [hph]; simp)))

end Receipts

theorem path_boardOf {r : Board.Row} (hr : r ∈ (s.boardOf clauses).rows) : r.path = none := by
  obtain ⟨j, hj⟩ := List.mem_iff_getElem?.1 hr
  rw [getElem?_boardOf, Option.map_eq_some_iff] at hj
  obtain ⟨clause, -, rfl⟩ := hj
  cases (s.preparedOf clauses)[j]? with
  | none => rfl
  | some p => cases p <;> rfl

theorem not_receives_nil : ¬ s.Receives [] i status path := by
  rintro ⟨before, after, u, hm, -⟩
  exact absurd hm (by simp)

theorem receipts_start (hs : s.Dated) :
    Receipts (s.start clauses) [] (s.start clauses).faces (s.runOf clauses) where
  due := by
    intro id f status hf hrun hst
    obtain ⟨-, hf⟩ | ⟨k, i, job, -, -, rfl⟩ := faces_start_cases hf
    · exact absurd hrun (Nat.ne_of_lt (hs id f.seat (seats_of_faces hf)))
    · cases hst
  sent := fun _ _ _ hmem => absurd hmem List.not_mem_nil
  came := fun _ _ _ hrec => absurd hrec not_receives_nil
  tidy := fun _ hr _ => path_boardOf hr
  filed := by
    intro i status path
    refine iff_of_false (fun hrec => ?_) not_receives_nil
    obtain ⟨r, hr, hrec⟩ := Option.bind_eq_some_iff.1 hrec
    rw [Board.Row.receipt?_of_path (path_boardOf (List.mem_of_getElem? hr))] at hrec
    cases hrec

theorem receipts_of_play (hs : s.Dated) (hne : clauses ≠ []) (h : (s.start clauses).play moves = some t)
    (hr : t.current = some run) : Receipts (s.start clauses) moves t.faces run :=
  run_induction (P := fun moves t run => Receipts (s.start clauses) moves t.faces run) hs hne (receipts_start hs)
    (fun _ _ _ _ _ _ hu hon hrec => hrec.step hu hon (posted_of_play hs hne hu hon.before)) h hr

end Session
end LineShell
