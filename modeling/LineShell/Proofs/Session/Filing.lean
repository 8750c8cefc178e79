import LineShell.Proofs.Session.Reports
/-!
# Filing — how the board of a run fills up

`Filed` says which rows of a board may be empty, and that none is once the run is closed without an interrupt.  `Heard`
says that the report of an ended stage is on the channel or on the board, unless the stage vanished; so a run waits for
nothing but its commands (`waits_for`).  How often a run can be driven on at all is bounded by `Run.left`.
-/
namespace LineShell

/-- The stages whose rows may be empty. -/
def Run.owing (run : Run) : List Nat := if run.background then run.waiting else run.stages

@[simp] theorem Run.owing_told (run : Run) : run.told.owing = run.owing := by simp [owing]

theorem Run.owing_of_front {run : Run} (h : run.background = false) : run.owing = run.stages := by simp [owing, h]

/-- **Which rows are empty, and how they are marked.** -/
structure Filed (seats : Nat → Option Seat) (run : Run) : Prop where
  state : ∀ (i : Nat) (r : Board.Row), run.board.rows[i]? = some r → r.status = none →
    r.state = if run.phase = .closing true then .stopRequested else .running
  full : run.phase = .closing false ∨ run.phase = .joining → run.board.isComplete = true
  owed : ∀ i, i < run.board.rows.length → run.board.status? i = none →
    ∃ id ∈ run.owing, ∃ seat, seats id = some seat ∧ seat.index = i

theorem Run.length_rows {seats : Nat → Option Seat} {run : Run} (hm : Manned seats run.charter) :
    run.board.rows.length = run.capacity := by
  have h := hm.capacity
  rw [show run.charter.names = run.board.rows.map Board.Row.name from rfl, List.length_map] at h
  exact h.symm

namespace Filed

variable {s t : Session} {m : Move} {run run' : Run} {seats : Nat → Option Seat}

theorem of_eq (hf : Filed seats run) (hboard : run'.board = run.board) (hphase : run'.phase = run.phase)
    (howing : run'.owing = run.owing) : Filed seats run' where
  state := by rw [hboard, hphase]; exact hf.state
  full := by rw [hboard, hphase]; exact hf.full
  owed := by rw [hboard, howing]; exact hf.owed

theorem of_record (hf : Filed seats run) (index : Nat) (status : Status) (path : Option String)
    (hopen : ∀ interrupted, run.phase ≠ .closing interrupted) (hopen' : ∀ interrupted, run'.phase ≠ .closing interrupted)
    (hjoin : run'.phase ≠ .joining) (hboard : run'.board = run.board.record index status path)
    (howing : ∀ id ∈ run.owing, id ∈ run'.owing ∨ ∀ seat, seats id = some seat → seat.index = index) :
    Filed seats run' where
  state := by
    intro i r hr hst
    rw [hboard, Board.getElem?_record] at hr
    have hrun : r.state = if run.phase = .closing true then .stopRequested else .running := by
      split at hr
      · obtain ⟨r₀, -, rfl⟩ := Option.map_eq_some_iff.1 hr
        rw [Board.Row.status_record] at hst
        cases hst
      · exact hf.state i r hr hst
    rw [hrun, if_neg (hopen true), if_neg (hopen' true)]
  full := fun h => absurd h (not_or.2 ⟨hopen' false, hjoin⟩)
  owed := by
    intro i hi hst
    have hlen : run'.board.rows.length = run.board.rows.length := by rw [hboard, Board.record, List.length_modify]
    rw [hlen] at hi
    rw [hboard] at hst
    have hne : index ≠ i := by
      rintro rfl
      rw [Board.status?_record_self _ _ _ hi] at hst
      cases hst
    rw [Board.status?_record_ne _ _ _ hne] at hst
    obtain ⟨id, hid, seat, hseat, hindex⟩ := hf.owed i hi hst
    rcases howing id hid with hid | hid
    · exact ⟨id, hid, seat, hseat, hindex⟩
    · exact absurd ((hid seat hseat).symm.trans hindex) hne

/-- **Every way to go on keeps the board in order.** -/
theorem step (h : Session.Onward s t m run run') (hf : Filed s.seats run) : Filed t.seats run' := by
  obtain ⟨hstep, -, -, -, hc, h⟩ := h
  rw [hstep.seats_eq]
  cases h with
  | work | fade => exact hf
  | appeal | interrupt => exact hf.of_eq run.told_board run.told_phase run.owing_told
  | report => exact hf.of_eq rfl rfl rfl
  | @launch id waiting f hp hid =>
    by_cases hb : run.background = true
    · refine hf.of_record f.index ⟨.ok, f.name, none⟩ none (by rw [hp]; simp) (by simp) (by simp) (by rw [hb]; rfl) ?_
      intro id' hid'
      rw [Run.owing, hb, if_pos rfl, Run.waiting, hp] at hid'
      rcases List.mem_cons.1 hid' with rfl | hid'
      · refine .inr (fun seat hseat => ?_)
        rw [Session.seats_of_faces hid] at hseat
        cases hseat
        rfl
      · exact .inl (by rw [Run.owing]; simp only [hb, if_true]; exact hid')
    · have hb : run.background = false := by simpa using hb
      constructor
      · simp only [hb, Bool.false_eq_true, if_false, reduceCtorEq]
        intro i r hr hst
        rw [hf.state i r hr hst, hp]
        rfl
      · simp
      · simp only [hb, Bool.false_eq_true, if_false]
        intro i hi hst
        obtain ⟨id', hid', seat, hseat, hindex⟩ := hf.owed i hi hst
        rw [Run.owing_of_front hb] at hid'
        exact ⟨id', hid', seat, hseat, hindex⟩
  | collect hp hb =>
    constructor
    · intro i r hr hst
      rw [hf.state i r hr hst, hp]
      simp
    · simp
    · intro i hi hst
      have h := hf.owed i hi hst
      rw [Run.owing_of_front hb] at h
      rwa [Run.owing_of_front (by exact hb)]
  | receive hp =>
    refine hf.of_record _ _ _ (by rw [hp]; simp) (by rw [hp]; simp) (by rw [hp]; simp) rfl (fun id hid => .inl ?_)
    rwa [Run.owing, Run.waiting] at hid ⊢
  | heed hp =>
    have hb := hc.background_eq_false (by rw [hp]; simp)
    constructor
    · intro i r hr hst
      simp only [Board.requestStop, List.getElem?_map, Option.map_eq_some_iff] at hr
      obtain ⟨r, hr, rfl⟩ := hr
      rw [Board.Row.status_requestStop] at hst
      have hstate : r.state = .running := by
        rw [hf.state i r hr hst, hp]
        rfl
      rw [Board.Row.requestStop, if_pos hstate, if_pos rfl]
    · simp
    · intro i hi hst
      have hi : i < run.board.rows.length := by simpa [Board.requestStop] using hi
      have h := hf.owed i hi (by rwa [Board.status?_requestStop] at hst)
      rw [Run.owing_of_front hb] at h
      rwa [Run.owing_of_front (by exact hb)]
  | close hp hd =>
    have hb := hc.background_eq_false (by rw [hp]; simp)
    constructor
    · intro i r hr hst
      rw [hf.state i r hr hst, hp]
      simp
    · exact fun _ => hd
    · intro i hi hst
      exact absurd hst ((Board.isComplete_iff _).1 hd i hi)
  | conclude hp =>
    have hd := run.board.isComplete_conclude Session.silence
    constructor
    · intro i r hr hst
      refine absurd ?_ ((Board.isComplete_iff _).1 hd i (List.getElem?_eq_some_iff.1 hr).1)
      rw [Board.status?, hr]
      exact hst
    · exact fun _ => hd
    · intro i hi hst
      exact absurd hst ((Board.isComplete_iff _).1 hd i hi)

end Filed

namespace Session

variable {s : Session} {clauses : List Clause}

theorem filed_start : Filed (s.start clauses).seats (s.runOf clauses) where
  state := by
    intro i r hr hst
    rw [show (s.runOf clauses).board = s.boardOf clauses from rfl, getElem?_boardOf, Option.map_eq_some_iff] at hr
    obtain ⟨clause, -, rfl⟩ := hr
    cases hp : (s.preparedOf clauses)[i]? with
    | none => rfl
    | some p =>
      cases p with
      | ok job => rfl
      | error status => rw [hp] at hst; cases hst
  full := by simp [runOf]
  owed := by
    intro i hi hst
    have hi : i < clauses.length := length_boardOf s clauses ▸ hi
    have hi' : i < (s.preparedOf clauses).length := by rwa [length_preparedOf]
    have hprep := List.getElem?_eq_getElem hi'
    rw [show (s.runOf clauses).board = s.boardOf clauses from rfl, Board.status?, getElem?_boardOf,
      List.getElem?_eq_getElem hi, hprep] at hst
    cases hp : (s.preparedOf clauses)[i] with
    | error status => rw [hp] at hst; cases hst
    | ok job =>
      rw [hp] at hprep
      obtain ⟨k, hk, hjob⟩ := List.getElem_of_mem (mem_jobsOf.2 hprep)
      have hid : k + s.stages.size ∈ s.idsOf clauses := mem_idsOf.2 ⟨k, hk, rfl⟩
      refine ⟨k + s.stages.size, ?_, _, seats_start_of_job (by rw [List.getElem?_eq_getElem hk, hjob]), rfl⟩
      rw [Run.owing]
      split <;> exact hid

theorem filed_of_play {t : Session} {moves : List Move} {run : Run} (hs : s.Dated) (hne : clauses ≠ [])
    (h : (s.start clauses).play moves = some t) (hr : t.current = some run) : Filed t.seats run :=
  run_induction (P := fun _ t run => Filed t.seats run) hs hne filed_start
    (fun _ _ _ _ _ _ _ hon hf => hf.step hon) h hr

end Session

/-! ## Going on to the end -/

/-- **The report of a stage that has ended is on the channel or on the board.** -/
def Heard (F : Faces) (run : Run) : Prop :=
  run.listens → ∀ id ∈ run.stages, ∀ f, F id = some f → f.phase.isEnded = true →
    run.board.status? f.index ≠ none ∨ ∃ st, (f.index, st) ∈ run.posts

namespace Heard

variable {s t : Session} {m : Move} {run run' : Run}

theorem of_eq (hh : Heard s.faces run)
    (hF : ∀ id ∈ run.stages, ∀ f, t.faces id = some f → f.phase.isEnded = true → s.faces id = some f)
    (hstages : run'.stages = run.stages) (hposts : run'.posts = run.posts)
    (hboard : run'.listens → run.listens ∧ ∀ j, run'.board.status? j = run.board.status? j) : Heard t.faces run' := by
  intro hl id hid f hf he
  obtain ⟨hl, hb⟩ := hboard hl
  rw [hstages] at hid
  rw [hb, hposts]
  exact hh hl id hid f (hF id hid f hf he) he

theorem of_set {F F' : Faces} {id : Nat} {g : Face} (ht : F' = F.set id g) (hg : g.phase.isEnded = false) (j : Nat)
    (f : Face) (hf : F' j = some f) (he : f.phase.isEnded = true) : F j = some f := by
  have hne : j ≠ id := by
    rintro rfl
    rw [ht, Faces.set_self, Option.some.injEq] at hf
    subst hf
    rw [hg] at he
    cases he
  rwa [ht, Faces.set_ne _ _ hne] at hf

open Session in
/-- **Reports are not lost** where no stage vanishes. -/
theorem step (h : Onward s t m run run') (hv : ∀ id, m ≠ .vanish id) (hh : Heard s.faces run) :
    Heard t.faces run' := by
  obtain ⟨hstep, -, -, hm, -, h⟩ := h
  have same : t.faces = s.faces → ∀ id ∈ run.stages, ∀ f, t.faces id = some f → f.phase.isEnded = true →
      s.faces id = some f := fun h id _ f hf _ => h ▸ hf
  cases h with
  | work hf hw hF =>
    exact hh.of_eq (fun j _ => of_set hF (ended_of_works hw).2 j) rfl rfl (fun hl => ⟨hl, fun _ => rfl⟩)
  | appeal hf hph hF =>
    refine hh.of_eq (fun j _ => of_set hF rfl j) run.told_stages run.posts_told (fun hl => ?_)
    rw [Run.told_board]
    exact ⟨by simpa [Run.listens] using hl, fun _ => rfl⟩
  | interrupt hF =>
    refine hh.of_eq (same hF) run.told_stages run.posts_told (fun hl => ?_)
    rw [Run.told_board]
    exact ⟨by simpa [Run.listens] using hl, fun _ => rfl⟩
  | @report id f status hf hph hn _ hF =>
    intro hl j hj g hg he
    have hposts : Run.posts { run with channel := run.channel ++ [.finished f.index status f.path] } =
        run.posts ++ [(f.index, status)] := by
      rw [Run.posts, List.filterMap_append]
      rfl
    rw [hposts]
    by_cases hji : j = id
    · subst hji
      rw [hF, Faces.set_self, Option.some.injEq] at hg
      subst hg
      exact .inr ⟨status, List.mem_append_right _ (List.mem_singleton.2 rfl)⟩
    · rw [hF, Faces.set_ne _ _ hji] at hg
      rcases hh hl j hj g hg he with hb | ⟨st, hst⟩
      · exact .inl hb
      · exact .inr ⟨st, List.mem_append_left _ hst⟩
  | @fade id f status hf hph hlost hF =>
    refine hh.of_eq (fun j hj g hg he => ?_) rfl rfl (fun hl => ⟨hl, fun _ => rfl⟩)
    have hne : j ≠ id := by
      rintro rfl
      rcases hlost with hlost | hlost
      · exact hv _ hlost
      · obtain ⟨seat, hseat, hrun, -⟩ := hm.seat _ hj
        rw [seats_of_faces hf, Option.some.injEq] at hseat
        subst hseat
        exact hlost hrun
    rwa [hF, Faces.set_ne _ _ hne] at hg
  | @launch id waiting f hph hf hF =>
    refine hh.of_eq (fun j _ g hg he => ?_) rfl rfl (fun hl => ?_)
    · by_cases hji : j = id
      · subst hji
        have hgf := hg
        rw [hF, Faces.set_self, Option.some.injEq] at hgf
        subst hgf
        have hf' : f.phase.isEnded = true := f.phase.isEnded_launched ▸ he
        rw [hf, ← hg, hstep.faces_of_ended hf hf']
      · rwa [hF, Faces.set_ne _ _ hji] at hg
    · have hb : run.background = false := hl.1
      exact ⟨⟨hb, by rw [hph]; simp⟩, fun _ => by rw [hb]; rfl⟩
  | collect hph hb hF =>
    exact hh.of_eq (same hF) rfl rfl (fun _ => ⟨⟨hb, by rw [hph]; simp⟩, fun _ => rfl⟩)
  | @receive index status path channel hph hch hF =>
    have hposts : run.posts = (index, status) :: channel.filterMap Event.post? := by rw [Run.posts, hch]; rfl
    intro hl j hj g hg he
    rw [hF] at hg
    rcases hh hl j hj g hg he with hb | ⟨st, hst⟩
    · obtain ⟨st, hst⟩ := Option.ne_none_iff_exists'.1 hb
      refine .inl ?_
      rw [Board.status?_record_of_eq_some _ _ _ hst]
      simp
    · rw [hposts] at hst
      rcases List.mem_cons.1 hst with heq | hst
      · cases heq
        refine .inl ?_
        rw [Board.status?_record_self _ _ _ (hm.index_lt hj hg)]
        simp
      · exact .inr ⟨st, hst⟩
  | @heed channel hph hch hF =>
    have hposts : run.posts = channel.filterMap Event.post? := by rw [Run.posts, hch]; rfl
    exact hh.of_eq (same hF) rfl hposts.symm (fun hl => ⟨⟨hl.1, by rw [hph]; simp⟩, run.board.status?_requestStop⟩)
  | close hph _ hF =>
    exact hh.of_eq (same hF) rfl rfl (fun hl => ⟨⟨hl.1, by rw [hph]; simp⟩, fun _ => rfl⟩)
  | conclude => exact fun hl => absurd rfl hl.2

end Heard

/-- No stage is at work once a run that was not interrupted waits for its stages to end. -/
def Joined (F : Faces) (run : Run) : Prop :=
  run.phase = .joining → ∀ id ∈ run.stages, ∀ f, F id = some f → f.phase.isEnded = true

open Session in
theorem Joined.step {s t : Session} {m : Move} {run run' : Run} (h : Onward s t m run run') (hf : Filed s.seats run)
    (hp : Posted s.faces run) (hj : Joined s.faces run) : Joined t.faces run' := by
  obtain ⟨hstep, -, -, hm, hc, h⟩ := h
  have same : run'.phase = run.phase → run'.stages = run.stages → Joined t.faces run' := by
    intro hphase hstages hjoin id hid g hg
    by_contra he
    obtain ⟨f, hf, -, he⟩ := hstep.faces_of_not_ended hg (by simpa using he)
    rw [hj (hphase ▸ hjoin) id (hstages ▸ hid) f hf] at he
    cases he
  cases h with
  | work | report | fade => exact same rfl rfl
  | appeal | interrupt => exact same run.told_phase run.told_stages
  | receive hph => exact same rfl rfl
  | launch | collect | heed | close => exact nofun
  | conclude hph hF =>
    intro _ id hid f hface
    rw [hF] at hface
    by_contra he
    have hb := hc.background_eq_false (by rw [hph]; simp)
    have hnone := hp.fresh ⟨hb, by rw [hph]; simp⟩ id hid f hface (by simpa using he)
    exact (Board.isComplete_iff _).1 (hf.full (.inl hph)) f.index (hm.index_lt hid hface) hnone

/-- How many more moves a phase is good for. -/
def RunPhase.left : RunPhase → Nat
  | launching waiting => waiting.length + 4
  | collecting => 3
  | closing _ => 2
  | joining => 1

def Run.left (run : Run) : Nat := run.phase.left + if run.background then 0 else run.board.missing

@[simp] theorem Run.left_told (run : Run) : run.told.left = run.left := by simp [left]

theorem Run.left_pos (run : Run) : 1 ≤ run.left := by
  unfold left RunPhase.left
  split <;> omega

namespace Session

variable {s t : Session} {m : Move} {run run' : Run} {clauses : List Clause} {moves : List Move}

/-- **Driving a run on brings it nearer to its end**, and nothing else takes it away from there. -/
theorem Onward.left_le (h : Onward s t m run run') (hp : Posted s.faces run) :
    run'.left + (if m = .drive then 1 else 0) ≤ run.left := by
  obtain ⟨-, -, -, hm, hc, h⟩ := h
  cases h with
  | work _ _ _ hd | fade _ _ _ _ hd => rw [if_neg hd]; exact Nat.le_refl _
  | appeal _ _ _ _ hd | interrupt _ _ hd => rw [if_neg hd, Run.left_told]; exact Nat.le_refl _
  | report _ _ _ _ _ hd => rw [if_neg hd]; exact Nat.le_refl _
  | launch hph _ _ hd =>
    rw [if_pos hd, Run.left, Run.left, hph]
    by_cases hb : run.background = true
    · simp only [hb, if_true, RunPhase.left, List.length_cons]
      omega
    · simp only [hb, Bool.false_eq_true, if_false, RunPhase.left, List.length_cons]
      omega
  | collect hph hb _ hd =>
    simp only [if_pos hd, Run.left, hph, hb, RunPhase.left, List.length_nil]
    omega
  | @receive index status path channel hph hch _ hd =>
    have hb := hc.background_eq_false (by rw [hph]; simp)
    have hmem : (index, status) ∈ run.posts := by rw [Run.posts, hch]; exact List.mem_cons_self
    have hnone := hp.unfiled ⟨hb, by rw [hph]; simp⟩ _ hmem
    have hmiss := Board.missing_record status (some path) (hp.index_lt hm hmem) hnone
    simp only [if_pos hd, Run.left, hph, hb, RunPhase.left, Bool.false_eq_true, if_false]
    omega
  | heed hph _ _ hd =>
    have hb := hc.background_eq_false (by rw [hph]; simp)
    simp only [if_pos hd, Run.left, hph, hb, RunPhase.left, Bool.false_eq_true, if_false, Board.missing_requestStop]
    omega
  | close hph _ _ hd =>
    simp only [if_pos hd, Run.left, hph, RunPhase.left]
    omega
  | conclude hph _ hd =>
    have hmiss := Board.missing_of_isComplete (run.board.isComplete_conclude silence)
    simp only [if_pos hd, Run.left, hph, RunPhase.left, hmiss]
    split <;> omega

theorem stuck_cases (hr : s.current = some run) (h : s.drive? = none) :
    (run.phase = .collecting ∧ run.channel = [] ∧ run.board.isComplete = false) ∨
      (run.phase = .joining ∧ ∃ id ∈ run.stages, s.hasEnded id = false) := by
  unfold drive? at h
  rw [hr] at h
  dsimp only at h
  cases hp : run.phase with
  | launching waiting =>
    rw [hp] at h
    cases waiting with
    | cons id waiting => cases h
    | nil => dsimp only at h; split at h <;> cases h
  | closing interrupted => rw [hp] at h; dsimp only at h; split at h <;> cases h
  | joining =>
    rw [hp] at h
    dsimp only at h
    split at h
    · cases h
    · next hall =>
      rw [List.all_eq_true] at hall
      simp only [not_forall, Bool.not_eq_true] at hall
      obtain ⟨id, hid, he⟩ := hall
      exact .inr ⟨rfl, id, hid, he⟩
  | collecting =>
    rw [hp] at h
    dsimp only at h
    split at h
    · cases h
    · next hd =>
      cases hch : run.channel with
      | cons e channel => rw [hch] at h; cases e <;> cases h
      | nil => exact .inl ⟨rfl, rfl, by simpa using hd⟩

theorem advance?_ne_none_of_due (hr : s.current = some run) (hch : run.channel = []) (hcap : 0 < run.capacity)
    {id : Nat} {f : Face} (hf : s.faces id = some f) {status : Status}
    (hp : f.phase = .sending status ∨ ∃ pieces, f.phase = .reporting pieces status) (most : Nat) :
    s.advance? id most ≠ none := by
  obtain ⟨stage, hs, rfl⟩ := faces_eq_some.1 hf
  unfold advance?
  rw [hs]
  rcases hp with hp | ⟨pieces, hp⟩
  · have hp : stage.phase = .sending status := hp
    dsimp only
    rw [hp]
    dsimp only
    unfold send?
    rw [hr]
    dsimp only
    split
    · exact nofun
    · rw [hch, if_pos (by simpa using hcap)]
      exact nofun
  · have hp : stage.phase = .reporting pieces status := hp
    dsimp only
    rw [hp]
    cases pieces <;> exact nofun

/-- **A run that cannot be driven on waits for a command that is at work**, or for a report that can be given, if no
report was lost. -/
theorem waits_for (hr : s.current = some run) (hc : Course s.faces run) (hf : Filed s.seats run)
    (hh : Heard s.faces run) (hj : Joined s.faces run) (hcap : 0 < run.capacity) (h : s.drive? = none) :
    ∃ id ∈ run.stages, (∃ f program, s.faces id = some f ∧ f.phase = .running program) ∨
      ∀ most, s.advance? id most ≠ none := by
  rcases stuck_cases hr h with ⟨hp, hch, hd⟩ | ⟨hp, id, hid, he⟩
  · have hb := hc.background_eq_false (by rw [hp]; simp)
    obtain ⟨i, hi, hnone⟩ : ∃ i, i < run.board.rows.length ∧ run.board.status? i = none := by
      by_contra hall
      simp only [not_exists, not_and] at hall
      rw [(Board.isComplete_iff _).2 hall] at hd
      cases hd
    obtain ⟨id, hid, seat, hseat, hindex⟩ := hf.owed i hi hnone
    rw [Run.owing_of_front hb] at hid
    obtain ⟨f, hface, rfl⟩ := Option.map_eq_some_iff.1 hseat
    refine ⟨id, hid, ?_⟩
    cases hph : f.phase with
    | ready program =>
      have hw := (hc.ready id hid f hface).1 (by rw [hph]; rfl)
      rw [Run.waiting, hp] at hw
      cases hw
    | running program => exact .inl ⟨f, program, hface, hph⟩
    | reporting pieces status => exact .inr (advance?_ne_none_of_due hr hch hcap hface (.inr ⟨pieces, hph⟩))
    | sending status => exact .inr (advance?_ne_none_of_due hr hch hcap hface (.inl hph))
    | ended =>
      have hindex : f.index = i := hindex
      rcases hh ⟨hb, by rw [hp]; simp⟩ id hid f hface (by rw [hph]; rfl) with hst | ⟨st, hst⟩
      · exact absurd (hindex ▸ hnone) hst
      · rw [Run.posts, hch] at hst
        cases hst
  · rw [hasEnded_eq] at he
    cases hface : s.faces id with
    | none => rw [hface] at he; cases he
    | some f =>
      rw [hface] at he
      have := hj hp id hid f hface
      rw [Option.all_some, this] at he
      cases he

theorem heard_start : Heard (s.start clauses).faces (s.runOf clauses) := by
  intro _ id hid f hf he
  obtain ⟨k, i, job, -, rfl⟩ := face_of_mem_idsOf hid hf
  cases he

theorem heard_of_play (hs : s.Dated) (hne : clauses ≠ []) (hv : ∀ id, .vanish id ∉ moves)
    (h : (s.start clauses).play moves = some t) (hr : t.current = some run) : Heard t.faces run := by
  refine run_induction (P := fun moves t run => (∀ id, .vanish id ∉ moves) → Heard t.faces run) hs hne
    (fun _ => heard_start) (fun before u m t run run' _ hon hh hv => ?_) h hr hv
  simp only [List.mem_append, List.mem_singleton, not_or] at hv
  exact (hh (fun id => (hv id).1)).step hon (fun id hm => (hv id).2 hm.symm)

theorem joined_of_play (hs : s.Dated) (hne : clauses ≠ [])
    (h : (s.start clauses).play moves = some t) (hr : t.current = some run) : Joined t.faces run :=
  run_induction (P := fun _ t run => Joined t.faces run) hs hne (fun hp => nomatch hp)
    (fun _ _ _ _ _ _ hu hon hj =>
      hj.step hon (filed_of_play hs hne hu hon.before) (posted_of_play hs hne hu hon.before)) h hr

def Busy (s : Session) (ids : List Nat) : Prop :=
  ∃ id ∈ ids, (∃ f program, s.faces id = some f ∧ f.phase = .running program) ∨ ∀ most, s.advance? id most ≠ none

theorem busy_of_stuck (hs : s.Dated) (hne : clauses ≠ []) (h : (s.start clauses).play moves = some t)
    (hheard : ∀ run, t.current = some run → Heard t.faces run) (hunder : t.current ≠ none) (hstuck : t.drive? = none) :
    t.Busy (s.idsOf clauses) := by
  obtain ⟨run, hr⟩ := Option.ne_none_iff_exists'.1 hunder
  obtain ⟨-, hcharter, -, hcourse⟩ := underway hs hne h hr
  have hstages : run.stages = s.idsOf clauses := congrArg Charter.stages hcharter
  have hcap : run.capacity = clauses.length := congrArg Charter.capacity hcharter
  rw [← hstages]
  exact waits_for hr hcourse (filed_of_play hs hne h hr) (hheard run hr) (joined_of_play hs hne h hr)
    (hcap ▸ List.length_pos_iff.2 hne) hstuck

/-- **A run without stages is driven on to its end.** -/
theorem drive?_of_idsOf (hs : s.Dated) (hne : clauses ≠ []) (hids : s.idsOf clauses = [])
    (h : (s.start clauses).play moves = some t) (hunder : t.current ≠ none) : t.drive? ≠ none := by
  intro hstuck
  have heard : ∀ run, t.current = some run → Heard t.faces run := by
    intro run hr _ id hid
    obtain ⟨-, hcharter, -, -⟩ := underway hs hne h hr
    rw [show run.stages = s.idsOf clauses from congrArg Charter.stages hcharter, hids] at hid
    cases hid
  obtain ⟨id, hid, -⟩ := busy_of_stuck hs hne h heard hunder hstuck
  rw [hids] at hid
  cases hid

theorem left_start (s : Session) (clauses : List Clause) : (s.runOf clauses).left ≤ 2 * clauses.length + 4 := by
  have hids : (s.idsOf clauses).length ≤ clauses.length := by
    rw [idsOf, List.length_map, List.length_range]
    exact length_jobsOf_le s clauses
  have hrows := length_boardOf s clauses
  have hmiss := (s.boardOf clauses).missing_le
  show (s.idsOf clauses).length + 4 + (if _ then 0 else (s.boardOf clauses).missing) ≤ _
  split <;> omega

/-- How often the run under way, if there is one, will be driven on at most. -/
def left (s : Session) : Nat := s.current.elim 0 Run.left

/-- **A move of a run brings it nearer to its end** if it drives it on, and never takes it away from there. -/
theorem left_step (hs : s.Dated) (hne : clauses ≠ []) (h : (s.start clauses).play moves = some t) {m : Move} {v : Session}
    (hm : t.step? m = some v) : v.left + (if m = .drive then 1 else 0) ≤ t.left := by
  have hstep := step_of_step? hm
  cases hr : t.current with
  | none =>
    have hd : m ≠ .drive := by
      rintro rfl
      simp only [step?, drive?, hr] at hm
      cases hm
    rw [left, left, hr, hstep.current_eq_none hr, if_neg hd]
    exact Nat.le_refl _
  | some run =>
    cases hr' : v.current with
    | none =>
      have hpos := Run.left_pos run
      rw [left, left, hr, hr', (hstep.ends hr hr').1, if_pos rfl]
      exact (Nat.zero_add 1).symm ▸ hpos
    | some run' =>
      obtain ⟨-, -, hman, hcourse⟩ := underway hs hne h hr
      rw [left, left, hr, hr']
      exact Onward.left_le ⟨hstep, hr, hr', hman, hcourse, hstep.goes hman hcourse hr hr'⟩ (posted_of_play hs hne h hr)

/-- **A run is driven on only so often.** -/
theorem count_drive_le (hs : s.Dated) (hne : clauses ≠ []) (h : (s.start clauses).play moves = some t) :
    moves.count .drive ≤ 2 * clauses.length + 4 := by
  have hle : moves.count .drive + t.left ≤ (s.start clauses).left := by
    refine play_induction (P := fun moves t => moves.count .drive + t.left ≤ (s.start clauses).left) (by simp) ?_ h
    intro before u m v hu ih hm
    have hleft := left_step hs hne hu hm
    rw [List.count_append, List.count_singleton]
    simp only [beq_iff_eq]
    omega
  have hstart : (s.start clauses).left = (s.runOf clauses).left := by
    rw [left, current_start hne]
    rfl
  have := left_start s clauses
  omega

end Session
end LineShell
