import LineShell.Proofs.Session.Vouching
/-!
# Cut — what an interrupt settles

The first interrupt that reaches a run some stage of which has not reported yet decides all its statuses: the channel
has room for it, a stage whose report came before it keeps its status, and every other one is reported as interrupted,
whatever comes afterwards (`interrupt_cuts`).  What a run knows of its stages (`Run.known`) is what stands on the board
or waits on the channel; the invariant `Cut` freezes it from the interrupt to the end of the run.
-/
namespace LineShell

/-- The status that a run knows of a stage, on the board or on the channel. -/
def Run.known (run : Run) (i : Nat) : Option Status := (run.board.status? i).or (run.posts.lookup i)

theorem Run.known_told (run : Run) : run.told.known = run.known := by
  funext i
  simp [known]

/-- **What a run reports after an interrupt** for which it knew `K`: the interrupt is on the channel, behind the reports
that count, or it has been taken from there. -/
inductive Cut (K : Nat → Option Status) (run : Run) : Prop
  | told (front back : List Event) :
      run.channel = front ++ .interrupt :: back → .interrupt ∉ front →
      (∃ waiting, run.phase = .launching waiting) ∨ run.phase = .collecting →
      (∀ i, (run.board.status? i).or ((front.filterMap Event.post?).lookup i) = K i) → Cut K run
  | heeded : run.phase = .closing true → (∀ i, run.board.status? i = K i) → Cut K run

namespace Cut

variable {s t : Session} {m : Move} {run run' : Run} {K : Nat → Option Status}

theorem of_append (hc : Cut K run) (more : List Event) (hchannel : run'.channel = run.channel ++ more)
    (hboard : run'.board = run.board) (hphase : run'.phase = run.phase) : Cut K run' := by
  cases hc with
  | told front back hch hf hp hK =>
    refine .told front (back ++ more) ?_ hf (hphase ▸ hp) (hboard ▸ hK)
    rw [hchannel, hch, List.append_assoc, List.cons_append]
  | heeded hp hK => exact .heeded (hphase ▸ hp) (hboard ▸ hK)

theorem of_told (hc : Cut K run) : Cut K run.told := by
  rcases run.channel_told with hch | ⟨-, hch⟩
  · exact hc.of_append [] (by rw [hch, List.append_nil]) run.told_board run.told_phase
  · exact hc.of_append [.interrupt] hch run.told_board run.told_phase

theorem record_known {b : Board} {index : Nat} {status : Status} {path : Option String} {posts : List (Nat × Status)}
    (hi : index < b.rows.length) (i : Nat) :
    ((b.record index status path).status? i).or (posts.lookup i) =
      (b.status? i).or (((index, status) :: posts).lookup i) := by
  by_cases h : index = i
  · subst h
    rw [Board.status?_record_self _ _ _ hi, List.lookup_cons_self]
    cases b.status? index <;> rfl
  · have hne : (i == index) = false := by simpa using Ne.symm h
    rw [Board.status?_record_ne _ _ _ h, List.lookup_cons, hne]

theorem isComplete_eq_false (hc : Cut K run) (hopen : ∃ i, i < run.board.rows.length ∧ K i = none) :
    run.board.isComplete = false := by
  obtain ⟨i, hi, hnone⟩ := hopen
  have hst : run.board.status? i = none := by
    cases hc with
    | told _ _ _ _ _ hK => exact (Option.or_eq_none_iff.1 ((hK i).trans hnone)).1
    | heeded _ hK => exact (hK i).trans hnone
  by_contra hd
  exact (Board.isComplete_iff _).1 (by simpa using hd) i hi hst

/-- **From an interrupt on, every way to go on leaves the statuses to be reported as they are.** -/
theorem step (h : Session.Onward s t m run run') (hp : Posted s.faces run) (hb : run.background = false)
    (hopen : ∃ i, i < run.board.rows.length ∧ K i = none) (hc : Cut K run) : Cut K run' := by
  have hd := hc.isComplete_eq_false hopen
  obtain ⟨-, -, -, hm, -, h⟩ := h
  cases h with
  | work | fade => exact hc
  | appeal | interrupt => exact hc.of_told
  | report => exact hc.of_append _ rfl rfl rfl
  | @launch id waiting f hph =>
    cases hc with
    | told front back hch hfr _ hK => exact .told front back hch hfr (.inl ⟨waiting, rfl⟩) (by simpa [hb] using hK)
    | heeded hp => rw [hph] at hp; cases hp
  | collect hph =>
    cases hc with
    | told front back hch hfr _ hK => exact .told front back hch hfr (.inr rfl) hK
    | heeded hp => rw [hph] at hp; cases hp
  | @receive index status path channel hph hch' =>
    cases hc with
    | told front back hch hfr _ hK =>
      rw [hch'] at hch
      cases front with
      | nil => cases hch
      | cons e front =>
        obtain ⟨rfl, htail⟩ := List.cons.inj hch
        refine .told _ _ htail (fun hmem => hfr (List.mem_cons_of_mem _ hmem)) (.inr hph) (fun i => ?_)
        have hpost : (index, status) ∈ run.posts := by rw [Run.posts, hch']; exact List.mem_cons_self
        rw [record_known (hp.index_lt hm hpost), ← hK i]
        rfl
    | heeded hp => rw [hph] at hp; cases hp
  | @heed channel hph hch' =>
    cases hc with
    | told front back hch hfr _ hK =>
      rw [hch'] at hch
      cases front with
      | nil => exact .heeded rfl (fun i => by simpa using hK i)
      | cons e front =>
        obtain ⟨rfl, -⟩ := List.cons.inj hch
        exact absurd List.mem_cons_self hfr
    | heeded hp => rw [hph] at hp; cases hp
  | close hph hd' => rw [hd] at hd'; cases hd'
  | conclude hph =>
    cases hc with
    | told _ _ _ _ hp => rw [hph] at hp; rcases hp with ⟨waiting, hp⟩ | hp <;> cases hp
    | heeded hp => rw [hph] at hp; cases hp

theorem drive?_ne_none (hc : Cut K run) (hs : s.current = some run) : s.drive? ≠ none := by
  intro h
  rcases Session.stuck_cases hs h with ⟨hp, hch, -⟩ | ⟨hp, -⟩
  · cases hc with
    | told _ _ hch' => rw [hch] at hch'; exact absurd hch' (by simp)
    | heeded hp' => rw [hp] at hp'; cases hp'
  · cases hc with
    | told _ _ _ _ hp' => rw [hp] at hp'; rcases hp' with ⟨waiting, hp'⟩ | hp' <;> cases hp'
    | heeded hp' => rw [hp] at hp'; cases hp'

/-- **How an interrupted run ends**: what was known is reported, and the rest as interrupted. -/
theorem statuses_of_ends (hc : Cut K run) (h : Session.Step s t m) (hs : s.current = some run) (ht : t.current = none)
    (hb : run.background = false) (hf : Filed s.seats run) (i : Nat) (r : Board.Row)
    (hr : run.board.rows[i]? = some r) : t.statuses[i]? = some ((K i).getD ⟨.interrupted, r.name, none⟩) := by
  obtain ⟨-, hend⟩ := h.ends hs ht
  rcases hend with ⟨-, hb', -⟩ | ⟨hp, rfl⟩ | ⟨hp, -⟩
  · rw [hb] at hb'; cases hb'
  · cases hc with
    | told _ _ _ _ hp' => rw [hp] at hp'; rcases hp' with ⟨waiting, hp'⟩ | hp' <;> cases hp'
    | heeded _ hK =>
      have hd := run.board.isComplete_conclude Session.silence
      show (run.board.conclude Session.silence).statuses[i]? = _
      rw [Board.getElem?_statuses hd, Board.status?_conclude, hr, Option.map_some, ← hK i, Board.status?, hr,
        Option.bind_some]
      cases hst : r.status with
      | some st => rfl
      | none => rw [Option.getD_none, Option.getD_none, hf.state i r hr hst, if_pos hp, if_pos rfl]
  · cases hc with
    | told _ _ _ _ hp' => rw [hp] at hp'; rcases hp' with ⟨waiting, hp'⟩ | hp' <;> cases hp'
    | heeded hp' => rw [hp] at hp'; cases hp'

end Cut

namespace Session

variable {s t u v w : Session} {clauses : List Clause} {m : Move} {before after : List Move} {run run' : Run}

/-- Whether a run is under way some stage of which has not reported; one that is still to be launched has not. -/
def Open (s : Session) : Prop :=
  ∃ run, s.current = some run ∧ ∃ id ∈ run.stages, ∃ f, s.faces id = some f ∧ run.known f.index = none

theorem Onward.known_ne_none (h : Onward s t m run run') (hp : Posted s.faces run) {i : Nat} (hi : run.known i ≠ none) :
    run'.known i ≠ none := by
  have filled : ∀ {b : Board} {st : Status} {path : Option String} {index : Nat} {posts : List (Nat × Status)},
      (b.status? i).or (posts.lookup i) ≠ none → ((b.record index st path).status? i).or (posts.lookup i) ≠ none := by
    intro b st path index posts hne hnone
    obtain ⟨hrec, hposts⟩ := Option.or_eq_none_iff.1 hnone
    rw [hposts, Option.or_none] at hne
    obtain ⟨st', hst'⟩ := Option.ne_none_iff_exists'.1 hne
    rw [Board.status?_record_of_eq_some _ _ _ hst'] at hrec
    cases hrec
  obtain ⟨-, -, -, hm, -, h⟩ := h
  cases h with
  | work | fade | collect | close => exact hi
  | appeal | interrupt => rwa [Run.known_told]
  | report =>
    intro hnone
    rw [Run.known, Run.posts, List.filterMap_append, List.lookup_append] at hnone
    obtain ⟨hb, hposts⟩ := Option.or_eq_none_iff.1 hnone
    exact hi (Option.or_eq_none_iff.2 ⟨hb, (Option.or_eq_none_iff.1 hposts).1⟩)
  | launch =>
    rw [Run.known]
    dsimp only
    split
    · exact filled hi
    · exact hi
  | @receive index status path channel hph hch =>
    have hpost : (index, status) ∈ run.posts := by rw [Run.posts, hch]; exact List.mem_cons_self
    have hposts : run.posts = (index, status) :: channel.filterMap Event.post? := by rw [Run.posts, hch]; rfl
    rw [Run.known, hposts, ← Cut.record_known (hp.index_lt hm hpost)] at hi
    exact hi
  | @heed channel hph hch =>
    have hposts : run.posts = channel.filterMap Event.post? := by rw [Run.posts, hch]; rfl
    rw [Run.known, hposts] at hi
    rwa [Run.known, Board.status?_requestStop]
  | conclude =>
    intro hnone
    obtain ⟨hrow, hposts⟩ := Option.or_eq_none_iff.1 hnone
    have hposts : run.posts.lookup i = none := hposts
    rw [Run.known, hposts, Option.or_none] at hi
    obtain ⟨st, hst⟩ := Option.ne_none_iff_exists'.1 hi
    rw [Board.status?_conclude_of_eq_some _ _ hst] at hrow
    cases hrow

theorem open_of_step (hs : s.Dated) (hne : clauses ≠ []) (hu : (s.start clauses).play before = some u)
    (hm : u.step? m = some v) (hv : v.Open) : u.Open := by
  obtain ⟨run', hr', id, hid, g, hg, hnone⟩ := hv
  have hstep := step_of_step? hm
  cases hr : u.current with
  | none => rw [hstep.current_eq_none hr] at hr'; cases hr'
  | some run =>
    obtain ⟨-, -, hman, hcourse⟩ := underway hs hne hu hr
    have hon : Onward u v m run run' := ⟨hstep, hr, hr', hman, hcourse, hstep.goes hman hcourse hr hr'⟩
    have hseat : u.seats id = some g.seat := by rw [← hstep.seats_eq]; exact seats_of_faces hg
    obtain ⟨f, hf, hfg⟩ := Option.map_eq_some_iff.1 hseat
    have hindex : f.index = g.index := congrArg Seat.index hfg
    have hstages : run'.stages = run.stages := congrArg Charter.stages hon.charter
    refine ⟨run, hr, id, hstages ▸ hid, f, hf, ?_⟩
    by_contra hi
    exact hon.known_ne_none (posted_of_play hs hne hu hr) hi (hindex ▸ hnone)

/-- The first interrupt that finds a report missing is the first of all. -/
theorem not_delivers_of_open (hs : s.Dated) (hne : clauses ≠ []) (hu : (s.start clauses).play before = some u)
    (hopen : u.Open)
    (hfirst : ∀ b m' a u', before = b ++ m' :: a → (s.start clauses).play b = some u' → u'.delivers m' = true →
      ¬ u'.Open) : ¬ (s.start clauses).Delivers before := by
  rintro ⟨b, m', a, u', rfl, hu', hd⟩
  refine hfirst b m' a u' rfl hu' hd ?_
  rw [play_append, hu', Option.bind_some] at hu
  have hback : ∀ {moves w}, u'.play moves = some w → (s.start clauses).play (b ++ moves) = some w := by
    intro moves w hw
    rw [play_append, hu', Option.bind_some, hw]
  exact play_induction (P := fun _ w => w.Open → u'.Open) id
    (fun before w m v hw ih hm hv => ih (open_of_step hs hne (hback hw) hm hv)) hu hopen

theorem current_of_delivers (hm : u.step? m = some v) (hd : u.delivers m = true) :
    v.current = u.current.map Run.told := by
  have hstep := step_of_step? hm
  have silent : ∀ {id most : Nat} {f : Face}, u.faces id = some f → f.phase.appeals = false →
      m = .advance id most → False := by
    rintro id most f hf ha rfl
    rw [delivers_advance hf, ha, Bool.and_false] at hd
    cases hd
  cases hstep with
  | work hf hw => exact (silent hf hw.appeals_eq_false rfl).elim
  | report hf hp | lose hf hp => exact (silent hf (by rw [hp]; rfl) rfl).elim
  | appeal _ _ _ h | interrupt _ h => exact h
  | vanish | launch | skip | collect | leave | receive | heed | close | conclude | abandon | join => cases hd

/-- **An interrupt that finds a report missing gets through.** -/
theorem cut_of_delivers (hs : s.Dated) (hne : clauses ≠ []) (hu : (s.start clauses).play before = some u)
    (hopen : u.Open) (hr : u.current = some run) (hquiet : ¬ (s.start clauses).Delivers before)
    (hd : u.delivers m = true) (hm : u.step? m = some v) :
    run.background = false ∧ (∃ i, i < run.board.rows.length ∧ run.known i = none) ∧
      ∃ run', v.current = some run' ∧ Cut run.known run' := by
  obtain ⟨run', hr', id, hid, f, hf, hnone⟩ := hopen
  rw [hr, Option.some.injEq] at hr'
  subst hr'
  obtain ⟨hst, hposts⟩ := Option.or_eq_none_iff.1 hnone
  obtain ⟨-, -, hman, hcourse⟩ := underway hs hne hu hr
  have hi := hman.index_lt hid hf
  have hv := vouched_of_play (P := fun _ _ _ => True) (I := fun moves => (s.start clauses).Delivers moves) hs hne
    (fun _ _ _ _ _ => trivial) (fun _ m hd => hd.append [m]) (fun _ _ _ _ _ _ _ _ _ => trivial)
    (fun _ _ _ hu hd => Delivers.last hu hd) hu hr
  have hsilent : .interrupt ∉ run.channel := fun hmem => hquiet (hv.called (.inl hmem))
  have harmed : run.armed = true := by
    have : u.isArmed = true := by
      unfold delivers at hd
      split at hd
      · exact hd
      · exact (Bool.and_eq_true_iff.1 hd).1
      · cases hd
    simpa [isArmed, hr] using this
  obtain ⟨hb, hjoin⟩ := hcourse.armed.1 harmed
  have hroom := (posted_of_play hs hne hu hr).room hman rfl hid hf (fun st hmem => by
    have := List.lookup_eq_none_iff.1 hposts _ hmem
    simp at this) hsilent
  refine ⟨hb, ⟨f.index, hi, hnone⟩, run.told, by rw [current_of_delivers hm hd, hr]; rfl, ?_⟩
  refine .told run.channel [] ?_ hsilent ?_ (fun i => by rw [run.told_board]; rfl)
  · rw [Run.told, if_pos ⟨harmed, hroom⟩]
  · rw [run.told_phase]
    cases hp : run.phase with
    | launching waiting => exact .inl ⟨waiting, rfl⟩
    | collecting => exact .inr rfl
    | joining => exact absurd hp hjoin
    | closing interrupted =>
      cases interrupted with
      | true => exact absurd (hv.called (.inr hp)) hquiet
      | false =>
        have hd := (filed_of_play hs hne hu hr).full (.inl hp)
        exact absurd hst ((Board.isComplete_iff _).1 hd f.index hi)

theorem cut_play {K : Nat → Option Status} (hs : s.Dated) (hne : clauses ≠ [])
    (hv : (s.start clauses).play before = some v) (hr : v.current = some run) (hb : run.background = false)
    (hmiss : ∃ i, i < clauses.length ∧ K i = none) (hcut : Cut K run) (hw : v.play after = some w) :
    (∀ run', w.current = some run' → Cut K run') ∧
      (w.current = none → ∀ i clause, clauses[i]? = some clause →
        w.statuses[i]? = some ((K i).getD ⟨.interrupted, clause.name, none⟩)) := by
  have hback : ∀ {moves w}, v.play moves = some w → (s.start clauses).play (before ++ moves) = some w := by
    intro moves w hw
    rw [play_append, hv, Option.bind_some, hw]
  refine play_induction (P := fun _ w => (∀ run', w.current = some run' → Cut K run') ∧
    (w.current = none → ∀ i clause, clauses[i]? = some clause →
      w.statuses[i]? = some ((K i).getD ⟨.interrupted, clause.name, none⟩))) ?_ ?_ hw
  · refine ⟨fun run' hr' => ?_, fun hover => ?_⟩
    · rw [hr] at hr'
      cases hr'
      exact hcut
    · rw [hr] at hover
      cases hover
  · intro moves w m w' hw ih hm
    have hplay := hback hw
    have hstep := step_of_step? hm
    cases hr' : w.current with
    | none =>
      refine ⟨fun run'' hr'' => ?_, fun _ => ?_⟩
      · rw [hstep.current_eq_none hr'] at hr''
        cases hr''
      · rw [(hstep.kept_of_none hr').statuses]
        exact ih.2 hr'
    | some run' =>
      obtain ⟨-, hcharter, -, -⟩ := underway hs hne hv hr
      obtain ⟨-, hcharter', hman, hcourse⟩ := underway hs hne hplay hr'
      obtain ⟨hlen, hrows⟩ := rows_of_play hs hne hplay hr'
      have hb' : run'.background = false := (congrArg Charter.background (hcharter'.trans hcharter.symm)).trans hb
      have hcut := ih.1 run' hr'
      refine ⟨fun run'' hr'' => ?_, fun hover i clause hc => ?_⟩
      · exact hcut.step ⟨hstep, hr', hr'', hman, hcourse, hstep.goes hman hcourse hr' hr''⟩
          (posted_of_play hs hne hplay hr') hb' (hlen ▸ hmiss)
      · obtain ⟨r, hrow, hname⟩ := hrows i clause hc
        rw [← hname]
        exact hcut.statuses_of_ends hstep hr' hover hb' (filed_of_play hs hne hplay hr') i r hrow

/-- **What an interrupt settles.**  The first interrupt that is delivered while a stage of the run has not reported is
never lost: the run has it on its channel or has taken it, and can be driven on until it is over.  In the end every
stage whose report was there before has the status it reported, and every other one is interrupted, whatever happens
after it. -/
theorem interrupt_cuts (hs : s.Lived) (hne : clauses ≠ []) (hu : (s.start clauses).play before = some u)
    (hr : u.current = some run) (hopen : u.Open) (hd : u.delivers m = true)
    (hfirst : ∀ b m' a u', before = b ++ m' :: a → (s.start clauses).play b = some u' → u'.delivers m' = true →
      ¬ u'.Open)
    (hv : u.step? m = some v) (hw : v.play after = some w) :
    (∀ run', w.current = some run' →
      (.interrupt ∈ run'.channel ∨ run'.phase = .closing true) ∧ w.drive? ≠ none) ∧
    (before ++ m :: after).count .drive ≤ 2 * clauses.length + 4 ∧
    (w.current = none → ∀ i clause, clauses[i]? = some clause →
      w.statuses[i]? = some ((run.known i).getD ⟨.interrupted, clause.name, none⟩)) := by
  have hs := hs.dated
  have hquiet := not_delivers_of_open hs hne hu hopen hfirst
  obtain ⟨hb, hmiss, run₁, hr₁, hcut⟩ := cut_of_delivers hs hne hu hopen hr hquiet hd hv
  have hplay := play_snoc hu hv
  obtain ⟨-, hcharter, -, -⟩ := underway hs hne hu hr
  obtain ⟨-, hcharter₁, -, -⟩ := underway hs hne hplay hr₁
  have hb₁ : run₁.background = false := (congrArg Charter.background (hcharter₁.trans hcharter.symm)).trans hb
  rw [(rows_of_play hs hne hu hr).1] at hmiss
  obtain ⟨hunder, hover⟩ := cut_play hs hne hplay hr₁ hb₁ hmiss hcut hw
  have hcount : (before ++ m :: after).count .drive ≤ 2 * clauses.length + 4 := by
    refine count_drive_le hs hne (t := w) ?_
    rw [play_append, hu, Option.bind_some, play, hv]
    exact hw
  refine ⟨fun run' hr' => ?_, hcount, hover⟩
  have hcut := hunder run' hr'
  refine ⟨?_, hcut.drive?_ne_none hr'⟩
  cases hcut with
  | told _ _ hch => exact .inl (by rw [hch]; simp)
  | heeded hp => exact .inr hp

/-- Of two commands the first has reported when the interrupt comes, and the second reports too late. -/
theorem interrupt_cuts_second : ∃ w,
    (small.start [{ name := "go" }, { name := "go" }]).play [.drive, .drive, .drive, .advance 0 0, .advance 0 0,
      .interrupt, .advance 1 0, .interrupt, .drive, .drive, .drive] = some w ∧
    w.statuses = [⟨.ok, "go", none⟩, ⟨.interrupted, "go", none⟩] ∧ w.statuses[1]? = some ⟨.interrupted, "go", none⟩ := by
  obtain ⟨u, v, w, run, f, hu, hv, hw, hr, hid, hf, hnone, hd, hover, hst⟩ : ∃ u v w run f,
      (small.start [{ name := "go" }, { name := "go" }]).play [.drive, .drive, .drive, .advance 0 0, .advance 0 0] =
        some u ∧
      u.step? .interrupt = some v ∧ v.play [.advance 1 0, .interrupt, .drive, .drive, .drive] = some w ∧
      u.current = some run ∧ 1 ∈ run.stages ∧ u.faces 1 = some f ∧ run.known f.index = none ∧
      u.delivers .interrupt = true ∧ w.current = none ∧ w.statuses = [⟨.ok, "go", none⟩, ⟨.interrupted, "go", none⟩] :=
    ⟨_, _, _, _, _, rfl, rfl, rfl, rfl, by decide, rfl, rfl, rfl, rfl, rfl⟩
  have hfirst : ∀ b m' a u', [Move.drive, .drive, .drive, .advance 0 0, .advance 0 0] = b ++ m' :: a →
      (small.start [{ name := "go" }, { name := "go" }]).play b = some u' → u'.delivers m' = true → ¬ u'.Open := by
    intro b m' a u' hb hu' hd
    have hno : ((small.start [{ name := "go" }, { name := "go" }]).play b).any (fun u => u.delivers m') = false := by
      obtain ⟨k, rfl, hk⟩ : ∃ k, b = [Move.drive, .drive, .drive, .advance 0 0, .advance 0 0].take k ∧
          [Move.drive, .drive, .drive, .advance 0 0, .advance 0 0][k]? = some m' :=
        ⟨b.length, by rw [hb]; simp, by rw [hb]; simp⟩
      rcases k with _ | _ | _ | _ | _ | k <;> cases hk <;> rfl
    rw [hu', Option.any_some, hd] at hno
    cases hno
  have hopen : u.Open := ⟨run, hr, 1, hid, f, hf, hnone⟩
  obtain ⟨-, -, hall⟩ := interrupt_cuts lived_small (by simp) hu hr hopen hd hfirst hv hw
  refine ⟨w, ?_, hst, ?_⟩
  · have hplay := play_snoc hu hv
    have happ := play_append (small.start [{ name := "go" }, { name := "go" }])
      [.drive, .drive, .drive, .advance 0 0, .advance 0 0, .interrupt] [.advance 1 0, .interrupt, .drive, .drive, .drive]
    rw [show [Move.drive, .drive, .drive, .advance 0 0, .advance 0 0, .interrupt] =
      [.drive, .drive, .drive, .advance 0 0, .advance 0 0] ++ [.interrupt] from rfl, hplay, Option.bind_some, hw] at happ
    exact happ
  · rw [hst]
    rfl

end Session
end LineShell
