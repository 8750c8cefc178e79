import LineShell.Proofs.Session.Filing
/-!
# Vouching — where each status comes from

Whatever stands in a row of a board was put there by the run's preparation, by the launch of a stage in the background,
by the report of a stage, or by an interrupt.  `Vouched` carries that through a run, for reports of any sort `P` and
interrupts that happen only where `I` holds, and `verdict` reads it off the statuses once the run is over.
-/
namespace LineShell

/-- The status that a stage has and has not reported yet. -/
def Phase.due? : Phase → Option Status
  | reporting _ status | sending status => some status
  | _ => none

/-- **Where a status may come from.** -/
inductive Origin (fixed : Nat → Status → Prop) (P : Nat → Status → Prop) (I : Prop) (seats : Nat → Option Seat)
    (c : Charter) (i : Nat) : Status → Prop
  | fixed {st : Status} : fixed i st → Origin fixed P I seats c i st
  | left {id : Nat} {seat : Seat} :
      c.background = true → id ∈ c.stages → seats id = some seat → seat.index = i →
      Origin fixed P I seats c i ⟨.ok, seat.name, none⟩
  | said {id : Nat} {seat : Seat} {st : Status} :
      c.background = false → id ∈ c.stages → seats id = some seat → seat.index = i → P id st →
      Origin fixed P I seats c i st
  | cut {id : Nat} {seat : Seat} :
      c.background = false → id ∈ c.stages → seats id = some seat → seat.index = i → I →
      Origin fixed P I seats c i ⟨.interrupted, seat.name, none⟩

theorem Origin.mono {fixed P P' : Nat → Status → Prop} {I I' : Prop} {seats : Nat → Option Seat} {c : Charter}
    {i : Nat} {st : Status} (hP : ∀ id st, P id st → P' id st) (hI : I → I') (h : Origin fixed P I seats c i st) :
    Origin fixed P' I' seats c i st := by
  cases h with
  | fixed h => exact .fixed h
  | left hb hid hs hi => exact .left hb hid hs hi
  | said hb hid hs hi h => exact .said hb hid hs hi (hP _ _ h)
  | cut hb hid hs hi h => exact .cut hb hid hs hi (hI h)

/-- **Every status on its way or on the board comes from somewhere.** -/
structure Vouched (fixed : Nat → Status → Prop) (P : Nat → Status → Prop) (I : Prop) (seats : Nat → Option Seat)
    (F : Faces) (run : Run) : Prop where
  due : ∀ id ∈ run.stages, ∀ f, F id = some f → ∀ st, f.phase.due? = some st → P id st
  posted : ∀ p ∈ run.posts, ∃ id ∈ run.stages, ∃ seat, seats id = some seat ∧ seat.index = p.1 ∧ P id p.2
  filed : ∀ i st, run.board.status? i = some st → Origin fixed P I seats run.charter i st
  called : .interrupt ∈ run.channel ∨ run.phase = .closing true → I

namespace Vouched

variable {fixed P P' : Nat → Status → Prop} {I I' : Prop} {s t : Session} {m : Move} {run run' : Run}

theorem mono {seats : Nat → Option Seat} {F : Faces} (hP : ∀ id st, P id st → P' id st) (hI : I → I')
    (h : Vouched fixed P I seats F run) : Vouched fixed P' I' seats F run where
  due := fun id hid f hf st hst => hP _ _ (h.due id hid f hf st hst)
  posted := by
    intro p hp
    obtain ⟨id, hid, seat, hs, hi, h⟩ := h.posted p hp
    exact ⟨id, hid, seat, hs, hi, hP _ _ h⟩
  filed := fun i st hst => (h.filed i st hst).mono hP hI
  called := fun hc => hI (h.called hc)

theorem due_of_works {f g : Face} (h : Face.Works f g) {st : Status} (hst : g.phase.due? = some st) :
    f.phase.due? = some st ∨ ∃ outcome, f.phase = .running (.done outcome) ∧ st = Status.ofOutcome f.name outcome := by
  cases h with
  | answered | entered => cases hst
  | @closed outcome hp =>
    refine .inr ⟨outcome, hp, ?_⟩
    change (Session.phaseAfter f.background (Status.ofOutcome f.name outcome)).due? = some st at hst
    unfold Session.phaseAfter at hst
    split at hst <;> exact (Option.some.inj hst).symm
  | shown hp | ready hp => exact .inl (by rw [hp]; exact hst)

theorem due_of_set {F F' : Faces} {stages : List Nat} {id : Nat} {g : Face}
    (h : ∀ id ∈ stages, ∀ f, F id = some f → ∀ st, f.phase.due? = some st → P id st) (hF : F' = F.set id g)
    (hg : id ∈ stages → ∀ st, g.phase.due? = some st → P id st) :
    ∀ id ∈ stages, ∀ f, F' id = some f → ∀ st, f.phase.due? = some st → P id st := by
  intro j hj f hf st hst
  by_cases hji : j = id
  · subst hji
    rw [hF, Faces.set_self, Option.some.injEq] at hf
    subst hf
    exact hg hj st hst
  · rw [hF, Faces.set_ne _ _ hji] at hf
    exact h j hj f hf st hst

theorem filed_record {seats : Nat → Option Seat} {c : Charter} {b : Board} {index : Nat} {status : Status}
    {path : Option String} (h : ∀ i st, b.status? i = some st → Origin fixed P I seats c i st)
    (hst : Origin fixed P I seats c index status) (i : Nat) (st : Status)
    (hi : (b.record index status path).status? i = some st) : Origin fixed P I seats c i st := by
  by_cases hne : index = i
  · subst hne
    cases hb : b.status? index with
    | some st' =>
      rw [Board.status?_record_of_eq_some _ _ _ hb, Option.some.injEq] at hi
      subst hi
      exact h _ _ hb
    | none =>
      have hlt : index < b.rows.length := by
        by_contra hge
        rw [Board.status?, Board.getElem?_record, if_pos rfl, List.getElem?_eq_none (Nat.not_lt.1 hge)] at hi
        cases hi
      rw [Board.status?_record_self _ _ _ hlt, hb, Option.getD_none, Option.some.injEq] at hi
      subst hi
      exact hst
  · rw [Board.status?_record_ne _ _ _ hne] at hi
    exact h i st hi

theorem called_told {seats : Nat → Option Seat} {F : Faces} (h : Vouched fixed P I seats F run)
    (hI : run.armed = true → I) : .interrupt ∈ run.told.channel ∨ run.told.phase = .closing true → I := by
  intro hc
  rw [Run.told_phase] at hc
  rcases run.channel_told with hch | ⟨ha, -⟩
  · exact h.called (hch ▸ hc)
  · exact hI ha

open Session in
/-- **Every way to go on vouches for what it adds.** -/
theorem step (h : Onward s t m run run') (hf : Filed s.seats run)
    (hdone : ∀ id ∈ run.stages, ∀ f outcome, s.faces id = some f → f.phase = .running (.done outcome) →
      P id (Status.ofOutcome f.name outcome))
    (hI : s.delivers m = true → I) (hv : Vouched fixed P I s.seats s.faces run) :
    Vouched fixed P I t.seats t.faces run' := by
  have hcharter := h.charter
  obtain ⟨hstep, hs, -, hm, hc, h⟩ := h
  rw [hstep.seats_eq]
  have armed : s.delivers m = s.isArmed → run.armed = true → I := fun hd ha => hI (by simp [hd, isArmed, hs, ha])
  cases h with
  | work hfid hw hF =>
    refine ⟨due_of_set hv.due hF (fun hid st hst => ?_), hv.posted, hv.filed, hv.called⟩
    rcases due_of_works hw hst with hst | ⟨outcome, hp, rfl⟩
    · exact hv.due _ hid _ hfid st hst
    · exact hdone _ hid _ outcome hfid hp
  | appeal hfid hp hF hd =>
    refine ⟨?_, ?_, ?_, hv.called_told (armed hd)⟩
    · rw [run.told_stages]
      exact due_of_set hv.due hF (fun _ st hst => by cases hst)
    · rw [run.posts_told, run.told_stages]
      exact hv.posted
    · rw [run.told_board, run.charter_told]
      exact hv.filed
  | interrupt hF hd =>
    refine ⟨?_, ?_, ?_, hv.called_told (armed hd)⟩
    · rw [run.told_stages, hF]
      exact hv.due
    · rw [run.posts_told, run.told_stages]
      exact hv.posted
    · rw [run.told_board, run.charter_told]
      exact hv.filed
  | @report id f status hfid hp hn _ hF =>
    refine ⟨due_of_set hv.due hF (fun _ st hst => by cases hst), fun p hmem => ?_, hv.filed, fun hc => ?_⟩
    · rw [Run.posts, List.filterMap_append] at hmem
      rcases List.mem_append.1 hmem with hmem | hmem
      · exact hv.posted p hmem
      · obtain rfl : p = (f.index, status) := List.mem_singleton.1 hmem
        have hid : id ∈ run.stages := hm.mine id f.seat (seats_of_faces hfid) hn
        exact ⟨id, hid, f.seat, seats_of_faces hfid, rfl, hv.due id hid f hfid status (by rw [hp]; rfl)⟩
    · rw [List.mem_append] at hc
      rcases hc with (hc | hc) | hc
      · exact hv.called (.inl hc)
      · exact absurd (List.mem_singleton.1 hc) (by simp)
      · exact hv.called (.inr hc)
  | fade hfid hp _ hF =>
    exact ⟨due_of_set hv.due hF (fun _ st hst => by cases hst), hv.posted, hv.filed, hv.called⟩
  | @launch id waiting f hp hfid hF =>
    refine ⟨due_of_set hv.due hF (fun hid st hst => ?_), hv.posted, fun i st hst => ?_, fun hcall => ?_⟩
    · refine hv.due id hid f hfid st ?_
      cases hph : f.phase with
      | ready program => simp [hph, Phase.launched, Phase.due?] at hst
      | running _ | reporting _ _ | sending _ | ended => simpa [hph, Phase.launched] using hst
    · rw [hcharter]
      have hid : id ∈ run.stages := hc.waits.subset (by rw [Run.waiting, hp]; exact List.mem_cons_self)
      by_cases hb : run.background = true
      · rw [if_pos hb] at hst
        exact filed_record hv.filed (.left hb hid (seats_of_faces hfid) rfl) i st hst
      · rw [if_neg hb] at hst
        exact hv.filed i st hst
    · exact hv.called (.inl (hcall.resolve_right (by simp)))
  | collect hp _ hF =>
    exact ⟨hF ▸ hv.due, hv.posted, hv.filed, fun hcall => hv.called (.inl (hcall.resolve_right (by simp)))⟩
  | @receive index status path channel hp hch hF =>
    have hposts : run.posts = (index, status) :: channel.filterMap Event.post? := by rw [Run.posts, hch]; rfl
    refine ⟨hF ▸ hv.due, fun p hmem => ?_, fun i st hst => ?_, fun hcall => ?_⟩
    · exact hv.posted p (hposts ▸ List.mem_cons_of_mem _ hmem)
    · rw [hcharter]
      have hb := hc.background_eq_false (by rw [hp]; simp)
      obtain ⟨id, hid, seat, hseat, hi, hP⟩ := hv.posted (index, status) (by rw [hposts]; exact List.mem_cons_self)
      exact filed_record hv.filed (.said hb hid hseat hi hP) i st hst
    · exact hv.called (hcall.imp_left (fun hmem => by rw [hch]; exact List.mem_cons_of_mem _ hmem))
  | @heed channel hp hch hF =>
    have hposts : run.posts = channel.filterMap Event.post? := by rw [Run.posts, hch]; rfl
    refine ⟨hF ▸ hv.due, fun p hmem => hv.posted p (hposts ▸ hmem), fun i st hst => ?_, fun _ => ?_⟩
    · rw [hcharter]
      exact hv.filed i st (by rwa [Board.status?_requestStop] at hst)
    · exact hv.called (.inl (by rw [hch]; exact List.mem_cons_self))
  | close hp _ hF =>
    exact ⟨hF ▸ hv.due, hv.posted, hv.filed, fun hcall => hv.called (.inl (hcall.resolve_right (by simp)))⟩
  | conclude hp hF =>
    refine ⟨hF ▸ hv.due, hv.posted, fun i st hst => ?_, fun hcall => hv.called (.inl (hcall.resolve_right (by simp)))⟩
    rw [hcharter]
    have hi : i < run.board.rows.length := by
      by_contra hge
      rw [Board.status?_conclude, List.getElem?_eq_none (Nat.not_lt.1 hge)] at hst
      cases hst
    obtain ⟨st', hst'⟩ := Option.ne_none_iff_exists'.1 ((Board.isComplete_iff _).1 (hf.full (.inl hp)) i hi)
    rw [Board.status?_conclude_of_eq_some _ _ hst', Option.some.injEq] at hst
    subst hst
    exact hv.filed i st' hst'

end Vouched

namespace Session

variable {s t u : Session} {clauses : List Clause} {moves : List Move} {m : Move} {run : Run}

/-- The statuses that the clauses of a run have from its preparation. -/
def Refused (s : Session) (clauses : List Clause) (i : Nat) (st : Status) : Prop :=
  (s.preparedOf clauses)[i]? = some (.error st)

theorem vouched_start {P : Nat → Status → Prop} {I : Prop} :
    Vouched (s.Refused clauses) P I (s.start clauses).seats (s.start clauses).faces (s.runOf clauses) where
  due := by
    intro id hid f hf st hst
    obtain ⟨k, i, job, -, rfl⟩ := face_of_mem_idsOf hid hf
    cases hst
  posted := fun p hp => absurd hp List.not_mem_nil
  filed := by
    intro i st hst
    refine .fixed ?_
    rw [show (s.runOf clauses).board = s.boardOf clauses from rfl, Board.status?, getElem?_boardOf] at hst
    cases hc : clauses[i]? with
    | none => rw [hc] at hst; cases hst
    | some clause =>
      rw [hc] at hst
      cases hp : (s.preparedOf clauses)[i]? with
      | none => rw [hp] at hst; cases hst
      | some p =>
        rw [hp] at hst
        cases p with
        | ok job => cases hst
        | error st' => cases hst; exact hp
  called := fun h => by rcases h with h | h <;> cases h

/-- **How a run ends**: each row of its board has a status that comes from somewhere. -/
theorem Step.verdict {fixed P : Nat → Status → Prop} {I : Prop} (h : Step s t m) (hs : s.current = some run)
    (ht : t.current = none) (hm : Manned s.seats run.charter) (hc : Course s.faces run) (hf : Filed s.seats run)
    (hv : Vouched fixed P I s.seats s.faces run) :
    t.statuses.length = run.board.rows.length ∧
      ∀ i st, t.statuses[i]? = some st → Origin fixed P I s.seats run.charter i st := by
  obtain ⟨-, hend⟩ := h.ends hs ht
  have complete : run.board.isComplete = true → t.statuses = run.board.statuses →
      t.statuses.length = run.board.rows.length ∧
        ∀ i st, t.statuses[i]? = some st → Origin fixed P I s.seats run.charter i st := by
    intro hd ht
    rw [ht]
    exact ⟨Board.length_statuses hd, fun i st hst => hv.filed i st (by rwa [Board.getElem?_statuses hd] at hst)⟩
  rcases hend with ⟨hp, hb, rfl⟩ | ⟨hp, rfl⟩ | ⟨hp, -, rfl⟩
  · refine complete ((Board.isComplete_iff _).2 (fun i hi hnone => ?_)) rfl
    obtain ⟨id, hid, -⟩ := hf.owed i hi hnone
    rw [Run.owing, if_pos hb, Run.waiting, hp] at hid
    cases hid
  · have hd := run.board.isComplete_conclude silence
    refine ⟨(Board.length_statuses hd).trans (List.length_map _), fun i st hst => ?_⟩
    have hst : (run.board.conclude silence).status? i = some st := by rwa [← Board.getElem?_statuses hd]
    rw [Board.status?_conclude, Option.map_eq_some_iff] at hst
    obtain ⟨r, hr, hst⟩ := hst
    cases hrow : r.status with
    | some st' =>
      rw [hrow, Option.getD_some] at hst
      subst hst
      exact hv.filed i st' (by rw [Board.status?, hr, Option.bind_some, hrow])
    | none =>
      rw [hrow, Option.getD_none, hf.state i r hr hrow, if_pos hp, if_pos rfl] at hst
      have hb := hc.background_eq_false (by rw [hp]; simp)
      obtain ⟨id, hid, seat, hseat, hindex⟩ := hf.owed i (List.getElem?_eq_some_iff.1 hr).1
        (by rw [Board.status?, hr, Option.bind_some, hrow])
      rw [Run.owing_of_front hb] at hid
      have hname : r.name = seat.name := by
        obtain ⟨seat', hseat', -, -, hname⟩ := hm.seat id hid
        rw [hseat, Option.some.injEq] at hseat'
        subst hseat'
        rw [hindex, show run.charter.names = run.board.rows.map Board.Row.name from rfl, List.getElem?_map, hr] at hname
        exact Option.some.inj hname
      rw [← hst, hname]
      exact .cut hb hid hseat hindex (hv.called (.inr hp))
  · exact complete (hf.full (.inr hp)) rfl

section

variable {P : List Move → Nat → Status → Prop} {I : List Move → Prop}

theorem vouched_of_play (hs : s.Dated) (hne : clauses ≠ [])
    (hP : ∀ before m id st, P before id st → P (before ++ [m]) id st) (hI : ∀ before m, I before → I (before ++ [m]))
    (hdone : ∀ before u id f outcome, (s.start clauses).play before = some u → id ∈ s.idsOf clauses →
      u.faces id = some f → f.phase = .running (.done outcome) → P before id (Status.ofOutcome f.name outcome))
    (hdel : ∀ before u m, (s.start clauses).play before = some u → u.delivers m = true → I (before ++ [m]))
    (h : (s.start clauses).play moves = some t) (hr : t.current = some run) :
    Vouched (s.Refused clauses) (P moves) (I moves) t.seats t.faces run := by
  refine run_induction (P := fun moves t run =>
    Vouched (s.Refused clauses) (P moves) (I moves) t.seats t.faces run) hs hne vouched_start ?_ h hr
  intro before u m t run run' hu hon hv
  obtain ⟨-, hcharter, -, -⟩ := underway hs hne hu hon.before
  have hstages : run.stages = s.idsOf clauses := congrArg Charter.stages hcharter
  refine (hv.mono (hP before m) (hI before m)).step hon (filed_of_play hs hne hu hon.before) ?_ (hdel before u m hu)
  intro id hid f outcome hf hp
  exact hP _ _ _ _ (hdone before u id f outcome hu (hstages ▸ hid) hf hp)

/-- **The statuses of a run that is over**: one a clause, each from somewhere, in every order of moves. -/
theorem verdict (hs : s.Dated) (hne : clauses ≠ [])
    (hP : ∀ before m id st, P before id st → P (before ++ [m]) id st) (hI : ∀ before m, I before → I (before ++ [m]))
    (hdone : ∀ before u id f outcome, (s.start clauses).play before = some u → id ∈ s.idsOf clauses →
      u.faces id = some f → f.phase = .running (.done outcome) → P before id (Status.ofOutcome f.name outcome))
    (hdel : ∀ before u m, (s.start clauses).play before = some u → u.delivers m = true → I (before ++ [m]))
    (h : (s.start clauses).play moves = some t) (hover : t.current = none) :
    t.statuses.length = clauses.length ∧
      ∀ i st, t.statuses[i]? = some st →
        Origin (s.Refused clauses) (P moves) (I moves) (s.start clauses).seats (s.runOf clauses).charter i st := by
  refine play_induction (P := fun moves t => t.current = none → t.statuses.length = clauses.length ∧
    ∀ i st, t.statuses[i]? = some st →
      Origin (s.Refused clauses) (P moves) (I moves) (s.start clauses).seats (s.runOf clauses).charter i st)
    ?_ ?_ h hover
  · intro hover
    rw [current_start hne] at hover
    cases hover
  · intro before u m t hu ih hm hover
    have hstep := step_of_step? hm
    cases hr : u.current with
    | none =>
      obtain ⟨hlen, hall⟩ := ih hr
      rw [(hstep.kept_of_none hr).statuses]
      exact ⟨hlen, fun i st hst => (hall i st hst).mono (hP before m) (hI before m)⟩
    | some run =>
      obtain ⟨hseats, hcharter, hman, hcourse⟩ := underway hs hne hu hr
      obtain ⟨hlen, hall⟩ := hstep.verdict hr hover hman hcourse (filed_of_play hs hne hu hr)
        (vouched_of_play hs hne hP hI hdone hdel hu hr)
      rw [hseats, hcharter] at hall
      refine ⟨?_, fun i st hst => (hall i st hst).mono (hP before m) (hI before m)⟩
      rw [hlen, Run.length_rows hman]
      exact congrArg Charter.capacity hcharter

end

end Session
end LineShell
