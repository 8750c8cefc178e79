import LineShell.Proofs.Session.Course
import LineShell.Proofs.Session.Rows
import Mathlib.Data.List.Perm.Subperm
/-!
# Reports — what stages report and where it is kept

A stage reports once: its report is put on the channel, where it may wait, and then on the board.  `Posted` says that no
report is there twice, and that whoever drives the run never takes one for a row that is filled already; so the channel
has room for an interrupt as long as some stage has not reported (`Posted.room`).
-/
namespace LineShell

def Event.post? : Event → Option (Nat × Status)
  | finished index status _ => some (index, status)
  | interrupt => none

def Run.posts (run : Run) : List (Nat × Status) := run.channel.filterMap Event.post?

@[simp] theorem Run.posts_told (run : Run) : run.told.posts = run.posts := by
  unfold told posts
  split
  · rw [List.filterMap_append]
    exact List.append_nil _
  · rfl

theorem Phase.isEnded_launched (phase : Phase) : phase.launched.isEnded = phase.isEnded := by cases phase <;> rfl

namespace Session

variable {s t : Session} {m : Move} {run run' : Run}

theorem ended_of_works {f g : Face} (h : Face.Works f g) : f.phase.isEnded = false ∧ g.phase.isEnded = false := by
  cases h with
  | closed hp =>
    refine ⟨by rw [hp]; rfl, ?_⟩
    show (phaseAfter _ _).isEnded = false
    unfold phaseAfter
    split <;> rfl
  | answered _ _ hp | entered hp | shown hp | ready hp => exact ⟨by rw [hp]; rfl, rfl⟩

theorem Step.faces_of_ended (h : Step s t m) {id : Nat} {f : Face} (hf : s.faces id = some f)
    (he : f.phase.isEnded = true) : t.faces id = some f := by
  have other : ∀ {id' : Nat} {f' g : Face}, s.faces id' = some f' → f'.phase.isEnded = false →
      t.faces = s.faces.set id' g → t.faces id = some f := by
    intro id' f' g hf' he' ht
    have hne : id ≠ id' := by
      rintro rfl
      rw [hf] at hf'
      cases hf'
      rw [he] at he'
      cases he'
    rw [ht, Faces.set_ne _ _ hne, hf]
  cases h with
  | work hf' hw ht => exact other hf' (ended_of_works hw).1 ht
  | appeal hf' hp ht | report hf' hp _ _ _ ht | lose hf' hp _ ht | vanish hf' hp ht =>
    exact other hf' (by rw [hp]; rfl) ht
  | @launch _ id' _ f' _ _ hf' ht =>
    by_cases hid : id = id'
    · subst hid
      rw [hf] at hf'
      cases hf'
      have hp : f.phase = .ended := by
        cases hp : f.phase with
        | ended => rfl
        | ready _ | running _ | reporting _ _ | sending _ => rw [hp] at he; cases he
      rw [ht, Faces.set_self]
      obtain ⟨_, _, _, _, _, _⟩ := f
      cases hp
      rfl
    · rw [ht, Faces.set_ne _ _ hid, hf]
  | interrupt ht | skip _ _ _ ht | collect _ _ _ ht | receive _ _ _ _ ht | heed _ _ _ _ ht | close _ _ _ ht
  | conclude _ _ ht => rw [ht, hf]
  | leave _ _ _ ht | abandon _ _ ht | join _ _ _ ht => subst ht; exact hf

theorem Step.faces_of_not_ended (h : Step s t m) {id : Nat} {g : Face} (hg : t.faces id = some g)
    (he : g.phase.isEnded = false) : ∃ f, s.faces id = some f ∧ f.seat = g.seat ∧ f.phase.isEnded = false := by
  have hseat : s.seats id = some g.seat := by rw [← h.seats_eq]; exact seats_of_faces hg
  obtain ⟨f, hf, hfg⟩ := Option.map_eq_some_iff.1 hseat
  refine ⟨f, hf, hfg, ?_⟩
  by_contra hf'
  have := h.faces_of_ended hf (by simpa using hf')
  rw [hg, Option.some.injEq] at this
  subst this
  exact hf' he

theorem Step.hasEnded (h : Step s t m) {id : Nat} (he : s.hasEnded id = true) : t.hasEnded id = true := by
  by_contra hnot
  rw [hasEnded_eq] at he hnot
  cases hg : t.faces id with
  | none => rw [hg] at hnot; exact hnot rfl
  | some g =>
    rw [hg, Option.all_some] at hnot
    obtain ⟨f, hf, -, hf'⟩ := h.faces_of_not_ended hg (by simpa using hnot)
    rw [hf, Option.all_some, hf'] at he
    cases he

end Session

def Run.listens (run : Run) : Prop := run.background = false ∧ run.phase ≠ .joining

/-- **Each stage reports once.** -/
structure Posted (F : Faces) (run : Run) : Prop where
  once : (run.posts.map Prod.fst).Nodup
  ended : ∀ p ∈ run.posts, ∃ id ∈ run.stages, ∃ f, F id = some f ∧ f.index = p.1 ∧ f.phase.isEnded = true
  /-- No report is for a row that has a status. -/
  unfiled : run.listens → ∀ p ∈ run.posts, run.board.status? p.1 = none
  /-- No stage that is at work has a status. -/
  fresh : run.listens → ∀ id ∈ run.stages, ∀ f, F id = some f → f.phase.isEnded = false →
    run.board.status? f.index = none

namespace Posted

variable {s t : Session} {m : Move} {run run' : Run}

theorem index_lt (hp : Posted s.faces run) (hm : Manned s.seats run.charter) {i : Nat} {status : Status}
    (hmem : (i, status) ∈ run.posts) : i < run.board.rows.length := by
  obtain ⟨id, hid, f, hf, hindex, -⟩ := hp.ended _ hmem
  have hindex : f.index = i := hindex
  exact hindex ▸ hm.index_lt hid hf

theorem of_sublist (hstep : Session.Step s t m) (hp : Posted s.faces run) (hposts : run'.posts.Sublist run.posts)
    (hstages : run'.stages = run.stages)
    (hboard : run'.listens → run.listens ∧ ∀ j, run'.board.status? j = run.board.status? j) : Posted t.faces run' where
  once := hp.once.sublist (hposts.map Prod.fst)
  ended := by
    intro p hmem
    obtain ⟨id, hid, f, hf, hi, he⟩ := hp.ended p (hposts.subset hmem)
    exact ⟨id, hstages ▸ hid, f, hstep.faces_of_ended hf he, hi, he⟩
  unfiled := by
    intro hl p hmem
    obtain ⟨hl, hb⟩ := hboard hl
    rw [hb]
    exact hp.unfiled hl p (hposts.subset hmem)
  fresh := by
    intro hl id hid g hg he
    obtain ⟨hl, hb⟩ := hboard hl
    obtain ⟨f, hf, hseat, he⟩ := hstep.faces_of_not_ended hg he
    have hi : f.index = g.index := congrArg Seat.index hseat
    rw [hb, ← hi]
    exact hp.fresh hl id (hstages ▸ hid) f hf he

theorem id_eq (hm : Manned s.seats run.charter) {id id' : Nat} {f f' : Face} (hid : id ∈ run.stages)
    (hid' : id' ∈ run.stages) (hf : s.faces id = some f) (hf' : s.faces id' = some f') (hi : f.index = f'.index) :
    id = id' :=
  hm.apart id hid id' hid' f.seat f'.seat (Session.seats_of_faces hf) (Session.seats_of_faces hf') hi

theorem of_report (hstep : Session.Step s t m) (hm : Manned s.seats run.charter) (hp : Posted s.faces run) {id : Nat}
    {f : Face} {status : Status} (hf : s.faces id = some f) (he : f.phase.isEnded = false) (hn : f.run = run.number)
    (hF : t.faces = s.faces.set id { f with phase := .ended }) :
    Posted t.faces { run with channel := run.channel ++ [.finished f.index status f.path] } := by
  have hid : id ∈ run.stages := hm.mine id f.seat (Session.seats_of_faces hf) hn
  have hposts : Run.posts { run with channel := run.channel ++ [.finished f.index status f.path] } =
      run.posts ++ [(f.index, status)] := by
    rw [Run.posts, List.filterMap_append]
    rfl
  have hnew : ∀ p ∈ run.posts, p.1 ≠ f.index := by
    intro p hmem hi
    obtain ⟨id', hid', f', hf', hi', he'⟩ := hp.ended p hmem
    have := id_eq hm hid' hid hf' hf (hi'.trans hi)
    subst this
    rw [hf, Option.some.injEq] at hf'
    subst hf'
    rw [he] at he'
    cases he'
  constructor
  · rw [hposts, List.map_append, List.nodup_append]
    refine ⟨hp.once, List.nodup_singleton _, ?_⟩
    rintro i hi j hj rfl
    obtain ⟨p, hmem, rfl⟩ := List.mem_map.1 hi
    exact hnew p hmem (List.mem_singleton.1 hj)
  · intro p hmem
    rw [hposts, List.mem_append, List.mem_singleton] at hmem
    rcases hmem with hmem | rfl
    · obtain ⟨id', hid', f', hf', hi', he'⟩ := hp.ended p hmem
      exact ⟨id', hid', f', hstep.faces_of_ended hf' he', hi', he'⟩
    · exact ⟨id, hid, { f with phase := .ended }, by rw [hF, Faces.set_self], rfl, rfl⟩
  · intro hl p hmem
    rw [hposts, List.mem_append, List.mem_singleton] at hmem
    rcases hmem with hmem | rfl
    · exact hp.unfiled hl p hmem
    · exact hp.fresh hl id hid f hf he
  · intro hl id' hid' g hg heg
    obtain ⟨f', hf', hseat, he'⟩ := hstep.faces_of_not_ended hg heg
    have hi : f'.index = g.index := congrArg Seat.index hseat
    rw [← hi]
    exact hp.fresh hl id' hid' f' hf' he'

theorem of_receive (hstep : Session.Step s t m) (hp : Posted s.faces run) {index : Nat} {status : Status}
    {path : String} {channel : List Event} (hch : run.channel = .finished index status path :: channel)
    (hm : Manned s.seats run.charter) :
    Posted t.faces { run with channel, board := run.board.record index status (some path) } := by
  have hposts : run.posts = (index, status) :: channel.filterMap Event.post? := by rw [Run.posts, hch]; rfl
  have honce := hp.once
  rw [hposts, List.map_cons, List.nodup_cons] at honce
  constructor
  · exact honce.2
  · intro p hmem
    obtain ⟨id, hid, f, hf, hi, he⟩ := hp.ended p (by rw [hposts]; exact List.mem_cons_of_mem _ hmem)
    exact ⟨id, hid, f, hstep.faces_of_ended hf he, hi, he⟩
  · intro hl p hmem
    have hne : index ≠ p.1 := by
      intro heq
      exact honce.1 (List.mem_map.2 ⟨p, hmem, heq.symm⟩)
    rw [Board.status?_record_ne _ _ _ hne]
    exact hp.unfiled hl p (by rw [hposts]; exact List.mem_cons_of_mem _ hmem)
  · intro hl id hid g hg he
    obtain ⟨f, hf, hseat, he⟩ := hstep.faces_of_not_ended hg he
    have hi : f.index = g.index := congrArg Seat.index hseat
    have hne : index ≠ f.index := by
      obtain ⟨id', hid', f', hf', hi', he'⟩ := hp.ended (index, status) (by rw [hposts]; exact List.mem_cons_self)
      intro heq
      have := id_eq hm hid' hid hf' hf (hi'.trans heq)
      subst this
      rw [hf, Option.some.injEq] at hf'
      subst hf'
      rw [he] at he'
      cases he'
    rw [← hi, Board.status?_record_ne _ _ _ hne]
    exact hp.fresh hl id hid f hf he

/-- **No way to go on makes a stage report twice.** -/
theorem step (h : Session.Onward s t m run run') (hp : Posted s.faces run) : Posted t.faces run' := by
  obtain ⟨hstep, -, -, hm, -, h⟩ := h
  cases h with
  | work | fade => exact hp.of_sublist hstep (List.Sublist.refl _) rfl (fun hl => ⟨hl, fun _ => rfl⟩)
  | appeal | interrupt =>
    refine hp.of_sublist hstep (by rw [Run.posts_told]) run.told_stages (fun hl => ?_)
    rw [Run.told_board]
    exact ⟨by simpa [Run.listens] using hl, fun _ => rfl⟩
  | report hf hph hn _ hF => exact hp.of_report hstep hm hf (by rw [hph]; rfl) hn hF
  | launch hph =>
    refine hp.of_sublist hstep (List.Sublist.refl _) rfl (fun hl => ?_)
    have hb : run.background = false := hl.1
    exact ⟨⟨hb, by rw [hph]; simp⟩, fun _ => by rw [hb]; rfl⟩
  | collect hph hb =>
    exact hp.of_sublist hstep (List.Sublist.refl _) rfl (fun _ => ⟨⟨hb, by rw [hph]; simp⟩, fun _ => rfl⟩)
  | receive _ hch => exact hp.of_receive hstep hch hm
  | @heed channel hph hch =>
    have hposts : run.posts = channel.filterMap Event.post? := by rw [Run.posts, hch]; rfl
    refine hp.of_sublist hstep (by rw [hposts]; exact List.Sublist.refl _) rfl (fun hl => ?_)
    exact ⟨⟨hl.1, by rw [hph]; simp⟩, Board.status?_requestStop run.board⟩
  | close hph =>
    exact hp.of_sublist hstep (List.Sublist.refl _) rfl (fun hl => ⟨⟨hl.1, by rw [hph]; simp⟩, fun _ => rfl⟩)
  | conclude => exact hp.of_sublist hstep (List.Sublist.refl _) rfl (fun hl => absurd rfl hl.2)

/-- **As long as a stage has not reported, the channel has room**, if no interrupt is on it. -/
theorem room {F : Faces} (hm : Manned s.seats run.charter) (hF : s.faces = F) (hp : Posted F run) {id : Nat} {f : Face}
    (hid : id ∈ run.stages) (hf : F id = some f) (hnot : ∀ st, (f.index, st) ∉ run.posts)
    (hquiet : .interrupt ∉ run.channel) : run.channel.length < run.capacity := by
  subst hF
  have hlen : run.channel.length = (run.posts.map Prod.fst).length := by
    rw [List.length_map, Run.posts, List.length_filterMap_eq_countP]
    refine (List.countP_eq_length.2 (fun e he => ?_)).symm
    cases e with
    | finished index status path => rfl
    | interrupt => exact absurd he hquiet
  -- The places of the reports and of the stage that has none are places of stages, each taken once.
  have hnd : (f.index :: run.posts.map Prod.fst).Nodup := by
    refine List.nodup_cons.2 ⟨fun hmem => ?_, hp.once⟩
    obtain ⟨⟨i, st⟩, hmem, rfl⟩ := List.mem_map.1 hmem
    exact hnot st hmem
  have hsub : f.index :: run.posts.map Prod.fst ⊆ run.stages.map (fun id => ((s.faces id).map Face.index).getD 0) := by
    intro i hi
    rw [List.mem_map]
    rcases List.mem_cons.1 hi with rfl | hi
    · exact ⟨id, hid, by rw [hf]; rfl⟩
    · obtain ⟨p, hmem, rfl⟩ := List.mem_map.1 hi
      obtain ⟨id', hid', f', hf', hi', -⟩ := hp.ended p hmem
      exact ⟨id', hid', by rw [hf', ← hi']; rfl⟩
  have hle := (hnd.subperm hsub).length_le
  rw [List.length_map, List.length_cons, ← hlen] at hle
  have hcap : run.capacity = run.charter.names.length := hm.capacity
  have hfew : run.stages.length ≤ run.charter.names.length := hm.few
  omega

end Posted

namespace Session

variable {s : Session} {clauses : List Clause}

theorem status?_boardOf_of_job {k i : Nat} {job : Job} (hk : (s.jobsOf clauses)[k]? = some (i, job)) :
    (s.boardOf clauses).status? i = none := by
  have hp := mem_jobsOf.1 (List.mem_of_getElem? hk)
  rw [Board.status?, getElem?_boardOf, hp]
  cases clauses[i]? <;> rfl

theorem posted_start : Posted (s.start clauses).faces (s.runOf clauses) where
  once := List.nodup_nil
  ended := fun p hp => absurd hp List.not_mem_nil
  unfiled := fun _ p hp => absurd hp List.not_mem_nil
  fresh := by
    intro _ id hid f hf _
    obtain ⟨k, i, job, hk, rfl⟩ := face_of_mem_idsOf hid hf
    exact status?_boardOf_of_job hk

theorem posted_of_play {t : Session} {moves : List Move} {run : Run} (hs : s.Dated) (hne : clauses ≠ [])
    (h : (s.start clauses).play moves = some t) (hr : t.current = some run) : Posted t.faces run :=
  run_induction (P := fun _ t run => Posted t.faces run) hs hne posted_start
    (fun _ _ _ _ _ _ _ hon hp => hp.step hon) h hr

end Session
end LineShell
