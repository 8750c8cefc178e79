import LineShell.Proofs.Command.Proceeding
import LineShell.Proofs.Session.Landing
/-!
# Following — what a stage has been answered so far

Whatever else happens in a session, a stage follows the course of the program it was launched with: what is left of it
is what the program comes to under the exchanges so far, and the path is the one that these have led to
(`follows_of_play`).  The streams of a stage can always be flushed, so none of these exchanges is a flush that failed.
-/
namespace LineShell
namespace Exchange

/-- Where a command that is at some path is after some exchanges. -/
def pathAfter (path : String) (es : List Exchange) : String := es.foldl (fun path e => e.request.moved path) path

theorem pathAfter_append (path : String) (front back : List Exchange) :
    pathAfter path (front ++ back) = pathAfter (pathAfter path front) back := List.foldl_append ..

def FailsToFlush (e : Exchange) : Prop := ∃ fault, e = ⟨.flush, .error fault⟩

theorem not_failsToFlush_of_ne {q : Request} (h : q ≠ .flush) (reply : q.Reply) : ¬ FailsToFlush ⟨q, reply⟩ := by
  rintro ⟨fault, he⟩
  exact h (congrArg Exchange.request he)

end Exchange

/-- What a stage has been answered so far, and what its program and its path have come to by that. -/
def Face.Follows (p : Program Outcome) (own : String) (f : Face) : Prop :=
  match f.phase with
  | .ready p' | .running p' =>
    ∃ es, p.Proceeds es p' ∧ f.path = Exchange.pathAfter own es ∧ ∀ e ∈ es, ¬ e.FailsToFlush
  | .reporting _ _ | .sending _ | .ended => True

namespace Face

variable {f : Face} {p p' r : Program Outcome} {own : String}

theorem follows_of_running (hp : f.phase = .running p') : f.Follows p own ↔
    ∃ es, p.Proceeds es p' ∧ f.path = Exchange.pathAfter own es ∧ ∀ e ∈ es, ¬ e.FailsToFlush := by
  unfold Follows
  rw [hp]

theorem follows_of_sending {status : Status} (hp : f.phase = .sending status) : f.Follows p own := by
  unfold Follows
  rw [hp]
  trivial

theorem follows_of_reporting {pieces : List String} {status : Status} (hp : f.phase = .reporting pieces status) :
    f.Follows p own := by
  unfold Follows
  rw [hp]
  trivial

theorem Follows.answered {q : Request} {next : q.Reply → Program Outcome} (hf : f.Follows p own)
    (hp : f.phase = .running (.ask q next)) (reply : q.Reply) (hreply : ¬ Exchange.FailsToFlush ⟨q, reply⟩) :
    Follows p own { f with phase := .running (next reply), path := q.moved f.path } := by
  obtain ⟨es, hes, hpath, hflush⟩ := (follows_of_running hp).1 hf
  refine (follows_of_running rfl).2 ⟨es ++ [⟨q, reply⟩], hes.trans (.ask reply (.refl _)), ?_, fun e he => ?_⟩
  · rw [Exchange.pathAfter_append, ← hpath]
    rfl
  · rcases List.mem_append.1 he with he | he
    · exact hflush e he
    · rwa [List.mem_singleton.1 he]

end Face

namespace Session

variable {s t : Session} {m : Move} {moves : List Move} {id : Nat} {f g : Face}

/-- **A flush of a stage's streams does not fail.** -/
theorem flushed_of_step? {next : Except Fault Unit → Program Outcome} (hf : s.faces id = some f)
    (hp : f.phase = .running (.ask .flush next)) (h : s.step? m = some t) (hg : t.faces id = some g) :
    g = f ∨ g = { f with phase := .running (next (.ok ())) } := by
  have same : t.faces = s.faces → g = f := fun ht => Option.some.inj (hg.symm.trans (ht ▸ hf))
  have other : ∀ {id' : Nat} {g' : Face}, id ≠ id' → t.faces = s.faces.set id' g' → g = f := fun hne ht => by
    rw [ht, Faces.set_ne _ _ hne, hf] at hg
    exact (Option.some.inj hg).symm
  -- It is only by its own advance that the stage itself changes.
  by_cases hm : ∃ most, m = .advance id most
  · obtain ⟨most, rfl⟩ := hm
    obtain ⟨stage, hs, hadv⟩ := advances_of_advance? h
    obtain rfl : stage.face = f := Option.some.inj ((faces_of_getElem? hs).symm.trans hf)
    cases hadv with
    | answered hq ha =>
      cases hq.symm.trans hp
      cases ha
      rw [faces_setPhase, Faces.modify_eq_set _ _ hf, Faces.set_self, Option.some.injEq] at hg
      exact .inr hg.symm
    | done hq | entered hq | shown hq | ready hq | sent hq => cases hq.symm.trans hp
  left
  cases step_of_step? h with
  | work _ _ ht | appeal _ _ ht | report _ _ _ _ _ ht | lose _ _ _ ht =>
    exact other (fun hid => hm ⟨_, by rw [hid]⟩) ht
  | vanish hf' hp' ht =>
    refine other (fun hid => ?_) ht
    subst hid
    obtain rfl := Option.some.inj (hf'.symm.trans hf)
    cases hp'.symm.trans hp
  | @launch _ id' _ f' _ _ hf' ht =>
    by_cases hid : id = id'
    · subst hid
      obtain rfl := Option.some.inj (hf'.symm.trans hf)
      rw [ht, Faces.set_self, Option.some.injEq] at hg
      rw [← hg, hp]
      exact congrArg (fun phase => { f' with phase }) hp.symm
    · exact other hid ht
  | interrupt ht | skip _ _ _ ht | collect _ _ _ ht | receive _ _ _ _ ht | heed _ _ _ _ ht | close _ _ _ ht
  | conclude _ _ ht => exact same ht
  | leave _ _ _ ht | abandon _ _ ht | join _ _ _ ht => exact same (ht ▸ rfl)

theorem follows_of_step? {p : Program Outcome} {own : String} (hs : ∀ f, s.faces id = some f → f.Follows p own)
    (h : s.step? m = some t) (hg : t.faces id = some g) : g.Follows p own := by
  obtain ⟨f, hf, hturn⟩ := (step_of_step? h).turns hg
  have hfollows := hs f hf
  cases hturn with
  | rest => exact hfollows
  | works hw =>
    cases hw with
    | @answered q next reply path hp _ hpath =>
      subst hpath
      by_cases hq : q = .flush
      · subst hq
        rcases flushed_of_step? hf hp h hg with hsame | hflushed
        · exact hsame ▸ hfollows
        · exact hflushed ▸ hfollows.answered hp (.ok ()) fun ⟨_, he⟩ => by cases he
      · exact hfollows.answered hp reply (Exchange.not_failsToFlush_of_ne hq reply)
    | entered hp =>
      obtain ⟨es, hes, hpath, hflush⟩ := (Face.follows_of_running hp).1 hfollows
      refine (Face.follows_of_running rfl).2 ⟨es, ?_, hpath, hflush⟩
      simpa using hes.trans (.enter (.refl _))
    | @closed outcome hp =>
      rcases phaseAfter_cases f.background (Status.ofOutcome f.name outcome) with hafter | ⟨pieces, hafter⟩
      · exact Face.follows_of_sending hafter
      · exact Face.follows_of_reporting hafter
    | shown hp => exact Face.follows_of_reporting rfl
    | ready hp => exact Face.follows_of_sending rfl
  | appealed armed hp => exact hfollows.answered hp armed fun ⟨_, he⟩ => by cases he
  | ended hp => exact trivial
  | launched =>
    unfold Face.Follows at hfollows ⊢
    cases hp : f.phase <;> rw [hp] at hfollows <;> exact hfollows

/-- **A stage follows the course of the program it was launched with**, in every order of moves. -/
theorem follows_of_play {p : Program Outcome} {own : String} (hs : s.faces id = some f) (hp : f.phase = .ready p)
    (hown : f.path = own) (h : s.play moves = some t) : ∀ g, t.faces id = some g → g.Follows p own := by
  refine play_keeps (P := fun t => ∀ g, t.faces id = some g → g.Follows p own)
    (fun u m t hu hm g hg => follows_of_step? hu hm hg) (fun g hg => ?_) h
  obtain rfl := Option.some.inj (hs.symm.trans hg)
  unfold Face.Follows
  rw [hp]
  exact ⟨[], .refl p, hown, nofun⟩

end Session
end LineShell
