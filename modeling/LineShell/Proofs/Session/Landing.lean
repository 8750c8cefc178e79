import LineShell.Proofs.Builtin.Heeding
import LineShell.Proofs.Session.Plays
/-!
# Landing — where commands end up

The path of a stage changes by its command's own requests only.  `Program.Lands target p path` says that `p`, being at
`path`, is at `target` once it is done, whatever it is answered; a stage launched with such a program has the path
`target` when it reports, in every order of moves (`lands_of_play`).  A builtin other than `cd` lands where it is
called from (`Builtin.lands_execute`).
-/
namespace LineShell
namespace Program

variable {α β : Type} {target path : String}

/-- **Where a program ends up** that is at some path now. -/
def Lands (target : String) : Program α → (path : String) → Prop
  | done _, path => path = target
  | ask q next, path => ∀ reply, (next reply).Lands target (q.moved path)
  | loop _ _ next, path => ∀ result, (next result).Lands target path

theorem moved_of_isWork {q : Request} (h : q.IsWork) (path : String) : q.moved path = path := by
  cases q with
  | moveTo _ => exact h.elim
  | _ => rfl

theorem lands_bind {p : Program α} {stop : α} (hp : p.Heeds Request.IsWork stop) {f : α → Program β}
    (hf : ∀ a, (f a).Lands target path) : (p.bind f).Lands target path := by
  induction p with
  | done a => exact hf a
  | ask q next ih =>
    intro reply
    rw [moved_of_isWork hp.1]
    show ((next reply).bind f).Lands target path
    -- Stopped or not, what follows is reached at the same path.
    cases ht : q.takes reply with
    | true =>
      rw [(hp.2 reply).1 ht]
      exact hf stop
    | false => exact ih reply ((hp.2 reply).2 ht)
  | loop l state next ih =>
    intro result
    show ((next result).bind f).Lands target path
    by_cases hr : result = .error .stopped
    · rw [hr, hp.1]
      exact hf stop
    · exact ih result (hp.2 result hr)

theorem lands_enter {l : Loop} {state : l.State} {next : Except Failure l.Value → Program α}
    (h : (loop l state next).Lands target path) : (enter l state next).Lands target path := by
  have hturn : Heeds Request.IsWork (.error .stopped) (l.turn state : Program (Except Failure (Turn l.State l.Value))) :=
    Loop.heeds_turn l state
  refine lands_bind hturn fun result => ?_
  match result with
  | .ok (.again _) => exact h
  | .ok (.finished value) => exact h (.ok value)
  | .error e => exact h (.error e)

end Program

/-- **A builtin other than `cd` ends up where it is called from**, wherever its last run left it. -/
theorem Builtin.lands_execute {b : Builtin} (hb : b ∈ all) (hcd : b.name ≠ "cd") (call : Call) (path : String) :
    (b.command.execute call).Lands call.path path := by
  have hrun : ∀ path operands, (b.run path operands).Heeds Request.IsWork := by
    rcases heeds_run_or_eq_cd hb with hrun | rfl
    · exact hrun
    · exact absurd rfl hcd
  have hwork : (b.work call >>= fun _ => Action.flush).Heeds Request.IsWork :=
    (heeds_work_of_run (fun _ hq => hq) hrun call).bind fun _ => Action.heeds_flush
  intro reply
  exact Program.lands_bind hwork fun _ => rfl

/-! ## Stages -/

inductive Face.Turns (f : Face) : Face → Prop
  | rest : Turns f f
  | works {g : Face} : Face.Works f g → Turns f g
  | appealed {next : Bool → Program Outcome} (armed : Bool) :
      f.phase = .running (.ask .interrupt next) → Turns f { f with phase := .running (next armed) }
  | ended {status : Status} : f.phase = .sending status → Turns f { f with phase := .ended }
  | launched : Turns f { f with phase := f.phase.launched }

def Face.Lands (target : String) (f : Face) : Prop :=
  match f.phase with
  | .ready p | .running p => p.Lands target f.path
  | .reporting _ _ | .sending _ | .ended => f.path = target

theorem Session.phaseAfter_cases (background : Bool) (status : Status) :
    phaseAfter background status = .sending status ∨
      ∃ pieces, phaseAfter background status = .reporting pieces status := by
  unfold phaseAfter
  split
  · exact .inr ⟨_, rfl⟩
  · exact .inl rfl

theorem Face.Works.lands {f g : Face} {target : String} (h : Works f g) (hf : f.Lands target) : g.Lands target := by
  unfold Face.Lands at hf
  cases h with
  | @answered q next reply path hp _ hpath =>
    rw [hp] at hf
    rw [hpath]
    exact hf reply
  | entered hp =>
    rw [hp] at hf
    exact Program.lands_enter hf
  | @closed outcome hp =>
    rw [hp] at hf
    have hpath : f.path = target := hf
    rcases Session.phaseAfter_cases f.background (Status.ofOutcome f.name outcome) with h | ⟨pieces, h⟩ <;>
      simp only [Face.Lands, h, hpath]
  | shown hp | ready hp =>
    rw [hp] at hf
    exact hf

/-- **No move takes a stage off its way.** -/
theorem Face.Turns.lands {f g : Face} {target : String} (h : Turns f g) (hf : f.Lands target) : g.Lands target := by
  cases h with
  | rest => exact hf
  | works hw => exact hw.lands hf
  | appealed armed hp =>
    unfold Face.Lands at hf
    rw [hp] at hf
    exact hf armed
  | ended hp =>
    unfold Face.Lands at hf
    rw [hp] at hf
    exact hf
  | launched =>
    unfold Face.Lands at hf ⊢
    cases hp : f.phase <;> rw [hp] at hf <;> exact hf

namespace Session

variable {s t : Session} {m : Move} {moves : List Move}

/-- **What a move makes of each stage.** -/
theorem Step.turns (h : Step s t m) {id : Nat} {g : Face} (hg : t.faces id = some g) :
    ∃ f, s.faces id = some f ∧ Face.Turns f g := by
  have same : t.faces = s.faces → ∃ f, s.faces id = some f ∧ Face.Turns f g := fun ht => ⟨g, ht ▸ hg, .rest⟩
  have one : ∀ {id' : Nat} {f g' : Face}, s.faces id' = some f → t.faces = s.faces.set id' g' → Face.Turns f g' →
      ∃ f, s.faces id = some f ∧ Face.Turns f g := by
    intro id' f g' hf ht hturn
    rw [ht] at hg
    by_cases hid : id = id'
    · subst hid
      rw [Faces.set_self, Option.some.injEq] at hg
      exact ⟨f, hf, hg ▸ hturn⟩
    · rw [Faces.set_ne _ _ hid] at hg
      exact ⟨g, hg, .rest⟩
  cases h with
  | work hf hw ht => exact one hf ht (.works hw)
  | appeal hf hp ht => exact one hf ht (.appealed _ hp)
  | report hf hp _ _ _ ht | lose hf hp _ ht | vanish hf hp ht => exact one hf ht (.ended hp)
  | launch _ _ hf ht => exact one hf ht .launched
  | interrupt ht | skip _ _ _ ht | collect _ _ _ ht | receive _ _ _ _ ht | heed _ _ _ _ ht | close _ _ _ ht
  | conclude _ _ ht => exact same ht
  | leave _ _ _ ht | abandon _ _ ht | join _ _ _ ht => exact same (ht ▸ rfl)

/-- **A stage that is on its way to a path gets there**, in every order of moves. -/
theorem lands_of_play {id : Nat} {target : String} (hs : ∀ f, s.faces id = some f → f.Lands target)
    (h : s.play moves = some t) : ∀ f, t.faces id = some f → f.Lands target := by
  refine play_keeps (P := fun t => ∀ f, t.faces id = some f → f.Lands target) ?_ hs h
  intro u m t hu hm g hg
  obtain ⟨f, hf, hturn⟩ := (step_of_step? hm).turns hg
  exact hturn.lands (hu f hf)

end Session
end LineShell
