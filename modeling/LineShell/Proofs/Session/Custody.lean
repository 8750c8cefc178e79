import LineShell.Proofs.Session.Reach
import LineShell.Proofs.Session.Silence
/-!
# Custody — no stage is forgotten

A stage that has not ended is in somebody's custody: of the run it belongs to as long as that is under way, and of the
session's list of detached stages afterwards (`Held`, kept by every step of a session's life).  So waiting for the detached
stages is waiting for all there ever were, and since the console only grows (`Marks`) everything they wrote is there then,
the line about an error of a stage in the background included (`no_stage_forgotten`).
-/
namespace LineShell

/-- The pieces of a line stand on `now` in their order, after all that stood on `since` already. -/
def Transcript.Shows (since now : Transcript) (line : List String) : Prop :=
  ∃ added, now.pieces = added ++ since.pieces ∧ (line.map Bytes.ofString).reverse.Sublist added

namespace Transcript.Shows

variable {since now now' : Transcript} {line : List String}

theorem nil (h : since.Extends now) : since.Shows now [] := by
  obtain ⟨added, h⟩ := h
  exact ⟨added, h.symm, List.nil_sublist _⟩

theorem mono (h : since.Shows now line) (h' : now.Extends now') : since.Shows now' line := by
  obtain ⟨added, heq, hsub⟩ := h
  obtain ⟨more, hmore⟩ := h'
  refine ⟨more ++ added, by rw [← hmore, heq, List.append_assoc], hsub.trans (List.sublist_append_right _ _)⟩

theorem write (h : since.Shows now line) (piece : String) :
    since.Shows (now.write (Bytes.ofString piece)) (line ++ [piece]) := by
  obtain ⟨added, heq, hsub⟩ := h
  refine ⟨Bytes.ofString piece :: added, by rw [Transcript.write, heq]; rfl, ?_⟩
  rw [List.map_append, List.reverse_append]
  exact hsub.cons_cons _

end Transcript.Shows

namespace Session

variable {s₀ s t u : Session} {clauses : List Clause} {moves : List Move} {m : Move} {id : Nat}

/-! ## Who holds a stage -/

/-- **A stage that has not ended is held** by the list of detached stages or by the run under way. -/
def Held (s : Session) (id : Nat) : Prop :=
  s.hasEnded id = true ∨ id ∈ s.detached ∨ ∃ run, s.current = some run ∧ id ∈ run.stages

theorem Step.detached (h : Step s t m) (hid : id ∈ s.detached) : id ∈ t.detached := by
  cases h with
  | work _ _ _ _ h | lose _ _ _ _ _ h | vanish _ _ _ _ h | appeal _ _ _ _ h | interrupt _ _ h
  | report _ _ _ _ _ _ _ h | launch _ _ _ _ _ h | skip _ _ _ _ _ h | collect _ _ _ _ _ h | receive _ _ _ _ _ _ h
  | heed _ _ _ _ _ _ h | close _ _ _ _ _ h | conclude _ _ _ _ h => rwa [h.detached]
  | leave _ _ _ h | abandon _ _ h =>
    subst h
    exact List.mem_append_left _ hid
  | join _ _ _ h => subst h; exact hid

/-- **Every move keeps hold of every stage**: a run that ends detaches its stages or has seen them end. -/
theorem Step.held (h : Step s t m) (hid : s.Held id) : t.Held id := by
  obtain he | hdet | ⟨run, hr, hmem⟩ := hid
  · exact .inl (h.hasEnded he)
  · exact .inr (.inl (h.detached hdet))
  -- The run holds the stage: it goes on to, or it has just come to one of its three ends.
  cases hr' : t.current with
  | some run' =>
    have hstages : run'.stages = run.stages := congrArg Charter.stages (h.charter_eq hr hr')
    exact .inr (.inr ⟨run', hr', hstages ▸ hmem⟩)
  | none =>
    obtain ⟨-, -, rfl⟩ | ⟨-, rfl⟩ | ⟨-, hall, -⟩ := (h.ends hr hr').2
    · exact .inr (.inl (List.mem_append_right _ hmem))
    · exact .inr (.inl (List.mem_append_right _ hmem))
    · exact .inl (h.hasEnded (hall id hmem))

theorem detached_start (s : Session) (clauses : List Clause) :
    (s.start clauses).detached = s.detached.filter (fun id => !s.hasEnded id) := by
  unfold start
  dsimp only
  split <;> rfl

theorem held_start (hnone : s.current = none) (hs : ∀ id, s.Held id) (id : Nat) : (s.start clauses).Held id := by
  by_cases hlt : id < s.stages.size
  · have hsame : (s.start clauses).hasEnded id = s.hasEnded id := by rw [hasEnded, stages_start_of_lt hlt, hasEnded]
    rw [Held, hsame, detached_start, List.mem_filter]
    obtain he | hdet | ⟨run, hr, -⟩ := hs id
    · exact .inl he
    · by_cases he : s.hasEnded id = true
      · exact .inl he
      · exact .inr (.inl ⟨hdet, by simpa using he⟩)
    · rw [hnone] at hr; cases hr
  · by_cases hmem : id ∈ s.idsOf clauses
    · have hne : clauses ≠ [] := by rintro rfl; exact List.not_mem_nil hmem
      exact .inr (.inr ⟨_, current_start hne, hmem⟩)
    · left
      have hout : (s.start clauses).stages[id]? = none := by
        refine Array.getElem?_eq_none ?_
        by_contra hin
        rw [size_stages_start] at hin
        exact hmem (mem_idsOf.2 ⟨id - s.stages.size, by omega, by omega⟩)
      rw [hasEnded, hout]

/-- **At any time every stage there is has ended or is held.** -/
theorem Becomes.held (h₀ : s₀.Opened) (h : s₀.Becomes s) : ∀ id, s.Held id := by
  obtain ⟨past, hlives⟩ := h
  induction hlives with
  | here =>
    intro id
    left
    simp [hasEnded, h₀.stages]
  | next _ hd ih =>
    cases hd with
    | moved hm => exact fun id => (step_of_step? hm).held (ih id)
    | started _ hnone => exact held_start hnone ih
    | waited hnone hw =>
      obtain ⟨hall, rfl⟩ := waitBackground?_eq_some hw
      intro id
      obtain he | hdet | ⟨run, hr, -⟩ := ih id
      · exact .inl he
      · exact .inl (hall id hdet)
      · rw [hnone] at hr; cases hr
    | enrolled | changed => exact ih

/-- **A run in the foreground that is not cut short waits for its stages.** -/
theorem ended_of_return (hs : s.Dated) (hfront : clauses.any Clause.background = false)
    (h : (s.start clauses).play moves = some t) (hnone : t.current = none)
    (hwhole : ¬ (s.start clauses).Passes moves CutShort) : ∀ id ∈ s.idsOf clauses, t.hasEnded id = true := by
  by_cases hne : clauses = []
  · subst hne
    exact fun id hid => nomatch hid
  refine play_induction (P := fun moves t => t.current = none → ¬ (s.start clauses).Passes moves CutShort →
    ∀ id ∈ s.idsOf clauses, t.hasEnded id = true) ?_ ?_ h hnone hwhole
  · intro hnone
    rw [current_start hne] at hnone
    cases hnone
  intro before u m t hu ih hm hnone hwhole id hid
  have hstep := step_of_step? hm
  cases hr : u.current with
  | none => exact hstep.hasEnded (ih hr (fun hp => hwhole (hp.append [m])) id hid)
  | some run =>
    obtain ⟨-, hcharter, -, -⟩ := underway hs hne hu hr
    rcases (hstep.ends hr hnone).2 with ⟨-, hback, -⟩ | ⟨hcut, -⟩ | ⟨-, hall, -⟩
    · have hb : run.background = clauses.any Clause.background := congrArg Charter.background hcharter
      rw [hb, hfront] at hback
      cases hback
    · exact absurd ((Passes.last hu ⟨run, hr, hcut⟩).append [m]) hwhole
    · rw [show s.idsOf clauses = run.stages from (congrArg Charter.stages hcharter).symm] at hid
      exact hstep.hasEnded (hall id hid)

/-- **Where everything has ended, nothing happens any more.** -/
theorem eq_of_play_ended (hended : ∀ id, s.hasEnded id = true) (hnone : s.current = none) (h : s.play moves = some t) :
    t = s := by
  refine play_keeps (P := fun t => t = s) ?_ rfl h
  rintro u m t rfl hm
  have hdrive : u.drive? = none := by unfold drive?; rw [hnone]
  obtain rfl := eq_interrupt hended hdrive hm
  have ht : u.trigger.2 = t := Option.some.inj hm
  rw [← ht, trigger_of_not_armed (by simp [isArmed, hnone])]

/-! ## What is written -/

/-- **The console of a session only grows.** -/
theorem Becomes.console (h : s.Becomes t) : s.console.Extends t.console := by
  obtain ⟨past, hlives⟩ := h
  induction hlives with
  | here => exact .refl _
  | next _ hd ih =>
    cases hd with
    | moved hm => exact ih.trans (marks_of_step? hm).console
    | started clauses => exact ih.trans (.of_eq (console_start _ clauses))
    | waited _ hw =>
      obtain ⟨-, rfl⟩ := waitBackground?_eq_some hw
      exact ih
    | enrolled => exact ih
    | changed _ _ _ _ _ _ hgrows => exact ih.trans hgrows

theorem output_of_write {stage : Stage} {data : Bytes} {next : Request.Reply (.write data) → Program Outcome}
    {most : Nat} (hs : s.stages[id]? = some stage) (hp : stage.phase = .running (.ask (.write data) next))
    (hout : stage.streams.output = .console) (h : s.step? (.advance id most) = some t) :
    t.console.output = s.console.output.write data := by
  have h : s.advance? id most = some t := h
  unfold advance? at h
  simp only [hs, hp, answer?, writeOutput?, hout] at h
  cases h
  rfl

theorem Step.faces_cases {f : Face} (h : Step s t m) (hf : s.faces id = some f) :
    t.faces id = some f ∨ (∃ most, m = .advance id most) ∨ m = .vanish id ∨
      t.faces id = some { f with phase := f.phase.launched } := by
  have other : ∀ {id' : Nat} {g : Face}, t.faces = s.faces.set id' g → id ≠ id' → t.faces id = some f := by
    intro id' g ht hne
    rw [ht, Faces.set_ne _ _ hne, hf]
  cases h with
  | @work id' most _ _ _ _ ht | @appeal id' most _ _ _ _ ht | @report id' most _ _ _ _ _ _ _ _ ht
  | @lose id' most _ _ _ _ _ ht =>
    by_cases hid : id = id'
    · exact .inr (.inl ⟨most, hid ▸ rfl⟩)
    · exact .inl (other ht hid)
  | @vanish id' _ _ _ _ ht =>
    by_cases hid : id = id'
    · exact .inr (.inr (.inl (hid ▸ rfl)))
    · exact .inl (other ht hid)
  | @launch _ id' _ _ _ _ hf' ht =>
    by_cases hid : id = id'
    · subst hid
      rw [hf] at hf'
      cases hf'
      exact .inr (.inr (.inr (by rw [ht, Faces.set_self])))
    · exact .inl (other ht hid)
  | interrupt ht | skip _ _ _ ht | collect _ _ _ ht | receive _ _ _ _ ht | heed _ _ _ _ ht | close _ _ _ ht
  | conclude _ _ ht => exact .inl (ht ▸ hf)
  | leave _ _ _ ht | abandon _ _ ht | join _ _ _ ht => subst ht; exact .inl hf

/-- **A stage on its way to have shown a line**: its command is done, part of the line is shown, or all of it. -/
inductive Tells (since : Transcript) (line : List String) (s : Session) (id : Nat) : Prop
  | done {f : Face} {outcome : Outcome} {status : Status} :
      s.faces id = some f → f.phase = .running (.done outcome) →
      phaseAfter f.background (Status.ofOutcome f.name outcome) = .reporting line status →
      since.Extends s.console.error → Tells since line s id
  | showing {f : Face} {shown left : List String} {status : Status} :
      s.faces id = some f → f.phase = .reporting left status → shown ++ left = line →
      since.Shows s.console.error shown → Tells since line s id
  | sending {f : Face} {status : Status} :
      s.faces id = some f → f.phase = .sending status → since.Shows s.console.error line → Tells since line s id
  | ended {f : Face} :
      s.faces id = some f → f.phase.isEnded = true → since.Shows s.console.error line → Tells since line s id

namespace Tells

variable {since : Transcript} {line : List String}

theorem of_faces (h : Tells since line s id) (hf : t.faces id = s.faces id) (he : s.console.Extends t.console) :
    Tells since line t id := by
  cases h with
  | done hs hp hline hsince => exact .done (hf ▸ hs) hp hline (hsince.trans he.error)
  | showing hs hp hline hshown => exact .showing (hf ▸ hs) hp hline (hshown.mono he.error)
  | sending hs hp hshown => exact .sending (hf ▸ hs) hp (hshown.mono he.error)
  | ended hs he' hshown => exact .ended (hf ▸ hs) he' (hshown.mono he.error)

theorem lt_size (h : Tells since line s id) : id < s.stages.size := by
  obtain ⟨f, hf⟩ : ∃ f, s.faces id = some f := by
    cases h with
    | done hf | showing hf | sending hf | ended hf => exact ⟨_, hf⟩
  obtain ⟨stage, hs, -⟩ := faces_eq_some.1 hf
  exact (Array.getElem?_eq_some_iff.1 hs).1

theorem advance {most : Nat} (h : Tells since line s id) (hm : s.advance? id most = some t) :
    Tells since line t id := by
  have hconsole : s.console.Extends t.console := (marks_advance hm).console
  obtain ⟨stage, hs, hadv⟩ := advances_of_advance? hm
  have hface := faces_of_getElem? hs
  -- By how far the stage has come: each phase leaves it one step to make, and a line another for its end.
  cases h with
  | done hf hp hline hsince =>
    rw [hface, Option.some.injEq] at hf
    subst hf
    have hp : stage.phase = .running (.done _) := hp
    cases hadv with
    | done hp' =>
      rw [hp] at hp'
      cases hp'
      exact .showing (faces_setPhase_of_eq (faces_closeEnds s _) hs _ ▸ Faces.set_self _ _ _) hline
        (List.nil_append _) (.nil (hsince.trans hconsole.error))
    | entered hp' | answered hp' | shown hp' | ready hp' | sent hp' => rw [hp] at hp'; cases hp'
  | showing hf hp hline hshown =>
    rw [hface, Option.some.injEq] at hf
    subst hf
    have hp : stage.phase = .reporting _ _ := hp
    cases hadv with
    | shown hp' =>
      rw [hp] at hp'
      cases hp'
      refine .showing (faces_setPhase_of_eq rfl hs _ ▸ Faces.set_self _ _ _) rfl ?_ (hshown.write _)
      rw [← hline, List.append_assoc]
      rfl
    | ready hp' =>
      rw [hp] at hp'
      cases hp'
      rw [List.append_nil] at hline
      exact .sending (faces_setPhase_of_eq rfl hs _ ▸ Faces.set_self _ _ _) rfl (hline ▸ hshown)
    | done hp' | entered hp' | answered hp' | sent hp' => rw [hp] at hp'; cases hp'
  | sending hf hp hshown =>
    rw [hface, Option.some.injEq] at hf
    subst hf
    have hp : stage.phase = .sending _ := hp
    cases hadv with
    | sent hp' hsend =>
      obtain ⟨current, rfl⟩ := send?_eq hsend
      refine .ended (f := { stage.face with phase := .ended }) ?_ rfl (hshown.mono hconsole.error)
      show (s.endStage id).faces id = _
      rw [faces_endStage, Faces.modify_self, hface]
      rfl
    | done hp' | entered hp' | answered hp' | shown hp' | ready hp' => rw [hp] at hp'; cases hp'
  | ended hf hend =>
    rw [advance?_of_hasEnded (by rw [hasEnded_eq, hf]; exact hend)] at hm
    cases hm

/-- **No move holds a stage up.** -/
theorem move (h : Tells since line s id) (hm : s.step? m = some t) : Tells since line t id := by
  have hstep := step_of_step? hm
  have hconsole := (marks_of_step? hm).console
  have keep : ∀ {f : Face}, s.faces id = some f → f.phase.launched = f.phase →
      (t.faces id = s.faces id ∨ (∃ most, m = .advance id most) ∨ m = .vanish id) := by
    intro f hf hsame
    obtain hf' | hm | hm | hf' := hstep.faces_cases hf
    · exact .inl (hf'.trans hf.symm)
    · exact .inr (.inl hm)
    · exact .inr (.inr hm)
    · rw [hsame] at hf'
      exact .inl (hf'.trans hf.symm)
  -- Whoever is not about to report cannot vanish.
  have stays : ∀ {f : Face}, s.faces id = some f → f.phase.launched = f.phase → (∀ status, f.phase ≠ .sending status) →
      Tells since line t id := by
    intro f hf hsame hnot
    obtain hkeep | ⟨most, rfl⟩ | rfl := keep hf hsame
    · exact h.of_faces hkeep hconsole
    · exact h.advance hm
    · cases hstep with
      | vanish hf' hp =>
        rw [hf] at hf'
        cases hf'
        exact absurd hp (hnot _)
  cases h with
  | done hf hp => exact stays hf (by rw [hp]; rfl) (by simp [hp])
  | showing hf hp => exact stays hf (by rw [hp]; rfl) (by simp [hp])
  | sending hf hp hshown =>
    obtain hkeep | ⟨most, rfl⟩ | rfl := keep hf (by rw [hp]; rfl)
    · exact Tells.of_faces (.sending hf hp hshown) hkeep hconsole
    · exact Tells.advance (.sending hf hp hshown) hm
    · cases hstep with
      | vanish hf' hp' ht =>
        exact .ended (ht ▸ Faces.set_self _ _ _) rfl (hshown.mono hconsole.error)
  | ended hf hend hshown => exact .ended (hstep.faces_of_ended hf hend) hend (hshown.mono hconsole.error)

theorem becomes (h : Tells since line s id) (hb : s.Becomes t) : Tells since line t id := by
  obtain ⟨past, hlives⟩ := hb
  induction hlives with
  | here => exact h
  | next _ hd ih =>
    cases hd with
    | moved hm => exact ih.move hm
    | started clauses => exact ih.of_faces (faces_start_of_lt ih.lt_size) (.of_eq (console_start _ clauses))
    | waited _ hw =>
      obtain ⟨-, rfl⟩ := waitBackground?_eq_some hw
      exact ih.of_faces rfl (.refl _)
    | enrolled => exact ih.of_faces rfl (.refl _)
    | changed _ _ _ _ _ _ hgrows => exact ih.of_faces rfl hgrows

theorem shows (h : Tells since line s id) (he : s.hasEnded id = true) : since.Shows s.console.error line := by
  cases h with
  | ended _ _ hshown | sending _ _ hshown => exact hshown
  | done hf hp | showing hf hp => simp [hasEnded_eq, hf, hp, Phase.isEnded] at he

end Tells

/-! ## Waiting -/

theorem ended_or_detached (h₀ : s₀.Opened) (h : s₀.Becomes t) (hnone : t.current = none) (id : Nat) :
    t.hasEnded id = true ∨ id ∈ t.detached := by
  obtain he | hdet | ⟨run, hr, -⟩ := h.held h₀ id
  · exact .inl he
  · exact .inr hdet
  · rw [hnone] at hr; cases hr

/-- **Waiting is over when every stage there ever was has ended**, and not before. -/
theorem isSome_waitBackground? (h₀ : s₀.Opened) (h : s₀.Becomes t) (hnone : t.current = none) :
    t.waitBackground?.isSome = true ↔ ∀ id, t.hasEnded id = true := by
  have hsome : t.waitBackground?.isSome = true ↔ ∀ id ∈ t.detached, t.hasEnded id = true := by
    rw [← List.all_eq_true, waitBackground?]
    split <;> simp_all
  rw [hsome]
  exact ⟨fun hall id => (ended_or_detached h₀ h hnone id).elim (fun he => he) (hall id), fun hall id _ => hall id⟩

/-- **No stage is forgotten.**  Between runs every stage has ended or is detached; those of a run in the foreground have
ended once it is over, unless it was cut short.  After waiting every stage has ended, nothing happens any more, and the
console has all that any stage wrote to it and the line about the error of any stage in the background. -/
theorem no_stage_forgotten (h₀ : s₀.Opened) (h : s₀.Becomes t) (hnone : t.current = none) :
    (∀ id, t.hasEnded id = true ∨ id ∈ t.detached) ∧
    (∀ (s : Session) clauses moves, s₀.Becomes s → clauses.any Clause.background = false →
      (s.start clauses).play moves = some t → ¬ (s.start clauses).Passes moves CutShort →
      ∀ id ∈ s.idsOf clauses, t.hasEnded id = true) ∧
    (t.waitBackground?.isSome = true ↔ ∀ id, t.hasEnded id = true) ∧
    ∀ u, t.waitBackground? = some u →
      (∀ id, u.hasEnded id = true) ∧ (∀ moves v, u.play moves = some v → v = u) ∧
      ∀ (v : Session) (id : Nat) (stage : Stage), v.stages[id]? = some stage →
        (∀ data next most (w : Session), stage.phase = .running (.ask (.write data) next) → stage.streams.output = .console →
          v.step? (.advance id most) = some w → w.Becomes t →
          (v.console.output.write data).Extends u.console.output) ∧
        ∀ outcome status e, stage.background = true → stage.phase = .running (.done outcome) →
          Status.Of stage.name outcome status → status.error = some e → v.Becomes t →
          v.console.error.Shows u.console.error [stage.name, ": ", e, "\n"] := by
  refine ⟨ended_or_detached h₀ h hnone, fun s clauses moves hs hfront hplay hwhole => ?_,
    isSome_waitBackground? h₀ h hnone, fun u hu => ?_⟩
  · exact ended_of_return (hs.dated h₀) hfront hplay hnone hwhole
  have hall := (isSome_waitBackground? h₀ h hnone).1 (hu ▸ rfl)
  obtain ⟨-, rfl⟩ := waitBackground?_eq_some hu
  refine ⟨hall, fun moves v hv => eq_of_play_ended hall hnone hv, fun v id stage hs => ⟨?_, ?_⟩⟩
  · intro data next most w hp hout hw hlife
    rw [← output_of_write hs hp hout hw]
    exact hlife.console.output
  · intro outcome status e hback hp hstatus he hlife
    have hline : phaseAfter stage.face.background (Status.ofOutcome stage.face.name outcome) =
        .reporting [stage.name, ": ", e, "\n"] status := by
      show phaseAfter stage.background (Status.ofOutcome stage.name outcome) = _
      simp only [← Status.of_iff.1 hstatus, phaseAfter, hback, he, hstatus.command_eq]
    have htells : Tells v.console.error [stage.name, ": ", e, "\n"] v id :=
      .done (faces_of_getElem? hs) hp hline List.suffix_rfl
    exact (htells.becomes hlife).shows (hall id)

def brittle : Session := { small with registry := ⟨["exit"], [⟨"go", "/", fun _ => .done .brokeDown⟩]⟩ }

/-- The stage of that command is waited for in the background: what it says of its end is on the console then. -/
theorem no_stage_forgotten_brittle :
    ∃ t u : Session, brittle.Opened ∧ brittle.Becomes t ∧ t.current = none ∧ t.detached = [0] ∧
      t.waitBackground? = some u ∧ (∀ id, u.hasEnded id = true) ∧ u.console.error.pieces =
        [Bytes.ofString "\n", Bytes.ofString "command panicked", Bytes.ofString ": ", Bytes.ofString "go"] := by
  obtain ⟨t, ht, hnone, hdet, u, hu, hpieces⟩ :
      ∃ t, (brittle.start [{ name := "go", background := true }]).play
          ([.drive, .drive] ++ List.replicate 7 (.advance 0 0)) = some t ∧
        t.current = none ∧ t.detached = [0] ∧ ∃ u, t.waitBackground? = some u ∧ u.console.error.pieces =
          [Bytes.ofString "\n", Bytes.ofString "command panicked", Bytes.ofString ": ", Bytes.ofString "go"] :=
    ⟨_, rfl, rfl, rfl, _, rfl, rfl⟩
  have hopened : brittle.Opened := ⟨rfl, rfl, rfl, rfl⟩
  have hlife : brittle.Becomes t := becomes_of_run rfl ht
  exact ⟨t, u, hopened, hlife, hnone, hdet, hu, ((no_stage_forgotten hopened hlife hnone).2.2.2 u hu).1, hpieces⟩

end Session
end LineShell
