import LineShell.Proofs.Session.Lifetime
import LineShell.Proofs.Session.Reports
/-!
# Marks — what moves leave in slots and on the console

Besides the faces of stages and the run under way, a move leaves marks in two places: a stop slot may be filled, emptied
or given up, and the console may be written to.  `Marks` says of every move (`marks_of_step?`) that it fills no slot but
those of the run that it interrupts, that none is given up but by a stage that ends, and that nothing is taken off the
console.
-/
namespace LineShell
namespace Session

variable {s t u : Session} {m : Move} {id most : Nat} {stage : Stage} {R E : Nat → Prop}

def slot? (s : Session) (id : Nat) : Option StopSlot := (s.stages[id]?).map Stage.slot

theorem slot?_of_getElem? (h : s.stages[id]? = some stage) : s.slot? id = some stage.slot := by simp [slot?, h]

/-- The stages that a move asks to stop: those of the run under way, if it interrupts that. -/
def Asks (s : Session) (m : Move) (id : Nat) : Prop :=
  s.delivers m = true ∧ ∃ run, s.current = some run ∧ id ∈ run.stages

/-- **What is left behind** where no stage but those of `R` is asked to stop, and none but those of `E` ends. -/
structure Marks (R E : Nat → Prop) (s t : Session) : Prop where
  asked : ∀ id, t.slot? id = some .full → s.slot? id = some .full ∨ R id
  gone : ∀ id, t.slot? id = some .gone → s.slot? id = some .gone ∨ E id
  console : s.console.Extends t.console

namespace Marks

theorem trans (h : Marks R E s t) (h' : Marks R E t u) : Marks R E s u where
  asked id hid := (h'.asked id hid).elim (h.asked id) .inr
  gone id hid := (h'.gone id hid).elim (h.gone id) .inr
  console := h.console.trans h'.console

theorem weaken {R' E' : Nat → Prop} (h : Marks R E s t) (hR : ∀ id, R id → R' id) (hE : ∀ id, E id → E' id) :
    Marks R' E' s t where
  asked id hid := (h.asked id hid).imp_right (hR id)
  gone id hid := (h.gone id hid).imp_right (hE id)
  console := h.console

theorem of_stages (hstages : t.stages = s.stages) (hconsole : s.console.Extends t.console) : Marks R E s t where
  asked id hid := .inl (by rwa [slot?, hstages] at hid)
  gone id hid := .inl (by rwa [slot?, hstages] at hid)
  console := hconsole

theorem of_eq (hstages : t.stages = s.stages) (hconsole : t.console = s.console) : Marks R E s t :=
  of_stages hstages (.of_eq hconsole)

theorem modifyStage (s : Session) (id : Nat) {f : Stage → Stage}
    (hfull : ∀ stage, s.stages[id]? = some stage → (f stage).slot = .full → stage.slot = .full ∨ R id)
    (hgone : ∀ stage, s.stages[id]? = some stage → (f stage).slot = .gone → stage.slot = .gone ∨ E id) :
    Marks R E s (s.modifyStage id f) := by
  have turn : ∀ {slot : StopSlot} {Q : Nat → Prop},
      (∀ stage, s.stages[id]? = some stage → (f stage).slot = slot → stage.slot = slot ∨ Q id) →
      ∀ j, (s.modifyStage id f).slot? j = some slot → s.slot? j = some slot ∨ Q j := by
    intro slot Q hQ j hj
    rw [slot?, Session.modifyStage, Array.getElem?_modify] at hj
    by_cases hij : id = j
    · subst hij
      rw [if_pos rfl, Option.map_map] at hj
      obtain ⟨stage, hs, hslot⟩ := Option.map_eq_some_iff.1 hj
      rw [slot?_of_getElem? hs]
      exact (hQ stage hs hslot).imp_left (congrArg some)
    · rw [if_neg hij] at hj
      exact .inl hj
  exact ⟨turn hfull, turn hgone, .refl _⟩

theorem modifyStage_of_eq (s : Session) (id : Nat) {f : Stage → Stage} (h : ∀ stage, (f stage).slot = stage.slot) :
    Marks R E s (s.modifyStage id f) :=
  modifyStage s id (fun stage _ hf => .inl (h stage ▸ hf)) (fun stage _ hf => .inl (h stage ▸ hf))

theorem setPhase (s : Session) (id : Nat) (phase : Phase) : Marks R E s (s.setPhase id phase) :=
  modifyStage_of_eq s id (fun _ => rfl)

theorem endStage (s : Session) (id : Nat) (hE : E id) : Marks R E s (s.endStage id) :=
  modifyStage s id (fun _ _ hf => nomatch hf) (fun _ _ _ => .inr hE)

end Marks

/-! ## Interrupts -/

theorem stages_requestStops (ids : List Nat) : ∀ (s : Session) (id : Nat), (s.requestStops ids).stages[id]? =
    (s.stages[id]?).map (fun stage => if id ∈ ids then { stage with slot := stage.slot.request.2 } else stage) := by
  induction ids with
  | nil => intro s id; simp [requestStops]
  | cons i ids ih =>
    intro s id
    rw [show s.requestStops (i :: ids) =
      (s.modifyStage i (fun stage => { stage with slot := stage.slot.request.2 })).requestStops ids from rfl, ih,
      modifyStage, Array.getElem?_modify]
    by_cases hi : i = id
    · subst hi
      cases hs : s.stages[i]? with
      | none => simp
      | some stage =>
        -- A slot that was asked already stays as it is.
        have htwice : stage.slot.request.2.request.2 = stage.slot.request.2 := by cases stage.slot <;> rfl
        by_cases hmem : i ∈ ids <;> simp [hmem, htwice]
    · simp [hi, Ne.symm hi]

theorem requestStops_rest (ids : List Nat) (s : Session) (current : Option Run) :
    { s.requestStops ids with current } = { s with stages := (s.requestStops ids).stages, current } := by
  induction ids generalizing s with
  | nil => rfl
  | cons id ids ih => exact ih (s.modifyStage id (fun stage => { stage with slot := stage.slot.request.2 }))

theorem marks_requestStops (ids : List Nat) (s : Session) : Marks (· ∈ ids) E s (s.requestStops ids) := by
  have console : (s.requestStops ids).console = s.console := (requestStops_eq ids s).2.2.2.2
  refine ⟨fun id hid => ?_, fun id hid => .inl ?_, .of_eq console⟩ <;>
    (rw [slot?, stages_requestStops, Option.map_map] at hid
     obtain ⟨stage, hs, hslot⟩ := Option.map_eq_some_iff.1 hid
     rw [slot?_of_getElem? hs]
     dsimp only [Function.comp_apply] at hslot
     by_cases hmem : id ∈ ids)
  · exact .inr hmem
  · rw [if_neg hmem] at hslot
    exact .inl (congrArg some hslot)
  · rw [if_pos hmem] at hslot
    cases hg : stage.slot with
    | gone => rfl
    | empty | full => rw [hg] at hslot; cases hslot
  · rw [if_neg hmem] at hslot
    exact congrArg some hslot

theorem trigger_of_armed {run : Run} (hr : s.current = some run) (ha : run.armed = true) :
    s.trigger = (true, { s.requestStops run.stages with current := some run.told }) := by
  unfold trigger
  simp only [hr, ha, if_true, Run.told, true_and]

theorem trigger_of_not_armed (h : s.isArmed = false) : s.trigger = (false, s) := by
  unfold trigger
  cases hr : s.current with
  | none => rfl
  | some run =>
    have ha : run.armed = false := by simpa [isArmed, hr] using h
    simp [ha]

theorem armed_of_isArmed (h : s.isArmed = true) : ∃ run, s.current = some run ∧ run.armed = true := by
  rwa [isArmed, Option.any_eq_true] at h

theorem marks_trigger (s : Session) :
    Marks (fun id => s.isArmed = true ∧ ∃ run, s.current = some run ∧ id ∈ run.stages) E s s.trigger.2 := by
  cases ha : s.isArmed with
  | false =>
    rw [trigger_of_not_armed ha]
    exact .of_eq rfl rfl
  | true =>
    obtain ⟨run, hr, hra⟩ := armed_of_isArmed ha
    rw [trigger_of_armed hr hra]
    refine ((marks_requestStops run.stages s).weaken (fun id hid => ⟨rfl, run, hr, hid⟩) (fun _ h => h)).trans ?_
    exact .of_eq rfl rfl

/-! ## One move -/

theorem console_readInput {streams : Streams} {limit : Nat} {reply : Except Fault Bytes}
    (h : s.readInput? id streams limit most = some (reply, t)) :
    t.console.output = s.console.output ∧ t.console.error = s.console.error := by
  unfold readInput? at h
  split at h
  · cases h; exact ⟨rfl, rfl⟩
  · cases h; exact ⟨rfl, rfl⟩
  · split at h <;> cases h <;> exact ⟨rfl, rfl⟩
  · dsimp only at h
    split at h
    · cases h; exact ⟨rfl, rfl⟩
    · split at h
      · split at h <;> cases h
        exact ⟨rfl, rfl⟩
      · cases h; exact ⟨rfl, rfl⟩

theorem marks_readInput {streams : Streams} {limit : Nat} {reply : Except Fault Bytes}
    (h : s.readInput? id streams limit most = some (reply, t)) : Marks R E s t := by
  have hconsole := console_readInput h
  have hext : s.console.Extends t.console := ⟨hconsole.1 ▸ List.suffix_rfl, hconsole.2 ▸ List.suffix_rfl⟩
  obtain rfl | ⟨console, -, rfl⟩ | ⟨file, k, k', -, rfl⟩ | ⟨n, f, rfl⟩ := readInput?_cases h
  · exact .of_eq rfl rfl
  · exact .of_stages rfl hext
  · exact .modifyStage_of_eq s id (fun _ => rfl)
  · exact .of_eq rfl rfl

theorem marks_writeOutput {streams : Streams} {data : Bytes} {reply : Except Fault Nat}
    (h : s.writeOutput? id streams data most = some (reply, t)) : Marks R E s t := by
  obtain rfl | rfl | ⟨files, rfl⟩ | ⟨files, file, k, k', -, rfl⟩ | ⟨n, f, rfl⟩ := writeOutput?_cases h
  · exact .of_eq rfl rfl
  · exact .of_stages rfl ⟨Transcript.extends_write _ _, List.suffix_rfl⟩
  · exact .of_eq rfl rfl
  · have hfiles : Marks R E s { s with files } := .of_eq rfl rfl
    exact hfiles.trans (.modifyStage_of_eq _ id (fun _ => rfl))
  · exact .of_eq rfl rfl

theorem marks_answer {q : Request} {reply : q.Reply} (hs : s.stages[id]? = some stage)
    (h : s.answer? id stage most q = some (reply, t)) :
    Marks (fun j => q = .interrupt ∧ s.isArmed = true ∧ ∃ run, s.current = some run ∧ j ∈ run.stages) E s t := by
  cases q with
  | poll =>
    obtain rfl : s.modifyStage id (fun stage' => { stage' with slot := stage.slot.take.2 }) = t :=
      congrArg Prod.snd (Option.some.inj h)
    -- The stage takes the request that is in its own slot.
    refine .modifyStage s id (fun _ _ hf => absurd hf stage.slot.take_snd_ne_full) (fun stage' hs' hg => .inl ?_)
    obtain rfl : stage = stage' := Option.some.inj (hs.symm.trans hs')
    have hg : stage.slot.take.2 = .gone := hg
    cases hslot : stage.slot with
    | gone => rfl
    | empty | full => rw [hslot] at hg; cases hg
  | interrupt =>
    obtain rfl : s.trigger.2 = t := congrArg Prod.snd (Option.some.inj h)
    exact (marks_trigger s).weaken (fun _ hj => ⟨rfl, hj⟩) (fun _ h => h)
  | moveTo => cases h; exact .modifyStage_of_eq s id (fun _ => rfl)
  | read => exact marks_readInput h
  | write => exact marks_writeOutput h
  | flush | ownPath | files | resolve | connect | note | isArmed | streams => cases h; exact .of_eq rfl rfl

theorem marks_closeEnds (s : Session) (streams : Streams) : Marks R E s (s.closeEnds streams) := by
  unfold closeEnds
  cases streams.input <;> cases streams.output <;> exact .of_eq rfl rfl

theorem marks_advance (h : s.advance? id most = some t) :
    Marks (s.Asks (.advance id most)) (fun j => t.hasEnded j = true) s t := by
  obtain ⟨stage, hs, h⟩ := advances_of_advance? h
  cases h with
  | done => exact (marks_closeEnds s _).trans (.setPhase _ _ _)
  | entered | ready => exact .setPhase s _ _
  | @shown piece =>
    refine Marks.trans (t := { s with console := s.console.writeError (Bytes.ofString piece) }) ?_ (.setPhase _ _ _)
    exact .of_stages rfl ⟨List.suffix_rfl, Transcript.extends_write _ _⟩
  | @answered q next reply u hp ha =>
    refine ((marks_answer hs ha).weaken ?_ (fun _ h => h)).trans (.setPhase _ _ _)
    rintro j ⟨rfl, harmed, hrun⟩
    refine ⟨?_, hrun⟩
    have hf := faces_of_getElem? hs
    simp only [delivers, harmed, hf, Stage.face, hp, Option.any_some, Bool.true_and]
    rfl
  | sent _ h =>
    obtain ⟨current, rfl⟩ := send?_eq h
    refine (Marks.endStage s id (E := fun j => Session.hasEnded { s.endStage id with current } j = true) ?_).trans
      (.of_eq rfl rfl)
    simp [hasEnded, endStage, modifyStage, Array.getElem?_modify, hs, Phase.isEnded]

theorem marks_launch (s : Session) (run : Run) (id : Nat) (waiting : List Nat) :
    Marks R E s (s.launch run id waiting) := by
  unfold launch
  split
  · exact .of_eq rfl rfl
  · next stage hs =>
    cases stage.phase with
    | ready program => exact (Marks.setPhase s id _).trans (.of_eq rfl rfl)
    | running | reporting | sending | ended => exact .of_eq rfl rfl

theorem marks_drive (h : s.drive? = some t) : Marks R E s t := by
  obtain ⟨run, id, waiting, rfl⟩ | ⟨current, rfl⟩ | ⟨run, detach, rfl⟩ := drive?_cases h
  · exact marks_launch s run id waiting
  · exact .of_eq rfl rfl
  · exact .of_eq rfl rfl

/-- **Every move** fills no slot but those of the run that it interrupts; a slot is given up by a stage that ends; and
nothing is taken off the console. -/
theorem marks_of_step? (h : s.step? m = some t) : Marks (s.Asks m) (fun id => t.hasEnded id = true) s t := by
  cases m with
  | drive => exact marks_drive h
  | advance id most => exact marks_advance h
  | vanish id =>
    have h : s.vanish? id = some t := h
    unfold vanish? at h
    split at h <;> cases h
    next hs =>
      refine Marks.endStage s id ?_
      simp [hasEnded, endStage, modifyStage, Array.getElem?_modify, hs, Phase.isEnded]
  | interrupt =>
    cases h
    exact (marks_trigger s).weaken (fun _ hj => hj) (fun _ h => h.elim) (E := fun _ => False)

end Session
end LineShell
