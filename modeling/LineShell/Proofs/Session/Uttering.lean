import LineShell.Proofs.Session.Custody
import Mathlib.Data.List.TakeWhile
/-!
# Uttering — who says what on the error output

A stage in the background whose command fails says so on the console's error output, in four pieces that are written
one by one; between two of them any other stage may write.  `Speaks` is what becomes of a session together with all that
is written there, piece by piece and stage by stage.  What a stage says is the front of what it had left to say
(`Step.utters`), so each stage says its report once and in its order (`CameTo.saidBy_eq`); where no report is broken
into by another, they stand there as whole lines (`flatMap_of_unbroken`).
-/
namespace LineShell

/-- A piece on the error output, and the stage that wrote it. -/
structure Remark where
  speaker : Nat
  piece : String
  deriving DecidableEq, Repr

def spoken (said : List Remark) : Bytes := said.flatMap (fun r => Bytes.ofString r.piece)

def saidBy (id : Nat) (said : List Remark) : List String := (said.filter (fun r => r.speaker == id)).map Remark.piece

theorem saidBy_append (id : Nat) (said said' : List Remark) :
    saidBy id (said ++ said') = saidBy id said ++ saidBy id said' := by simp [saidBy]

def Phase.next : Phase → List String
  | reporting (piece :: _) _ => [piece]
  | _ => []

namespace Session

variable {s t u : Session} {clauses : List Clause} {m : Move} {id : Nat} {said : List Remark}

def remarks (s : Session) : Move → List Remark
  | .advance id _ => (s.faces id).elim [] (fun f => f.phase.next.map (Remark.mk id))
  | _ => []

def remarksOf (s : Session) : Deed → List Remark
  | .move m => s.remarks m
  | .start _ | .wait | .enrol _ | .change => []

/-- All that was written to the error output in the course of a history. -/
def remarksIn (past : History) : List Remark := past.flatMap (fun p => p.1.remarksOf p.2)

theorem remarksIn_append (past later : History) : remarksIn (past ++ later) = remarksIn past ++ remarksIn later :=
  List.flatMap_append

theorem remarksIn_singleton (s : Session) (d : Deed) : remarksIn [(s, d)] = s.remarksOf d := List.flatMap_singleton ..

/-- **What becomes of a session, and what is said** on its error output meanwhile.  Whatever else changes between runs,
nobody but the stages writes there. -/
def Speaks (s : Session) (said : List Remark) (t : Session) : Prop :=
  ∃ past, s.Lives (fun u v => v.console.error = u.console.error) past t ∧ remarksIn past = said

/-! ## What is on the error output -/

theorem console_trigger (s : Session) : s.trigger.2.console = s.console := by
  cases ha : s.isArmed with
  | false => rw [trigger_of_not_armed ha]
  | true =>
    obtain ⟨run, hr, hra⟩ := armed_of_isArmed ha
    rw [trigger_of_armed hr hra]
    exact (requestStops_eq run.stages s).2.2.2.2

theorem error_answer {stage : Stage} {most : Nat} {q : Request} {reply : q.Reply}
    (h : s.answer? id stage most q = some (reply, t)) : t.console.error = s.console.error := by
  cases q with
  | read => exact (console_readInput h).2
  | write =>
    obtain rfl | rfl | ⟨files, rfl⟩ | ⟨files, file, k, k', -, rfl⟩ | ⟨n, f, rfl⟩ := writeOutput?_cases h <;> rfl
  | interrupt =>
    obtain rfl : s.trigger.2 = t := congrArg Prod.snd (Option.some.inj h)
    rw [console_trigger]
  | poll | moveTo | flush | ownPath | files | resolve | connect | note | isArmed | streams => cases h; rfl

theorem error_advance {most : Nat} (h : s.advance? id most = some t) :
    t.console.error.bytes = s.console.error.bytes ++ spoken (s.remarks (.advance id most)) := by
  obtain ⟨stage, hs, hadv⟩ := advances_of_advance? h
  have hremarks : s.remarks (.advance id most) = stage.phase.next.map (Remark.mk id) := by
    rw [remarks, faces_of_getElem? hs]
    rfl
  have same : t.console.error = s.console.error → s.remarks (.advance id most) = [] →
      t.console.error.bytes = s.console.error.bytes ++ spoken (s.remarks (.advance id most)) := by
    intro herror hnone
    rw [herror, hnone]
    exact (List.append_nil _).symm
  cases hadv with
  | done hp =>
    refine same ?_ (by rw [hremarks, hp]; rfl)
    show (s.closeEnds stage.streams).console.error = _
    unfold closeEnds
    cases stage.streams.input <;> cases stage.streams.output <;> rfl
  | entered hp | ready hp => exact same rfl (by rw [hremarks, hp]; rfl)
  | @shown piece pieces status hp =>
    rw [hremarks, hp]
    show (s.console.error.write (Bytes.ofString piece)).bytes = _
    simp [spoken, Phase.next]
  | answered hp ha =>
    have herror := error_answer ha
    exact same herror (by rw [hremarks, hp]; rfl)
  | sent hp hsend =>
    obtain ⟨current, rfl⟩ := send?_eq hsend
    exact same rfl (by rw [hremarks, hp]; rfl)

/-- **What a move writes to the error output** is on it at once, and nothing else. -/
theorem error_of_step? (h : s.step? m = some t) :
    t.console.error.bytes = s.console.error.bytes ++ spoken (s.remarks m) := by
  have same : ∀ {u : Session}, u.console = s.console →
      u.console.error.bytes = s.console.error.bytes ++ spoken [] := fun hc => by rw [hc]; exact (List.append_nil _).symm
  cases m with
  | drive =>
    obtain ⟨run, id, waiting, rfl⟩ | ⟨current, rfl⟩ | ⟨run, detach, rfl⟩ := drive?_cases h
    · refine same ?_
      unfold launch
      split
      · rfl
      · next stage hs => cases stage.phase <;> rfl
    · exact same rfl
    · exact same rfl
  | advance id most => exact error_advance h
  | vanish id =>
    have h : s.vanish? id = some t := h
    unfold vanish? at h
    split at h <;> cases h
    exact same rfl
  | interrupt =>
    obtain rfl : s.trigger.2 = t := Option.some.inj h
    exact same (console_trigger s)

theorem Speaks.error (h : s.Speaks said t) : t.console.error.bytes = s.console.error.bytes ++ spoken said := by
  obtain ⟨past, hlives, rfl⟩ := h
  induction hlives with
  | here => exact (List.append_nil _).symm
  | @next past t u d _ hd ih =>
    have hdeed : u.console.error.bytes = t.console.error.bytes ++ spoken (t.remarksOf d) := by
      cases hd with
      | moved hm => exact error_of_step? hm
      | started clauses =>
        rw [console_start]
        exact (List.append_nil _).symm
      | waited _ hw =>
        obtain ⟨-, rfl⟩ := waitBackground?_eq_some hw
        exact (List.append_nil _).symm
      | enrolled => exact (List.append_nil _).symm
      | changed _ _ _ _ _ _ hsame => exact (congrArg Transcript.bytes hsame).trans (List.append_nil _).symm
    rw [hdeed, ih, remarksIn_append, remarksIn_singleton, spoken, spoken, spoken, List.flatMap_append, List.append_assoc]

/-! ## What a stage says -/

end Session

def Phase.isAtWork : Phase → Bool
  | ready _ | running _ => true
  | reporting .. | sending _ | ended => false

/-- The pieces in which an outcome is reported: none if the command is done or was stopped. -/
def Outcome.report (name : String) : Outcome → List String
  | done | failed .stopped => []
  | failed f => [name, ": ", f.message, "\n"]
  | brokeDown => [name, ": ", "command panicked", "\n"]

/-- What a stage has left to say once its command is done. -/
def Face.unsaid (f : Face) : Option (List String) :=
  match f.phase with
  | .ready _ => none
  | .running (.done outcome) => some (if f.background then outcome.report f.name else [])
  | .running _ => none
  | .reporting pieces _ => some pieces
  | .sending _ | .ended => some []

/-- **What a stage says on its way** is the front of what it had left to say, and nothing as long as it is at work. -/
structure Face.Says (f : Face) (words : List String) (g : Face) : Prop where
  seat : g.seat = f.seat
  unsaid : ∀ left, f.unsaid = some left → ∃ left', g.unsaid = some left' ∧ left = words ++ left'
  silent : g.phase.isAtWork = true → f.phase.isAtWork = true ∧ words = []

namespace Face.Says

variable {f g k : Face} {words words' : List String}

theorem refl (f : Face) : f.Says [] f := ⟨rfl, fun left h => ⟨left, h, rfl⟩, fun h => ⟨h, rfl⟩⟩

theorem trans (h : f.Says words g) (h' : g.Says words' k) : f.Says (words ++ words') k where
  seat := h'.seat.trans h.seat
  unsaid left hleft := by
    obtain ⟨left', hleft', rfl⟩ := h.unsaid left hleft
    obtain ⟨left'', hleft'', rfl⟩ := h'.unsaid left' hleft'
    exact ⟨left'', hleft'', (List.append_assoc ..).symm⟩
  silent hk := by
    obtain ⟨hg, rfl⟩ := h'.silent hk
    obtain ⟨hf, rfl⟩ := h.silent hg
    exact ⟨hf, rfl⟩

end Face.Says

theorem Face.isAtWork_of_unsaid {f : Face} (h : f.unsaid = none) : f.phase.isAtWork = true := by
  unfold unsaid at h
  split at h <;> simp_all [Phase.isAtWork]

theorem Face.eq_done_of_isAtWork {f : Face} (h : f.phase.isAtWork = true) (hne : f.unsaid ≠ none) :
    ∃ outcome, f.phase = .running (.done outcome) := by
  unfold unsaid at hne
  split at hne <;> simp_all [Phase.isAtWork]

/-- **One turn of a stage**: it says what it has to say next, and goes on with its work until that is done. -/
structure Face.Utters (f : Face) (words : List String) (g : Face) : Prop extends Face.Says f words g where
  busy : f.unsaid = none → g.phase.isAtWork = true

theorem Face.unsaid_phaseAfter (f : Face) (outcome : Outcome) {phase : Phase}
    (h : phase = Session.phaseAfter f.background (Status.ofOutcome f.name outcome)) :
    ({ f with phase } : Face).unsaid = some (if f.background then outcome.report f.name else []) ∧
      phase.isAtWork = false := by
  obtain ⟨run, index, name, background, path, _⟩ := f
  subst h
  cases background with
  | false => exact ⟨rfl, rfl⟩
  | true =>
    cases outcome with
    | done | brokeDown => exact ⟨rfl, rfl⟩
    | failed failure => cases failure <;> exact ⟨rfl, rfl⟩

theorem Face.Works.utters {f g : Face} (h : Face.Works f g) : f.Utters f.phase.next g := by
  cases h with
  | answered reply path hp | entered hp =>
    refine ⟨⟨rfl, ?_, fun _ => ?_⟩, fun _ => rfl⟩ <;> simp [unsaid, hp, Phase.isAtWork, Phase.next]
  | @closed outcome hp =>
    obtain ⟨hunsaid, hwork⟩ := f.unsaid_phaseAfter outcome rfl
    have hf : f.unsaid = some (if f.background then outcome.report f.name else []) := by rw [unsaid, hp]
    refine ⟨⟨rfl, fun left hleft => ⟨left, ?_, by simp [hp, Phase.next]⟩, fun h => ?_⟩, fun h => ?_⟩
    · rw [hunsaid, ← hleft, hf]
    · rw [show Phase.isAtWork _ = _ from h] at hwork
      cases hwork
    · rw [hf] at h
      cases h
  | shown hp | ready hp => refine ⟨⟨rfl, ?_, nofun⟩, ?_⟩ <;> simp [unsaid, hp, Phase.next]

namespace Face.Utters

theorem refl (f : Face) : f.Utters [] f := ⟨.refl f, isAtWork_of_unsaid⟩

theorem asking {f : Face} {q : Request} {next : q.Reply → Program Outcome} (hp : f.phase = .running (.ask q next))
    (p : Program Outcome) : f.Utters [] { f with phase := .running p } :=
  ⟨⟨rfl, by simp [unsaid, hp], fun _ => ⟨by rw [hp]; rfl, rfl⟩⟩, fun _ => rfl⟩

theorem ended {f : Face} {status : Status} (hp : f.phase = .sending status) : f.Utters [] { f with phase := .ended } :=
  ⟨⟨rfl, by simp [unsaid, hp], nofun⟩, by simp [unsaid, hp]⟩

theorem launched (f : Face) : f.Utters [] { f with phase := f.phase.launched } := by
  obtain ⟨run, index, name, background, path, phase⟩ := f
  cases phase with
  | ready p => exact ⟨⟨rfl, nofun, fun _ => ⟨rfl, rfl⟩⟩, fun _ => rfl⟩
  | running | reporting | sending | ended => exact .refl _

end Face.Utters

namespace Session

variable {s t u : Session} {clauses : List Clause} {m : Move} {id : Nat} {said said' : List Remark} {f g : Face}

theorem saidBy_remarks_advance {most : Nat} (hf : s.faces id = some f) :
    saidBy id (s.remarks (.advance id most)) = f.phase.next := by
  rw [remarks, hf]
  simp [saidBy, List.filter_map, Function.comp_def]

theorem saidBy_remarks_of_ne (h : ∀ most, m ≠ .advance id most) : saidBy id (s.remarks m) = [] := by
  cases m with
  | advance id' most =>
    have hne : id' ≠ id := by
      rintro rfl
      exact h most rfl
    cases hf : s.faces id' <;> simp [saidBy, remarks, hf, hne]
  | drive | vanish | interrupt => rfl

/-- **What a move lets a stage say.** -/
theorem Step.utters (h : Step s t m) (hf : s.faces id = some f) :
    ∃ g, t.faces id = some g ∧ f.Utters (saidBy id (s.remarks m)) g := by
  have still : (∀ most, m ≠ .advance id most) → t.faces id = some f →
      ∃ g, t.faces id = some g ∧ f.Utters (saidBy id (s.remarks m)) g := fun hm ht =>
    ⟨f, ht, by rw [saidBy_remarks_of_ne hm]; exact .refl f⟩
  -- A move changes the face of one stage at most.
  have change : ∀ {id' : Nat} {f' g : Face} {words : List String}, s.faces id' = some f' → t.faces = s.faces.set id' g →
      f'.Utters words g → (id ≠ id' → ∀ most, m ≠ .advance id most) → saidBy id' (s.remarks m) = words →
      ∃ g, t.faces id = some g ∧ f.Utters (saidBy id (s.remarks m)) g := by
    intro id' f' g words hf' ht hutters hne hwords
    by_cases hid : id = id'
    · subst hid
      obtain rfl : f = f' := Option.some.inj (hf.symm.trans hf')
      exact ⟨g, by rw [ht, Faces.set_self], hwords ▸ hutters⟩
    · exact still (hne hid) (by rw [ht, Faces.set_ne _ _ hid, hf])
  cases h with
  | work hf' hw ht => exact change hf' ht hw.utters (by rintro hne most ⟨⟩; exact hne rfl) (saidBy_remarks_advance hf')
  | appeal hf' hp ht =>
    refine change hf' ht (.asking hp _) (by rintro hne most ⟨⟩; exact hne rfl) ?_
    rw [saidBy_remarks_advance hf', hp]
    rfl
  | report hf' hp _ _ _ ht | lose hf' hp _ ht =>
    refine change hf' ht (.ended hp) (by rintro hne most ⟨⟩; exact hne rfl) ?_
    rw [saidBy_remarks_advance hf', hp]
    rfl
  | vanish hf' hp ht => exact change hf' ht (.ended hp) nofun rfl
  | launch _ _ hf' ht => exact change hf' ht (.launched _) nofun rfl
  | interrupt ht | skip _ _ _ ht | collect _ _ _ ht | receive _ _ _ _ ht | heed _ _ _ _ ht | close _ _ _ ht
  | conclude _ _ ht => exact still nofun (ht ▸ hf)
  | leave _ _ _ ht | abandon _ _ ht | join _ _ _ ht => subst ht; exact still nofun hf

/-- **What is done to a session lets a stage say** something if it is a move, and else leaves it as it is. -/
theorem Happens.utters {allowed : Session → Session → Prop} {d : Deed} (h : s.Happens allowed d t)
    (hf : s.faces id = some f) : ∃ g, t.faces id = some g ∧ f.Utters (saidBy id (s.remarksOf d)) g := by
  cases h with
  | moved hm => exact (step_of_step? hm).utters hf
  | started clauses =>
    obtain ⟨stage, hstage, -⟩ := faces_eq_some.1 hf
    exact ⟨f, (faces_start_of_lt (Array.getElem?_eq_some_iff.1 hstage).1).trans hf, .refl f⟩
  | waited _ hw =>
    obtain ⟨-, rfl⟩ := waitBackground?_eq_some hw
    exact ⟨f, hf, .refl f⟩
  | enrolled | changed => exact ⟨f, hf, .refl f⟩

theorem Speaks.says (h : s.Speaks said t) (hf : s.faces id = some f) :
    ∃ g, t.faces id = some g ∧ f.Says (saidBy id said) g := by
  obtain ⟨past, hlives, rfl⟩ := h
  induction hlives with
  | here => exact ⟨f, hf, .refl f⟩
  | next _ hd ih =>
    obtain ⟨g, hg, hsays⟩ := ih
    obtain ⟨k, hk, hutters⟩ := hd.utters hg
    rw [remarksIn_append, remarksIn_singleton, saidBy_append]
    exact ⟨k, hk, hsays.trans hutters.toSays⟩

/-- On the way from one session to another the command of a stage came to an outcome. -/
def CameTo (s : Session) (said : List Remark) (t : Session) (id : Nat) (outcome : Outcome) : Prop :=
  ∃ before u after, s.Speaks before u ∧ u.Speaks after t ∧ said = before ++ after ∧
    ∃ f, u.faces id = some f ∧ f.phase = .running (.done outcome)

theorem Speaks.trans (h : s.Speaks said t) (h' : t.Speaks said' u) : s.Speaks (said ++ said') u := by
  obtain ⟨past, hlives, rfl⟩ := h
  obtain ⟨later, hlives', rfl⟩ := h'
  exact ⟨past ++ later, hlives.trans hlives', remarksIn_append past later⟩

theorem CameTo.trans {outcome : Outcome} (h : s.CameTo said t id outcome) (h' : t.Speaks said' u) :
    s.CameTo (said ++ said') u id outcome := by
  obtain ⟨before, v, after, hbefore, hafter, rfl, hdone⟩ := h
  exact ⟨before, v, after ++ said', hbefore, hafter.trans h', List.append_assoc .., hdone⟩

/-- **A stage that is no longer at work has come to an outcome.** -/
theorem Speaks.cameTo (h : s.Speaks said t) (hf : s.faces id = some f) (hwork : f.phase.isAtWork = true)
    (hg : t.faces id = some g) (hdone : g.phase.isAtWork = false) : ∃ outcome, s.CameTo said t id outcome := by
  obtain ⟨past, hlives, rfl⟩ := h
  induction hlives generalizing g with
  | here =>
    obtain rfl : f = g := Option.some.inj (hf.symm.trans hg)
    rw [hwork] at hdone
    cases hdone
  | @next past t u d hlives hd ih =>
    have ht : s.Speaks (remarksIn past) t := ⟨past, hlives, rfl⟩
    have hdeed : t.Speaks (remarksIn [(t, d)]) u := ⟨[(t, d)], Lives.here.next hd, rfl⟩
    obtain ⟨k, hk, -⟩ := ht.says hf
    obtain ⟨g', hg', hutters⟩ := hd.utters hk
    obtain rfl : g = g' := Option.some.inj (hg.symm.trans hg')
    rw [remarksIn_append]
    cases hkwork : k.phase.isAtWork with
    | true =>
      have hne : k.unsaid ≠ none := fun hnone => by
        rw [hutters.busy hnone] at hdone
        cases hdone
      obtain ⟨outcome, hphase⟩ := k.eq_done_of_isAtWork hkwork hne
      exact ⟨outcome, remarksIn past, t, _, ht, hdeed, rfl, k, hk, hphase⟩
    | false =>
      obtain ⟨outcome, hcame⟩ := ih hk hkwork
      exact ⟨outcome, hcame.trans hdeed⟩

/-- **What a stage in the background says** is its report. -/
theorem CameTo.saidBy_eq {outcome : Outcome} (h : s.CameTo said t id outcome) (hf : s.faces id = some f)
    (hback : f.background = true) (hended : t.hasEnded id = true) :
    saidBy id said = outcome.report f.name := by
  obtain ⟨before, u, after, hbefore, hafter, rfl, k, hk, hdone⟩ := h
  obtain ⟨k', hk', hfirst⟩ := hbefore.says hf
  obtain rfl : k = k' := Option.some.inj (hk.symm.trans hk')
  obtain ⟨g, hg, hlast⟩ := hafter.says hk
  -- Up to its outcome the stage says nothing, and what it says afterwards is all it has to say.
  have hnothing : saidBy id before = [] := (hfirst.silent (by rw [hdone]; rfl)).2
  have hname : k.name = f.name := congrArg Seat.name hfirst.seat
  have hground : k.background = true := (congrArg Seat.background hfirst.seat).trans hback
  have hreport : k.unsaid = some (outcome.report f.name) := by
    rw [Face.unsaid, hdone, hground, hname]
    rfl
  obtain ⟨left, hleft, heq⟩ := hlast.unsaid _ hreport
  have hended' : g.phase = .ended := by
    rw [hasEnded_eq, hg, Option.all_some] at hended
    cases hp : g.phase <;> simp_all [Phase.isEnded]
  rw [Face.unsaid, hended'] at hleft
  obtain rfl := Option.some.inj hleft
  rw [saidBy_append, hnothing, List.nil_append, heq, List.append_nil]

end Session

/-! ## Whole lines -/

/-- Nobody says anything between two remarks of another. -/
def Unbroken (said : List Remark) : Prop :=
  ∀ x y z : Remark, [x, y, z].Sublist said → x.speaker = z.speaker → y.speaker = x.speaker

theorem saidBy_of_forall_eq {id : Nat} {said : List Remark} (h : ∀ r ∈ said, r.speaker = id) :
    saidBy id said = said.map Remark.piece := by
  rw [saidBy, List.filter_eq_self.2 (by simpa using h)]

theorem saidBy_of_forall_ne {id : Nat} {said : List Remark} (h : ∀ r ∈ said, r.speaker ≠ id) : saidBy id said = [] := by
  rw [saidBy, List.filter_eq_nil_iff.2 (by simpa using h)]
  rfl

theorem Unbroken.split {r : Remark} {rest : List Remark} (h : Unbroken (r :: rest)) :
    ∃ own others, r :: rest = own ++ others ∧ own ≠ [] ∧ (∀ x ∈ own, x.speaker = r.speaker) ∧
      ∀ x ∈ others, x.speaker ≠ r.speaker := by
  let same : Remark → Bool := fun x => x.speaker == r.speaker
  have hsplit : r :: rest = (r :: rest.takeWhile same) ++ rest.dropWhile same := by
    rw [List.cons_append, List.takeWhile_append_dropWhile]
  refine ⟨r :: rest.takeWhile same, rest.dropWhile same, hsplit, List.cons_ne_nil _ _, ?_, ?_⟩
  · refine List.forall_mem_cons.2 ⟨rfl, fun x hx => ?_⟩
    simpa [same] using List.mem_takeWhile_imp hx
  · cases hothers : rest.dropWhile same with
    | nil => simp
    | cons y others =>
      have hy : y.speaker ≠ r.speaker := by
        have hhead := List.head_dropWhile_not same (l := rest) (by simp [hothers])
        simpa [hothers, same] using hhead
      refine List.forall_mem_cons.2 ⟨hy, fun x hx hxr => hy ?_⟩
      -- Else the one who spoke first would be interrupted.
      refine h r y x ?_ hxr.symm
      rw [hsplit, hothers]
      have hfirst : [r].Sublist (r :: rest.takeWhile same) := List.singleton_sublist.2 List.mem_cons_self
      exact hfirst.append ((List.singleton_sublist.2 hx).cons_cons y)

/-- **Where nobody is interrupted**, what was said is what each said, one after the other. -/
theorem flatMap_of_unbroken : ∀ {said : List Remark}, Unbroken said → ∃ order : List Nat, order.Nodup ∧
    (∀ id, id ∈ order ↔ saidBy id said ≠ []) ∧ said.map Remark.piece = order.flatMap (saidBy · said)
  | [], _ => ⟨[], List.nodup_nil, by simp [saidBy], rfl⟩
  | r :: rest, h => by
    obtain ⟨own, others, hsaid, hne, hown, hothers⟩ := h.split
    have hshort : others.length < (r :: rest).length := by
      rw [hsaid, List.length_append]
      have := List.length_pos_iff.2 hne
      omega
    have hsub : others.Sublist (r :: rest) := hsaid ▸ List.sublist_append_right own others
    obtain ⟨order, hnodup, hmem, htext⟩ := flatMap_of_unbroken fun x y z hxyz => h x y z (hxyz.trans hsub)
    have hself : saidBy r.speaker (r :: rest) = own.map Remark.piece := by
      rw [hsaid, saidBy_append, saidBy_of_forall_eq hown, saidBy_of_forall_ne hothers, List.append_nil]
    have hother : ∀ {id : Nat}, id ≠ r.speaker → saidBy id (r :: rest) = saidBy id others := by
      intro id hid
      rw [hsaid, saidBy_append, saidBy_of_forall_ne fun x hx heq => hid (heq.symm.trans (hown x hx)), List.nil_append]
    have hnot : r.speaker ∉ order := fun hin => (hmem _).1 hin (saidBy_of_forall_ne hothers)
    refine ⟨r.speaker :: order, List.nodup_cons.2 ⟨hnot, hnodup⟩, fun id => ?_, ?_⟩
    · by_cases hid : id = r.speaker
      · subst hid
        simp [hself, hne]
      · rw [List.mem_cons, hother hid, hmem]
        simp [hid]
    · have hrest : order.flatMap (saidBy · (r :: rest)) = order.flatMap (saidBy · others) :=
        List.flatMap_congr fun id hid => hother (by rintro rfl; exact hnot hid)
      rw [List.flatMap_cons, hself, hrest, ← htext, hsaid, List.map_append]
  termination_by said => said.length
  decreasing_by exact hshort

/-! ## Runs in the background -/

def saidIn (ids : List Nat) (said : List Remark) : List Remark := said.filter (fun r => r.speaker ∈ ids)

theorem saidBy_saidIn {ids : List Nat} {id : Nat} (h : id ∈ ids) (said : List Remark) :
    saidBy id (saidIn ids said) = saidBy id said := by
  rw [saidBy, saidIn, List.filter_filter, saidBy]
  congr 2
  funext r
  by_cases hr : r.speaker = id <;> simp [hr, h]

theorem spoken_eq (said : List Remark) : spoken said = Bytes.ofString (String.join (said.map Remark.piece)) := by
  induction said with
  | nil => rfl
  | cons r said ih =>
    rw [List.map_cons, String.join_cons, Bytes.ofString_append, ← ih]
    rfl

theorem ofString_join_flatMap (lines : Nat → List String) (order : List Nat) :
    Bytes.ofString (String.join (order.flatMap lines)) =
      order.flatMap (fun id => Bytes.ofString (String.join (lines id))) := by
  induction order with
  | nil => rfl
  | cons id order ih =>
    rw [List.flatMap_cons, List.flatMap_cons, ← ih, ← Bytes.ofString_append]
    congr 1
    simp [String.join_append]

namespace Session

variable {s t u : Session} {clauses : List Clause} {said : List Remark}

/-- A run in the background whose stages have all ended, and what was said meanwhile. -/
structure RunsOut (s : Session) (clauses : List Clause) (said : List Remark) (t : Session) : Prop where
  idle : s.current = none
  background : clauses.any Clause.background = true
  speaks : (s.start clauses).Speaks said t
  ended : ∀ id ∈ s.idsOf clauses, t.hasEnded id = true

/-- **What a run in the background leaves on the error output.** -/
structure Reports (s : Session) (clauses : List Clause) (said : List Remark) (t : Session) : Prop where
  /-- What is added is what the stages said, and nothing else. -/
  text : t.console.error.bytes = s.console.error.bytes ++ spoken said
  outcome : ∀ id ∈ s.idsOf clauses, ∃ outcome, (s.start clauses).CameTo said t id outcome
  /-- Each stage of the run said its report, piece by piece. -/
  report : ∀ id ∈ s.idsOf clauses, ∀ outcome f, (s.start clauses).CameTo said t id outcome → t.faces id = some f →
    saidBy id said = outcome.report f.name
  /-- Where no stage of the run interrupts another, the reports are whole. -/
  whole : Unbroken (saidIn (s.idsOf clauses) said) → ∃ order : List Nat, order.Nodup ∧
    (∀ id, id ∈ order ↔ id ∈ s.idsOf clauses ∧ saidBy id said ≠ []) ∧
    spoken (saidIn (s.idsOf clauses) said) = order.flatMap (fun id => Bytes.ofString (String.join (saidBy id said)))

theorem exists_face_of_mem_idsOf {id : Nat} (hid : id ∈ s.idsOf clauses) :
    ∃ f, (s.start clauses).faces id = some f ∧ f.phase.isAtWork = true ∧
      f.background = clauses.any Clause.background := by
  obtain ⟨k, hk, rfl⟩ := mem_idsOf.1 hid
  refine ⟨_, faces_start_of_job.trans (congrArg _ (List.getElem?_eq_getElem hk)), rfl, rfl⟩

/-- **Every stage of a run in the background that fails says so once**, in four pieces of one line in their order; what
succeeds or is stopped says nothing.  The lines are whole as long as no stage of the run writes into another's. -/
theorem reports_of_runsOut (h : s.RunsOut clauses said t) : s.Reports clauses said t where
  text := by rw [h.speaks.error, console_start]
  outcome id hid := by
    obtain ⟨f, hf, hwork, -⟩ := exists_face_of_mem_idsOf hid
    obtain ⟨g, hg, -⟩ := h.speaks.says hf
    have hended := h.ended id hid
    rw [hasEnded_eq, hg, Option.all_some] at hended
    refine h.speaks.cameTo hf hwork hg ?_
    cases hp : g.phase <;> simp_all [Phase.isEnded, Phase.isAtWork]
  report id hid outcome g hcame hg := by
    obtain ⟨f, hf, -, hback⟩ := exists_face_of_mem_idsOf hid
    obtain ⟨g', hg', hsays⟩ := h.speaks.says hf
    obtain rfl : g = g' := Option.some.inj (hg.symm.trans hg')
    have hname : g.name = f.name := congrArg Seat.name hsays.seat
    rw [hname]
    exact hcame.saidBy_eq hf (hback.trans h.background) (h.ended id hid)
  whole hunbroken := by
    obtain ⟨order, hnodup, hmem, htext⟩ := flatMap_of_unbroken hunbroken
    have hmem' : ∀ id, id ∈ order ↔ id ∈ s.idsOf clauses ∧ saidBy id said ≠ [] := by
      intro id
      rw [hmem]
      by_cases hid : id ∈ s.idsOf clauses
      · simp [hid, saidBy_saidIn hid]
      · have hnone : saidBy id (saidIn (s.idsOf clauses) said) = [] := by
          refine saidBy_of_forall_ne fun r hr heq => hid ?_
          simpa [heq] using (List.mem_filter.1 hr).2
        simp [hid, hnone]
    refine ⟨order, hnodup, hmem', ?_⟩
    rw [spoken_eq, htext, ofString_join_flatMap]
    exact List.flatMap_congr fun id hid => by rw [saidBy_saidIn ((hmem' id).1 hid).1]

def saidAlong (s : Session) (moves : List Move) : List Remark := remarksIn (s.historyOf moves)

theorem speaks_of_play {moves : List Move} (h : s.play moves = some t) : s.Speaks (s.saidAlong moves) t :=
  ⟨_, lives_of_play h, rfl⟩

def twoBrittle : List Clause := [{ name := "go" }, { name := "go", background := true }]

/-- The second stage says so first. -/
theorem reports_brittle :
    let said : List Remark := ["go", ": ", "command panicked", "\n"].map (Remark.mk 1) ++
      ["go", ": ", "command panicked", "\n"].map (Remark.mk 0)
    ∃ t, brittle.RunsOut twoBrittle said t ∧ Unbroken (saidIn (brittle.idsOf twoBrittle) said) ∧
      brittle.Reports twoBrittle said t := by
  intro said
  let moves : List Move :=
    List.replicate 3 .drive ++ List.replicate 7 (.advance 1 0) ++ List.replicate 7 (.advance 0 0)
  have hplayed : ((brittle.start twoBrittle).play moves).any (fun t => t.hasEnded 0 && t.hasEnded 1) = true := by
    decide +kernel
  have hsaid : (brittle.start twoBrittle).saidAlong moves = said := by decide +kernel
  have hids : brittle.idsOf twoBrittle = [0, 1] := by decide +kernel
  obtain ⟨t, ht, hended⟩ := (Option.any_eq_true _ _).1 hplayed
  have hruns : brittle.RunsOut twoBrittle said t :=
    ⟨rfl, rfl, hsaid ▸ speaks_of_play ht, by simpa [hids] using hended⟩
  refine ⟨t, hruns, ?_, reports_of_runsOut hruns⟩
  intro x y z hxyz hxz
  have hordered : ((saidIn (brittle.idsOf twoBrittle) said).map Remark.speaker).Pairwise (· ≥ ·) := by
    rw [hids]
    decide
  have hspeakers : x.speaker ≥ y.speaker ∧ y.speaker ≥ z.speaker := by
    have hsub := hordered.sublist (hxyz.map Remark.speaker)
    simp at hsub
    omega
  omega

/-- **The reports of a run stand whole** on the error output, in some order, and nothing else does. -/
def WholeLines (s : Session) (clauses : List Clause) (said : List Remark) (t : Session) : Prop :=
  ∃ line : Nat → Bytes,
    (∀ id ∈ s.idsOf clauses, ∀ outcome f, (s.start clauses).CameTo said t id outcome → t.faces id = some f →
      line id = Bytes.ofString (String.join (outcome.report f.name))) ∧
    ∃ order : List Nat, order.Perm (s.idsOf clauses) ∧ spoken (saidIn (s.idsOf clauses) said) = order.flatMap line

theorem cameTo_of_play {before after : List Move} {id : Nat} {f : Face} {outcome : Outcome}
    (hu : s.play before = some u) (ht : u.play after = some t) (hf : u.faces id = some f)
    (hp : f.phase = .running (.done outcome)) :
    s.CameTo (s.saidAlong before ++ u.saidAlong after) t id outcome :=
  ⟨_, u, _, speaks_of_play hu, speaks_of_play ht, rfl, f, hf, hp⟩

theorem not_wholeLines_of_same (whole : Bytes)
    (hstage : ∀ id ∈ s.idsOf clauses, ∃ outcome f, (s.start clauses).CameTo said t id outcome ∧ t.faces id = some f ∧
      Bytes.ofString (String.join (outcome.report f.name)) = whole)
    (hne : spoken (saidIn (s.idsOf clauses) said) ≠ (List.replicate (s.idsOf clauses).length whole).flatten) :
    ¬ s.WholeLines clauses said t := by
  rintro ⟨line, hline, order, hperm, htext⟩
  have hsame : order.map line = List.replicate (s.idsOf clauses).length whole := by
    refine List.eq_replicate_iff.2 ⟨by rw [List.length_map, hperm.length_eq], ?_⟩
    intro l hl
    obtain ⟨id, hid, rfl⟩ := List.mem_map.1 hl
    obtain ⟨outcome, f, hcame, hf, hwhole⟩ := hstage id (hperm.subset hid)
    rw [hline id (hperm.subset hid) outcome f hcame hf, hwhole]
  refine hne ?_
  rw [htext, ← hsame, List.flatMap_def]

/-- **Reports do not stay whole**: two stages that break down at once write into each other's line. -/
theorem not_wholeLines : ∃ said t, brittle.RunsOut twoBrittle said t ∧
    spoken said = Bytes.ofString "gogo: : command panickedcommand panicked\n\n" ∧
    ¬ brittle.WholeLines twoBrittle said t := by
  let said : List Remark := ["go", ": ", "command panicked", "\n"].flatMap (fun piece => [⟨0, piece⟩, ⟨1, piece⟩])
  let moves : List Move := (List.replicate 7 [.advance 0 0, .advance 1 0]).flatten
  obtain ⟨u, hu, hquiet, hat, hplayed, hsaid⟩ :
      ∃ u, (brittle.start twoBrittle).play (List.replicate 3 .drive) = some u ∧
        (brittle.start twoBrittle).saidAlong (List.replicate 3 .drive) = [] ∧
        (∀ id ∈ [0, 1], ∃ f, u.faces id = some f ∧ f.phase = .running (.done .brokeDown)) ∧
        (u.play moves).any (fun t => [0, 1].all fun id =>
          t.hasEnded id && (t.faces id).any (fun f => f.name == "go")) = true ∧ u.saidAlong moves = said :=
    ⟨_, rfl, rfl, by simpa using ⟨⟨_, rfl, rfl⟩, ⟨_, rfl, rfl⟩⟩, by decide +kernel, by decide +kernel⟩
  have hids : brittle.idsOf twoBrittle = [0, 1] := by decide +kernel
  obtain ⟨t, ht, hended⟩ := (Option.any_eq_true _ _).1 hplayed
  have hstage : ∀ id ∈ brittle.idsOf twoBrittle, t.hasEnded id = true ∧ ∃ f, t.faces id = some f ∧ f.name = "go" :=
    fun id hid => by simpa [Option.any_eq_true] using List.all_eq_true.1 hended id (hids ▸ hid)
  have hspeaks := (speaks_of_play hu).trans (speaks_of_play ht)
  rw [hquiet, hsaid] at hspeaks
  refine ⟨said, t, ⟨rfl, rfl, hspeaks, fun id hid => (hstage id hid).1⟩, by decide, ?_⟩
  refine not_wholeLines_of_same (Bytes.ofString "go: command panicked\n") (fun id hid => ?_) (by rw [hids]; decide)
  obtain ⟨f, hf, hp⟩ := hat id (hids ▸ hid)
  obtain ⟨-, g, hg, hname⟩ := hstage id hid
  have hcame := cameTo_of_play hu ht hf hp
  rw [hquiet, hsaid] at hcame
  exact ⟨.brokeDown, g, hcame, hg, by rw [hname]; decide⟩

end Session
end LineShell
