import LineShell.Proofs.Flow.Opening
import LineShell.Proofs.Flow.Progress
import LineShell.Proofs.Session.Custody
import LineShell.Proofs.Session.Vouching
import Mathlib.Algebra.Order.BigOperators.Group.Finset
/-!
# Closing — a chain of stages comes to its end

A chain of stages that nobody interrupts comes to its end in every order of moves, and then it has shown on the console
what was to be shown (`settles_of_lays`).  The number of moves is bounded by the fuel of the stages and by how often the
run is driven on.
-/
namespace LineShell
namespace Session

/-- Nobody interrupts the run, and no report is lost. -/
structure Quiet (moves : List Move) : Prop where
  uninterrupted : .interrupt ∉ moves
  reported : ∀ id, .vanish id ∉ moves

theorem Quiet.split {before : List Move} {m : Move} (h : Quiet (before ++ [m])) :
    Quiet before ∧ (m = .drive ∨ ∃ id most, m = .advance id most) := by
  obtain ⟨hi, hv⟩ := h
  simp only [List.mem_append, List.mem_singleton, not_or] at hi hv
  refine ⟨⟨hi.1, fun id => (hv id).1⟩, ?_⟩
  cases m with
  | drive => exact .inl rfl
  | advance id most => exact .inr ⟨id, most, rfl⟩
  | vanish id => exact absurd rfl (hv id).2
  | interrupt => exact absurd rfl hi.2

theorem Quiet.of_append {before after : List Move} (h : Quiet (before ++ after)) : Quiet before :=
  ⟨fun hm => h.uninterrupted (List.mem_append_left _ hm), fun id hm => h.reported id (List.mem_append_left _ hm)⟩

theorem Quiet.append {before after : List Move} (h : Quiet before) (h' : Quiet after) : Quiet (before ++ after) :=
  ⟨fun hm => (List.mem_append.1 hm).elim h.uninterrupted h'.uninterrupted,
    fun id hm => (List.mem_append.1 hm).elim (h.reported id) (h'.reported id)⟩

theorem quiet_drive : Quiet [.drive] := ⟨by simp, by simp⟩

theorem quiet_advance (id most : Nat) : Quiet [.advance id most] := ⟨by simp, by simp⟩

variable {s t u : Session} {clauses : List Clause} {r : Chain} {front : Bytes} {brought owed : Nat → Bytes}
  {fuel : Nat → Nat} {moves : List Move} {id : Nat} {f : Face} {run : Run}

theorem not_cutShort_of_quiet (hs : s.Dated) (hne : clauses ≠ [])
    (hdelivers : ∀ before u m, (s.start clauses).play before = some u → u.delivers m = true → ¬ Quiet (before ++ [m]))
    (hq : Quiet moves) (h : (s.start clauses).play moves = some t) : ¬ CutShort t := by
  rintro ⟨run, hr, hcut⟩
  have hvouched := vouched_of_play (P := fun _ _ _ => True) (I := fun moves => ¬ Quiet moves) hs hne
    (fun _ _ _ _ _ => trivial) (fun _ _ hnot hq => hnot hq.split.1) (fun _ _ _ _ _ _ _ _ _ => trivial) hdelivers h hr
  exact hvouched.called (.inr hcut) hq

/-- **A run in the foreground that nothing interrupts waits for its stages.** -/
theorem ended_of_undisturbed (hs : s.Dated) (hne : clauses ≠ [])
    (hfront : clauses.any Clause.background = false)
    (hdelivers : ∀ before u m, (s.start clauses).play before = some u → u.delivers m = true → ¬ Quiet (before ++ [m]))
    (hq : Quiet moves) (h : (s.start clauses).play moves = some t) (hover : t.current = none) :
    ∀ id ∈ s.idsOf clauses, t.hasEnded id = true := by
  refine ended_of_return hs hfront h hover ?_
  rintro ⟨before, after, u, rfl, hu, hcut⟩
  exact not_cutShort_of_quiet hs hne hdelivers hq.of_append hu hcut

namespace Flow

theorem cases_of_faces (h : Flow s r front owed fuel u) (hf : u.faces id = some f) :
    f.phase.isEnded = true ∨ ∃ left n rest out, f.phase.Fits s.files left n rest out := by
  obtain ⟨stage, hs, rfl⟩ := faces_eq_some.1 hf
  by_cases hid : id < s.stages.size
  · have hended := h.earlier id hid
    unfold hasEnded at hended
    rw [hs] at hended
    exact .inl hended
  · obtain ⟨j, rfl⟩ : ∃ j, id = s.stages.size + j := ⟨id - s.stages.size, by omega⟩
    have hj : j < r.count := by
      have := (Array.getElem?_eq_some_iff.1 hs).1
      rw [h.size] at this
      omega
    exact .inr ⟨_, _, _, _, (h.fits hj hs).phase⟩

theorem appeals_eq_false (h : Flow s r front owed fuel u) (hf : u.faces id = some f) : f.phase.appeals = false := by
  rcases h.cases_of_faces hf with he | ⟨left, n, rest, out, hfit⟩
  · cases hph : f.phase with
    | ended => rfl
    | ready | running | reporting | sending => rw [hph] at he; cases he
  · unfold Phase.appeals
    split
    · next hph =>
      rw [hph] at hfit
      obtain ⟨n, -, hends⟩ := hfit
      cases n <;> exact hends.elim
    · rfl

theorem outcome_eq (h : Flow s r front owed fuel u) (hf : u.faces id = some f) {outcome : Outcome}
    (hph : f.phase = .running (.done outcome)) : outcome = .done := by
  rcases h.cases_of_faces hf with he | ⟨left, n, rest, out, hfit⟩
  · rw [hph] at he
    cases he
  · rw [hph] at hfit
    obtain ⟨n, -, hends⟩ := hfit
    cases n with
    | zero => exact hends.elim
    | succ n => exact hends.1

/-- **Where all stages have ended**, all output has been written, and nothing read but what was to be. -/
theorem finished (h : Flow s r front owed fuel u) (hpos : 0 < r.count) (hended : ∀ id, u.hasEnded id = true) :
    front = r.left ∧ u.console.output.bytes = r.final := by
  have hsettled : ∀ j < r.count, s.held r.count front u j ++ owed j = r.leaves j ∧ owed (j + 1) = [] := by
    intro j hj
    refine h.settled_of_not_holds hj ?_
    have he := hended (s.stages.size + j)
    obtain ⟨stage, hs, -⟩ := h.stage j hj
    unfold hasEnded at he
    rw [hs] at he
    rw [holds, hs, Option.any_some]
    cases hph : stage.phase with
    | ended => rfl
    | ready | running | reporting | sending => simp [hph, Phase.isEnded] at he
  obtain ⟨n, hn⟩ : ∃ n, r.count = n + 1 := Nat.exists_eq_succ_of_ne_zero (Nat.ne_of_gt hpos)
  constructor
  · have hfirst := (hsettled 0 hpos).1
    rwa [h.source, List.append_nil] at hfirst
  · have hsink := h.sink
    rw [hn] at hsink
    rwa [(hsettled n (by omega)).2, List.append_nil, held_last rfl] at hsink

end Flow

theorem sum_update_lt {j n N : Nat} (hj : j < N) (hn : n < fuel j) :
    ∑ i ∈ Finset.range N, Function.update fuel j n i < ∑ i ∈ Finset.range N, fuel i := by
  refine Finset.sum_lt_sum (fun i _ => ?_) ⟨j, Finset.mem_range.2 hj, by rwa [Function.update_self]⟩
  by_cases hij : i = j
  · subst hij
    rw [Function.update_self]
    exact Nat.le_of_lt hn
  · rw [Function.update_of_ne hij]

/-- **The flow goes on in every order of moves**, and the moves are bounded. -/
theorem flow_of_play (hs : s.Dated) (hlays : s.Lays clauses r brought) (hended : ∀ id, s.hasEnded id = true) :
    ∃ bound, ∀ moves t, Quiet moves → (s.start clauses).play moves = some t → ∃ front owed fuel,
      Flow s r front owed fuel t ∧
        moves.length + ∑ j ∈ Finset.range r.count, fuel j + t.left ≤ bound := by
  obtain ⟨owed, fuel, hflow⟩ := hlays.flow_start hended
  refine ⟨∑ j ∈ Finset.range r.count, fuel j + (s.start clauses).left, fun moves t hq h => ?_⟩
  refine play_induction (P := fun moves t => Quiet moves → ∃ front owed fuel,
    Flow s r front owed fuel t ∧
      moves.length + ∑ j ∈ Finset.range r.count, fuel j + t.left ≤ _) (fun _ => ⟨_, owed, fuel, hflow, by simp⟩) ?_ h hq
  intro before u m v hu ih hm hq
  obtain ⟨hq, hmove⟩ := hq.split
  obtain ⟨front, owed, fuel, hflow, hle⟩ := ih hq
  have hleft := left_step hs hlays.nonempty hu hm
  rw [List.length_append, List.length_singleton]
  -- Each move lowers one of the two measures and raises none.
  rcases hmove with rfl | ⟨id, most, rfl⟩
  · rw [if_pos rfl] at hleft
    exact ⟨front, owed, fuel, hflow.drive hm, by omega⟩
  · rw [if_neg nofun] at hleft
    obtain ⟨j, hj, n, hn, front, out, hnext⟩ := hflow.advance hm
    have hsum := sum_update_lt hj hn
    exact ⟨_, _, _, hnext, by omega⟩

theorem flow_of_quiet (hs : s.Dated) (hlays : s.Lays clauses r brought) (hended : ∀ id, s.hasEnded id = true)
    (hq : Quiet moves) (h : (s.start clauses).play moves = some t) : ∃ front owed fuel,
      Flow s r front owed fuel t := by
  obtain ⟨bound, hflow⟩ := flow_of_play hs hlays hended
  obtain ⟨front, owed, fuel, hflow, -⟩ := hflow moves t hq h
  exact ⟨front, owed, fuel, hflow⟩

theorem Lays.mem_idsOf (hlays : s.Lays clauses r brought) :
    id ∈ s.idsOf clauses ↔ ∃ j < r.count, id = s.stages.size + j := by
  rw [Session.mem_idsOf, hlays.length_jobsOf]
  simp only [Nat.add_comm]

theorem mem_stages_of_play (hs : s.Dated) (hlays : s.Lays clauses r brought)
    (h : (s.start clauses).play moves = some t) (hr : t.current = some run) :
    id ∈ run.stages ↔ ∃ j < r.count, id = s.stages.size + j := by
  obtain ⟨-, hcharter, -, -⟩ := underway hs hlays.nonempty h hr
  rw [show run.stages = s.idsOf clauses from congrArg Charter.stages hcharter, hlays.mem_idsOf]

/-- **A chain of stages is never stuck.** -/
theorem quiet_move (hs : s.Dated) (hlays : s.Lays clauses r brought) (hcap : 1 ≤ s.pipeCapacity) (hq : Quiet moves)
    (h : (s.start clauses).play moves = some t) (hflow : Flow s r front owed fuel t)
    (hr : t.current = some run) : ∃ m v, Quiet [m] ∧ t.step? m = some v := by
  have goes : ∀ id most, t.advance? id most ≠ none → ∃ m v, Quiet [m] ∧ t.step? m = some v := by
    intro id most hadv
    obtain ⟨v, hv⟩ := Option.ne_none_iff_exists'.1 hadv
    exact ⟨.advance id most, v, quiet_advance id most, hv⟩
  cases hd : t.drive? with
  | some v => exact ⟨.drive, v, quiet_drive, hd⟩
  | none =>
    obtain ⟨-, hcharter, -, hcourse⟩ := underway hs hlays.nonempty h hr
    obtain ⟨id, hid, ⟨f, p, hf, hp⟩ | hadv⟩ := busy_of_stuck hs hlays.nonempty h
      (fun run => heard_of_play hs hlays.nonempty hq.reported h) (by rw [hr]; nofun) hd
    · have hwaiting : run.waiting = [] := by
        rw [Run.waiting]
        rcases stuck_cases hr hd with ⟨hph, -, -⟩ | ⟨hph, -⟩ <;> rw [hph]
      have hl : Launched s r t := by
        intro j hj stage hst
        by_contra hready
        have hmem := (mem_stages_of_play hs hlays h hr).2 ⟨j, hj, rfl⟩
        have hready : stage.face.phase.isReady = true := (Bool.not_eq_false _).mp hready
        have := (hcourse.ready _ hmem _ (faces_of_getElem? hst)).1 hready
        rw [hwaiting] at this
        cases this
      obtain ⟨j, hj, rfl⟩ := hlays.mem_idsOf.1 hid
      have hholds : t.holds (s.stages.size + j) = true := by
        obtain ⟨stage, hst, rfl⟩ := faces_eq_some.1 hf
        have hp : stage.phase = .running p := hp
        rw [holds, hst, Option.any_some, hp]
        rfl
      obtain ⟨i, -, hadv⟩ := hflow.exists_advance hcap hl 0 j hj hholds
      exact goes _ _ hadv
    · exact goes id 0 (hadv 0)

/-! ## What a chain of stages comes to -/

def DidWell (s : Session) (clauses : List Clause) (moves : List Move) (id : Nat) (st : Status) : Prop :=
  Quiet moves → ∃ j c, id = s.stages.size + j ∧ clauses[j]? = some c ∧ st = ⟨.ok, c.name, none⟩

theorem DidWell.append {st : Status} (h : DidWell s clauses moves id st) (m : Move) : DidWell s clauses (moves ++ [m]) id st :=
  fun hq => h hq.split.1

section

variable (hs : s.Dated) (hlays : s.Lays clauses r brought) (hended : ∀ id, s.hasEnded id = true)

include hs hlays hended

theorem didWell_of_done (h : (s.start clauses).play moves = some t)
    (hid : id ∈ s.idsOf clauses) (hf : t.faces id = some f) {outcome : Outcome}
    (hph : f.phase = .running (.done outcome)) : DidWell s clauses moves id (Status.ofOutcome f.name outcome) := by
  intro hq
  obtain ⟨front, owed, fuel, hflow⟩ := flow_of_quiet hs hlays hended hq h
  obtain rfl := hflow.outcome_eq hf hph
  obtain ⟨j, hj, rfl⟩ := mem_idsOf.1 hid
  rw [hlays.length_jobsOf] at hj
  obtain ⟨c, hc⟩ := hlays.getElem? hj
  refine ⟨j, c, Nat.add_comm _ _, hc, ?_⟩
  have hseat := hlays.seats_start hc
  rw [Nat.add_comm, ← seats_of_play h, seats_of_faces hf, Option.some.injEq] at hseat
  exact congrArg (fun name => (⟨.ok, name, none⟩ : Status)) (congrArg Seat.name hseat)

theorem not_quiet_of_delivers (h : (s.start clauses).play moves = some t) {m : Move}
    (hd : t.delivers m = true) : ¬ Quiet (moves ++ [m]) := by
  intro hq
  obtain ⟨hbefore, rfl | ⟨id, most, rfl⟩⟩ := hq.split
  · cases hd
  · obtain ⟨front, owed, fuel, hflow⟩ := flow_of_quiet hs hlays hended hbefore h
    cases hf : t.faces id with
    | none => simp [delivers, hf] at hd
    | some f => simp [delivers_advance hf, hflow.appeals_eq_false hf] at hd

/-- **A chain of stages is waited for.** -/
theorem ended_of_quiet (hq : Quiet moves) (h : (s.start clauses).play moves = some t)
    (hover : t.current = none) : ∀ id, t.hasEnded id = true := by
  intro id
  obtain ⟨front, owed, fuel, hflow⟩ := flow_of_quiet hs hlays hended hq h
  by_cases hlt : id < s.stages.size
  · exact hflow.earlier id hlt
  by_cases hge : id < s.stages.size + r.count
  · exact ended_of_undisturbed hs hlays.nonempty hlays.any_background
      (fun _ _ _ hu hd => not_quiet_of_delivers hs hlays hended hu hd) hq h hover id
      (hlays.mem_idsOf.2 ⟨id - s.stages.size, by omega, by omega⟩)
  · unfold hasEnded
    rw [Array.getElem?_eq_none (by rw [hflow.size]; omega)]

theorem statuses_of_quiet (hq : Quiet moves) (h : (s.start clauses).play moves = some t)
    (hover : t.current = none) : t.statuses = clauses.map (fun c => ⟨.ok, c.name, none⟩) := by
  obtain ⟨hlen, hall⟩ := verdict (P := DidWell s clauses) (I := fun moves => ¬ Quiet moves) hs hlays.nonempty
    (fun _ m _ _ hp => hp.append m) (fun _ _ hnot hq => hnot hq.split.1)
    (fun _ _ _ _ _ hu hid hf hp => didWell_of_done hs hlays hended hu hid hf hp)
    (fun _ _ _ hu hd => not_quiet_of_delivers hs hlays hended hu hd) h hover
  refine List.ext_getElem? (fun i => ?_)
  rw [List.getElem?_map]
  cases hc : clauses[i]? with
  | none => exact List.getElem?_eq_none (hlen ▸ List.getElem?_eq_none_iff.1 hc)
  | some c =>
    have hi := (List.getElem?_eq_some_iff.1 hc).1
    obtain ⟨st, hst⟩ : ∃ st, t.statuses[i]? = some st := ⟨_, List.getElem?_eq_getElem (hlen ▸ hi)⟩
    rw [hst]
    cases hall i _ hst with
    | fixed hp =>
      rw [Refused, hlays.preparedOf_eq, List.getElem?_map, Lays.jobs, List.getElem?_mapIdx, hc] at hp
      cases hp
    | left hb => exact absurd (hb.symm.trans hlays.any_background) (by decide)
    | cut _ _ _ _ hnot => exact absurd hq hnot
    | said _ hid hseat hindex hp =>
      obtain ⟨j, c', rfl, hc', hp⟩ := hp hq
      have hstart := hlays.seats_start hc'
      rw [hseat, Option.some.injEq] at hstart
      subst hstart
      obtain rfl : j = i := hindex
      rw [hc, Option.some.injEq] at hc'
      subst hc'
      rw [hp]
      rfl

end

/-- **A run comes to its end**, however its stages are scheduled and in whatever pieces their data travel: its moves are
bounded, it is never stuck, and in the end `Q` holds of the session. -/
def Settles (s : Session) (clauses : List Clause) (Q : Session → Prop) : Prop :=
  ∃ bound, ∀ moves t, Quiet moves → (s.start clauses).play moves = some t →
    moves.length ≤ bound ∧ (t.current ≠ none → ∃ m v, Quiet [m] ∧ t.step? m = some v) ∧ (t.current = none → Q t)

theorem Settles.mono {P Q : Session → Prop} (h : s.Settles clauses P) (hle : ∀ t, P t → Q t) : s.Settles clauses Q := by
  obtain ⟨bound, hbound⟩ := h
  refine ⟨bound, fun moves t hq ht => ?_⟩
  obtain ⟨hlen, hmove, hover⟩ := hbound moves t hq ht
  exact ⟨hlen, hmove, fun hdone => hle t (hover hdone)⟩

/-- **A run that comes to its end has one**: as long as it is not over, it can be played on. -/
theorem Settles.exists_over {Q : Session → Prop} (h : s.Settles clauses Q) :
    ∃ moves t, Quiet moves ∧ (s.start clauses).play moves = some t ∧ t.current = none ∧ Q t := by
  obtain ⟨bound, hbound⟩ := h
  by_contra hnone
  have hplays : ∀ n, ∃ moves t, moves.length = n ∧ Quiet moves ∧ (s.start clauses).play moves = some t := by
    intro n
    induction n with
    | zero => exact ⟨[], _, rfl, ⟨by simp, by simp⟩, rfl⟩
    | succ n ih =>
      obtain ⟨moves, t, rfl, hq, ht⟩ := ih
      obtain ⟨-, hmove, hover⟩ := hbound moves t hq ht
      have hunder : t.current ≠ none := fun hdone => hnone ⟨moves, t, hq, ht, hdone, hover hdone⟩
      obtain ⟨m, v, hm, hv⟩ := hmove hunder
      exact ⟨moves ++ [m], v, List.length_append, hq.append hm, play_snoc ht hv⟩
  obtain ⟨moves, t, hlen, hq, ht⟩ := hplays (bound + 1)
  have hle := (hbound moves t hq ht).1
  omega

/-- **A run that starts no stage** is driven on to its end, for nobody else can move. -/
theorem settles_of_jobsOf_nil (hs : s.Dated) (hne : clauses ≠ []) (hended : ∀ id, s.hasEnded id = true)
    (hjobs : s.jobsOf clauses = []) : s.Settles clauses (fun t =>
      (∀ id, t.hasEnded id = true) ∧ t.statuses.length = clauses.length) := by
  have hstart : ∀ id, (s.start clauses).hasEnded id = true := by
    intro id
    by_cases hid : id < s.stages.size
    · exact hasEnded_start (hended id) hid
    · have hsize : (s.start clauses).stages.size = s.stages.size := by
        rw [size_stages_start, hjobs]
        rfl
      rw [hasEnded, Array.getElem?_eq_none (by rw [hsize]; omega)]
  have hplay : ∀ moves t, Quiet moves → (s.start clauses).play moves = some t →
      (∀ id, t.hasEnded id = true) ∧ moves.length + t.left ≤ (s.start clauses).left := by
    intro moves t hq h
    refine play_induction (P := fun moves t => Quiet moves → (∀ id, t.hasEnded id = true) ∧
      moves.length + t.left ≤ (s.start clauses).left) (fun _ => ⟨hstart, by simp⟩) ?_ h hq
    intro before u m v hu ih hm hq
    obtain ⟨hq, hmove⟩ := hq.split
    obtain ⟨hall, hle⟩ := ih hq
    have hleft := left_step hs hne hu hm
    refine ⟨fun id => (step_of_step? hm).hasEnded (hall id), ?_⟩
    rcases hmove with rfl | ⟨id, most, rfl⟩
    · rw [if_pos rfl] at hleft
      rw [List.length_append, List.length_singleton]
      omega
    · have hnone : u.step? (.advance id most) = none := advance?_of_hasEnded (hall id)
      rw [hnone] at hm
      cases hm
  refine ⟨(s.start clauses).left, fun moves t hq h => ?_⟩
  obtain ⟨hall, hle⟩ := hplay moves t hq h
  refine ⟨by omega, fun hunder => ?_, fun hover => ⟨hall, ?_⟩⟩
  · have hids : s.idsOf clauses = [] := by
      rw [idsOf, hjobs]
      rfl
    obtain ⟨v, hv⟩ := Option.ne_none_iff_exists'.1 (drive?_of_idsOf hs hne hids h hunder)
    exact ⟨.drive, v, quiet_drive, hv⟩
  · exact (verdict (P := fun _ _ _ => True) (I := fun _ => True) hs hne (fun _ _ _ _ _ => trivial)
      (fun _ _ _ => trivial) (fun _ _ _ _ _ _ _ _ _ => trivial) (fun _ _ _ _ _ => trivial) h hover).1

/-- **A chain of stages comes to its end.**  Then all have done well, the first has left unread what it was to leave, and
the console has shown what was to be shown.  No stage of an earlier run is left that could use the console. -/
theorem settles_of_lays (hs : s.Lived) (hended : ∀ id, s.hasEnded id = true) (hcap : 1 ≤ s.pipeCapacity)
    (hlays : s.Lays clauses r brought) : s.Settles clauses (fun t =>
      (∀ id, t.hasEnded id = true) ∧ t.statuses = clauses.map (fun c => ⟨.ok, c.name, none⟩) ∧
        Feeds s t r.left r.supply ∧ t.console.output.bytes = r.final) := by
  obtain ⟨bound, hbound⟩ := flow_of_play hs.dated hlays hended
  refine ⟨bound, fun moves t hq h => ?_⟩
  obtain ⟨front, owed, fuel, hflow, hle⟩ := hbound moves t hq h
  refine ⟨by omega, fun hunder => ?_, fun hover => ?_⟩
  · obtain ⟨run, hr⟩ := Option.ne_none_iff_exists'.1 hunder
    exact quiet_move hs.dated hlays hcap hq h hflow hr
  · have hall := ended_of_quiet hs.dated hlays hended hq h hover
    obtain ⟨rfl, hwritten⟩ := hflow.finished (hlays.count ▸ List.length_pos_iff.2 hlays.nonempty) hall
    exact ⟨hall, statuses_of_quiet hs.dated hlays hended hq h hover, hflow.feeds, hwritten⟩

end Session
end LineShell
