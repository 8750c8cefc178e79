import LineShell.Proofs.Flow.Channels
import LineShell.Proofs.Flow.Textual
import Mathlib.Logic.Function.Basic
/-!
# Pipeline — stages in a chain at work

`Flow` is what holds of a chain of stages in every state that it can reach: each stage ends well on what stands before it
and what is still to come there, and for what is still to come behind it; and a pipe is open at the ends that a stage at
work holds.  What is there and what is still to come make up the same whatever the schedule, so what has come in the end
is the same too.  Each step of a stage uses up some of its `fuel` (`Flow.advance`).
-/
namespace LineShell

def Phase.holds : Phase → Bool
  | ready _ | running _ => true
  | _ => false

/-- A phase of a stage with some input to come and some output to give, within a number of steps; it is to leave some of
the input unread. -/
def Phase.Fits (files : Files) (left : Bytes) : Phase → (fuel : Nat) → (rest out : Bytes) → Prop
  | ready p, fuel, rest, out | running p, fuel, rest, out =>
    ∃ n, fuel = n + 1 ∧ p.Ends files n (some rest) out (Program.Finished left)
  | reporting _ _, _, _, _ => False
  | sending _, fuel, rest, out => 0 < fuel ∧ rest = left ∧ out = []
  | ended, _, rest, out => rest = left ∧ out = []

structure Stage.Fits (files : Files) (streams : Streams) (left : Bytes) (fuel : Nat) (rest out : Bytes) (stage : Stage) :
    Prop where
  background : stage.background = false
  streams : stage.streams = streams
  /-- Nobody has asked the stage to stop. -/
  slot : stage.slot ≠ .full
  phase : stage.phase.Fits files left fuel rest out

theorem Stage.Fits.settled {files : Files} {streams : Streams} {left : Bytes} {fuel : Nat} {rest out : Bytes}
    {stage : Stage} (h : stage.Fits files streams left fuel rest out) (hh : stage.phase.holds = false) :
    rest = left ∧ out = [] := by
  have hp := h.phase
  cases hph : stage.phase with
  | ready p | running p => rw [hph] at hh; cases hh
  | reporting => rw [hph] at hp; exact hp.elim
  | sending status => rw [hph] at hp; exact hp.2
  | ended => rw [hph] at hp; exact hp

/-- **A chain of stages**: their number, where the first one reads and what it leaves there, and what the console is to
have shown in the end. -/
structure Chain where
  count : Nat
  supply : Supply
  left : Bytes
  final : Bytes

/-- What a stage leaves unread; a later one reads all that comes. -/
def Chain.leaves (r : Chain) : Nat → Bytes
  | 0 => r.left
  | _ + 1 => []

namespace Session

def holds (u : Session) (id : Nat) : Bool := (u.stages[id]?).any (fun stage => stage.phase.holds)

def streamsAt (s : Session) (r : Chain) (front : Bytes) (j : Nat) : Streams :=
  ⟨s.inputOf r.supply front j, (s.planOf r.count).output j⟩

/-- **A chain of stages under way**, started in `s`. -/
structure Flow (s : Session) (r : Chain) (front : Bytes) (owed : Nat → Bytes) (fuel : Nat → Nat) (u : Session) :
    Prop where
  size : u.stages.size = s.stages.size + r.count
  wires : u.pipes.size = s.pipes.size + (r.count - 1)
  capacity : u.pipeCapacity = s.pipeCapacity
  files : u.files = s.files
  earlier : ∀ id < s.stages.size, u.hasEnded id = true
  feeds : Feeds s u front r.supply
  source : owed 0 = []
  sink : s.held r.count front u r.count ++ owed r.count = r.final
  stage : ∀ j < r.count, ∃ stage, u.stages[s.stages.size + j]? = some stage ∧
    stage.Fits s.files (s.streamsAt r front j) (r.leaves j) (fuel j) (s.held r.count front u j ++ owed j) (owed (j + 1))
  ends : ∀ j, j + 1 < r.count →
    (u.pipe (s.pipes.size + j)).readable = u.holds (s.stages.size + (j + 1)) ∧
      (u.pipe (s.pipes.size + j)).writable = u.holds (s.stages.size + j)

theorem Touches.holds_self {u w : Session} {id : Nat} {stage stage' : Stage} (h : Touches u w id stage stage') :
    w.holds id = stage'.phase.holds := by rw [holds, h.after]; rfl

theorem Touches.holds_ne {u w : Session} {id i : Nat} {stage stage' : Stage} (h : Touches u w id stage stage')
    (hi : i ≠ id) : w.holds i = u.holds i := by rw [holds, h.others i hi, holds]

theorem Touches.holds_of_false {u w : Session} {id i : Nat} {stage stage' : Stage} (h : Touches u w id stage stage')
    (hh : stage'.phase.holds = false) : w.holds i = if i = id then false else u.holds i := by
  by_cases hi : i = id
  · rw [if_pos hi, hi, h.holds_self, hh]
  · rw [if_neg hi, h.holds_ne hi]

variable {s u v w : Session} {r : Chain} {front front' : Bytes} {owed : Nat → Bytes} {fuel : Nat → Nat}
  {id j most : Nat} {stage stage' : Stage}

namespace Flow

theorem fits (h : Flow s r front owed fuel u) (hj : j < r.count) (hs : u.stages[s.stages.size + j]? = some stage) :
    stage.Fits s.files (s.streamsAt r front j) (r.leaves j) (fuel j) (s.held r.count front u j ++ owed j)
      (owed (j + 1)) := by
  obtain ⟨st, hst, hfit⟩ := h.stage j hj
  obtain rfl : stage = st := Option.some.inj (hs.symm.trans hst)
  exact hfit

theorem streamsAt_of_held (hj : j < r.count) (h : s.held r.count front' w j = s.held r.count front u j) :
    s.streamsAt r front' j = s.streamsAt r front j := by
  cases j with
  | zero => exact congrArg (s.streamsAt r · 0) h
  | succ j => rfl

/-- **A step of one stage keeps the flow**, if what has come and is still to come stays the same in every other
channel. -/
theorem next (h : Flow s r front owed fuel u) (hj : j < r.count) (ht : Touches u w (s.stages.size + j) stage stage')
    {out : Bytes} {n : Nat}
    (hfit : stage'.Fits s.files (s.streamsAt r front' j) (r.leaves j) n (s.held r.count front' w j ++ owed j) out)
    (hfeeds : Feeds s w front' r.supply) (hfiles : w.files = u.files)
    (hheld : ∀ i, i ≠ j → i ≠ j + 1 → i ≤ r.count → s.held r.count front' w i = s.held r.count front u i)
    (hout : s.held r.count front' w (j + 1) ++ out = s.held r.count front u (j + 1) ++ owed (j + 1))
    (hsize : w.pipes.size = u.pipes.size) (hcap : w.pipeCapacity = u.pipeCapacity)
    (hends : ∀ i, i + 1 < r.count →
      (w.pipe (s.pipes.size + i)).readable = w.holds (s.stages.size + (i + 1)) ∧
        (w.pipe (s.pipes.size + i)).writable = w.holds (s.stages.size + i)) :
    Flow s r front' (Function.update owed (j + 1) out) (Function.update fuel j n) w where
  size := ht.size.trans h.size
  wires := hsize.trans h.wires
  capacity := hcap.trans h.capacity
  files := hfiles.trans h.files
  earlier := by
    intro id hid
    have := h.earlier id hid
    unfold hasEnded at this ⊢
    rwa [ht.others id (by omega)]
  feeds := hfeeds
  source := by rw [Function.update_of_ne (by omega)]; exact h.source
  sink := by
    by_cases hlast : r.count = j + 1
    · rw [hlast] at hout ⊢
      rw [Function.update_self, hout, ← hlast]
      exact h.sink
    · rw [Function.update_of_ne hlast, hheld _ (by omega) hlast (Nat.le_refl _)]
      exact h.sink
  stage := by
    intro i hi
    by_cases hij : i = j
    · subst hij
      refine ⟨stage', ht.after, ?_⟩
      rw [Function.update_self, Function.update_self, Function.update_of_ne (by omega)]
      exact hfit
    · obtain ⟨st, hst, hfit⟩ := h.stage i hi
      refine ⟨st, by rw [ht.others _ (by omega)]; exact hst, ?_⟩
      rw [Function.update_of_ne hij, Function.update_of_ne (by omega : i + 1 ≠ j + 1)]
      by_cases hij' : i = j + 1
      · subst hij'
        rw [Function.update_self, hout]
        exact hfit
      · have hsame := hheld i hij hij' (Nat.le_of_lt hi)
        rw [Function.update_of_ne hij', hsame, streamsAt_of_held hi hsame]
        exact hfit
  ends := hends

theorem go_on (h : Flow s r front owed fuel u) (hj : j < r.count) (hc : Carries u v)
    (ht : Touches u v (s.stages.size + j) stage stage') (hrun : stage.phase.holds = true)
    (hback : stage'.background = false) (hstreams : stage'.streams = s.streamsAt r front' j)
    (hslot : stage'.slot ≠ .full) {p : Program Outcome} {rest out : Bytes} {n : Nat}
    (hp : p.Ends s.files n (some rest) out (Program.Finished (r.leaves j)))
    (hfeeds : Feeds s v front' r.supply) (hrest : s.held r.count front' v j ++ owed j = rest)
    (hheld : ∀ i, i ≠ j → i ≠ j + 1 → i ≤ r.count → s.held r.count front' v i = s.held r.count front u i)
    (hout : s.held r.count front' v (j + 1) ++ out = s.held r.count front u (j + 1) ++ owed (j + 1)) :
    Flow s r front' (Function.update owed (j + 1) out) (Function.update fuel j (n + 1))
      (v.setPhase (s.stages.size + j) (.running p)) := by
  have ht' := ht.modifyStage (fun st => { st with phase := .running p })
  subst hrest
  refine h.next hj ht' ⟨hback, hstreams, hslot, n, rfl, hp⟩ (hfeeds.of_unread rfl rfl) hc.files hheld hout hc.size
    hc.capacity (fun i hi => ?_)
  have hsame : ∀ i, (v.modifyStage (s.stages.size + j) (fun st => { st with phase := .running p })).holds i =
      u.holds i := by
    intro i
    by_cases hij : i = s.stages.size + j
    · subst hij
      rw [ht'.holds_self, holds, ht.before]
      exact hrun.symm
    · exact ht'.holds_ne hij
  rw [hsame, hsame, ← (h.ends i hi).1, ← (h.ends i hi).2]
  exact hc.ends (s.pipes.size + i)

theorem settled_of_not_holds (h : Flow s r front owed fuel u) (hj : j < r.count)
    (hh : u.holds (s.stages.size + j) = false) :
    s.held r.count front u j ++ owed j = r.leaves j ∧ owed (j + 1) = [] := by
  obtain ⟨st, hst, hfit⟩ := h.stage j hj
  rw [holds, hst] at hh
  exact hfit.settled hh

theorem owed_eq_nil (h : Flow s r front owed fuel u) (hj : j < r.count)
    (hclosed : ∀ i, j = i + 1 → (u.pipe (s.pipes.size + i)).writable = false) : owed j = [] := by
  cases j with
  | zero => exact h.source
  | succ i =>
    refine (h.settled_of_not_holds (Nat.lt_of_succ_lt hj) ?_).2
    rw [← (h.ends i hj).2]
    exact hclosed i rfl

theorem readable (h : Flow s r front owed fuel u) (hj : j + 1 < r.count) (hne : owed (j + 1) ≠ []) :
    (u.pipe (s.pipes.size + j)).readable = true := by
  rw [(h.ends j hj).1, ← Bool.not_eq_false]
  exact fun hh => hne (List.append_eq_nil_iff.1 (h.settled_of_not_holds hj hh).1).2

/-- **An answered request keeps the flow.** -/
theorem answer (h : Flow s r front owed fuel u) (hj : j < r.count) (hs : u.stages[s.stages.size + j]? = some stage)
    {q : Request} {next : q.Reply → Program Outcome} (hph : stage.phase = .running (.ask q next)) {reply : q.Reply}
    (ha : u.answer? (s.stages.size + j) stage most q = some (reply, v)) :
    ∃ n < fuel j, ∃ front' out, Flow s r front' (Function.update owed (j + 1) out) (Function.update fuel j n)
      (v.setPhase (s.stages.size + j) (.running (next reply))) := by
  obtain ⟨hback, hstreams, hslot, hfit⟩ := h.fits hj hs
  have hrun : stage.phase.holds = true := by rw [hph]; rfl
  rw [hph] at hfit
  obtain ⟨n, hfuel, hends⟩ := hfit
  obtain _ | n := n
  · exact hends.elim
  refine ⟨n + 1, by omega, ?_⟩
  have hquiet : ∀ {v : Session} {stage' : Stage}, Touches u v (s.stages.size + j) stage stage' → Still u v →
      stage'.background = false → stage'.streams = s.streamsAt r front j → stage'.slot ≠ .full → ∀ {p : Program Outcome},
      p.Ends s.files n (some (s.held r.count front u j ++ owed j)) (owed (j + 1)) (Program.Finished (r.leaves j)) →
      ∃ front' out, Flow s r front' (Function.update owed (j + 1) out) (Function.update fuel j (n + 1))
        (v.setPhase (s.stages.size + j) (.running p)) := by
    intro v stage' ht hstill hback hstreams hslot p hp
    refine ⟨front, owed (j + 1), h.go_on hj hstill.carries ht hrun hback hstreams hslot hp
      (h.feeds.of_unread (congrArg Console.unread hstill.console) hstill.files) (by rw [held_of_still hstill])
      (fun i _ _ _ => held_of_still hstill i) (by rw [held_of_still hstill])⟩
  cases q with
  | poll =>
    have htake : some (stage.slot.take.1, u.modifyStage (s.stages.size + j) (fun st =>
      { st with slot := stage.slot.take.2 })) = some (reply, v) := ha
    have hno : stage.slot.take.1 = false := by
      rw [← Bool.not_eq_true, StopSlot.take_fst_iff]
      exact hslot
    rw [hno] at htake
    cases htake
    exact hquiet ((Touches.of_eq hs rfl).modifyStage (fun st => { st with slot := stage.slot.take.2 }))
      ⟨rfl, rfl, rfl, rfl⟩ hback hstreams (StopSlot.take_snd_ne_full _) hends
  | flush =>
    cases ha
    exact hquiet (Touches.of_eq hs rfl) ⟨rfl, rfl, rfl, rfl⟩ hback hstreams hslot hends
  | moveTo path =>
    cases ha
    exact hquiet ((Touches.of_eq hs rfl).modifyStage _) ⟨rfl, rfl, rfl, rfl⟩ hback hstreams hslot hends
  | files q =>
    obtain ⟨hq, hends⟩ := hends
    have hserve : some ((u.files.serve q).1, { u with files := (u.files.serve q).2 }) = some (reply, v) := ha
    rw [Files.serve_of_isReading u.files q hq] at hserve
    cases hserve
    exact hquiet (Touches.of_eq hs rfl) ⟨rfl, rfl, rfl, rfl⟩ hback hstreams hslot (h.files ▸ hends)
  | read limit =>
    obtain ⟨data, hdata, hl, -, hend, hmore⟩ := hends
    obtain rfl := Option.some.inj hdata
    obtain ⟨k, front', rfl, hkl, hpicks⟩ := picks_of_readInput? hs hstreams h.feeds hj
      (fun i hi => by rw [h.wires]; omega) hl ha
    have hp : (next (.ok ((s.held r.count front u j).take k))).Ends s.files n
        (some ((s.held r.count front u j).drop k ++ owed j)) (owed (j + 1)) (Program.Finished (r.leaves j)) := by
      by_cases hk : k = 0
      · subst hk
        -- Nothing is read only where nobody writes any more: this is the end of all that comes.
        obtain ⟨hempty, hclosed⟩ := hpicks.dry rfl
        have howed := h.owed_eq_nil hj hclosed
        rw [hempty, howed] at hend ⊢
        refine ((hend rfl).unread []).mono ?_ (Nat.le_refl n)
        rintro a _ out ⟨rfl, hfinished⟩
        exact hfinished
      · have := hmore k (Nat.pos_of_ne_zero hk) hkl (by rw [List.length_append]; have := hpicks.size; omega)
        rwa [List.take_append_of_le_length hpicks.size, List.drop_append_of_le_length hpicks.size] at this
    refine ⟨front', owed (j + 1), h.go_on hj hpicks.carries hpicks.touches hrun hback rfl hslot hp hpicks.feeds ?_
      (fun i hij _ hi => ?_) ?_⟩
    · rw [hpicks.held j (Nat.le_of_lt hj), if_pos rfl]
    · rw [hpicks.held i hi, if_neg hij]
    · rw [hpicks.held (j + 1) hj, if_neg (Nat.succ_ne_self j)]
  | write data =>
    obtain ⟨hd, hprefix, hmore⟩ := hends
    have hstreams' : stage.streams = ⟨s.inputOf r.supply front j, (s.planOf r.count).output j⟩ := hstreams
    have hwrite : u.writeOutput? (s.stages.size + j) ⟨s.inputOf r.supply front j, (s.planOf r.count).output j⟩ data most =
        some (reply, v) := by
      rw [← hstreams']
      exact ha
    -- What is still to come behind the stage keeps the next one reading, so the pipe is not broken.
    have hne : owed (j + 1) ≠ [] := fun hnil => hd (List.prefix_nil.1 (hnil ▸ hprefix))
    obtain ⟨k, hpos, hk, rfl, hheld, hstages, hunread, hc⟩ := writeOutput?_held front hj
      (fun hlt => by rw [h.wires]; omega) (fun hlt => h.readable hlt hne) hd hwrite
    obtain ⟨more, hmore'⟩ := hprefix
    refine ⟨front, (owed (j + 1)).drop k, h.go_on hj hc (Touches.of_eq hs hstages) hrun hback hstreams hslot
      (hmore k hpos hk) (h.feeds.of_unread hunread hc.files) ?_ (fun i _ hij hi => ?_) ?_⟩
    · rw [hheld j (Nat.le_of_lt hj), if_neg (Nat.ne_of_lt (Nat.lt_succ_self j))]
    · rw [hheld i hi, if_neg hij]
    · rw [hheld (j + 1) hj, if_pos rfl, List.append_assoc, ← hmore', List.drop_append_of_le_length hk,
        ← List.append_assoc (data.take k), List.take_append_drop]
  | ownPath | resolve | connect | note | isArmed | interrupt | streams => exact hends.elim

theorem settle (h : Flow s r front owed fuel u) (hj : j < r.count) (ht : Touches u w (s.stages.size + j) stage stage')
    {n : Nat} (hfit : stage'.Fits s.files (s.streamsAt r front j) (r.leaves j) n (r.leaves j) [])
    (hsettled : s.held r.count front u j ++ owed j = r.leaves j ∧ owed (j + 1) = [])
    (hheld : ∀ i ≤ r.count, s.held r.count front w i = s.held r.count front u i) (hconsole : w.console = u.console)
    (hfiles : w.files = u.files) (hsize : w.pipes.size = u.pipes.size) (hcap : w.pipeCapacity = u.pipeCapacity)
    (hends : ∀ i, i + 1 < r.count →
      (w.pipe (s.pipes.size + i)).readable = w.holds (s.stages.size + (i + 1)) ∧
        (w.pipe (s.pipes.size + i)).writable = w.holds (s.stages.size + i)) :
    ∃ front' out, Flow s r front' (Function.update owed (j + 1) out) (Function.update fuel j n) w := by
  refine ⟨front, owed (j + 1), h.next hj ht ?_ (h.feeds.of_unread (congrArg Console.unread hconsole) hfiles) hfiles
    (fun i _ _ hi => hheld i hi) (by rw [hheld (j + 1) hj]) hsize hcap hends⟩
  rw [hheld j (Nat.le_of_lt hj), hsettled.1, hsettled.2]
  exact hfit

/-- **A step of a stage** keeps the flow and uses up some of the stage's fuel. -/
theorem advance (h : Flow s r front owed fuel u) (hadv : u.advance? id most = some w) :
    ∃ j < r.count, ∃ n < fuel j, ∃ front' out,
      Flow s r front' (Function.update owed (j + 1) out) (Function.update fuel j n) w := by
  obtain ⟨j, rfl⟩ : ∃ j, id = s.stages.size + j := by
    refine ⟨id - s.stages.size, ?_⟩
    by_contra hlt
    have hended := h.earlier id (by omega)
    exact absurd ((advance?_of_hasEnded hended).symm.trans hadv) nofun
  obtain ⟨stage, hs, hadv⟩ := advances_of_advance? hadv
  have hj : j < r.count := by
    have := (Array.getElem?_eq_some_iff.1 hs).1
    rw [h.size] at this
    omega
  obtain ⟨hback, hstreams, hslot, hfit⟩ := h.fits hj hs
  refine ⟨j, hj, ?_⟩
  cases hadv with
  | done hph =>
    rw [hph] at hfit
    obtain ⟨n, hfuel, hends⟩ := hfit
    obtain _ | n := n
    · exact hends.elim
    obtain ⟨rfl, hrest, hout⟩ := hends
    rw [hback, hstreams]
    have hshut := shuts_closeEnds r.supply front hj h.wires
    have ht := (Touches.of_eq hs hshut.stages).modifyStage
      (fun st => { st with phase := .sending (Status.ofOutcome stage.name .done) })
    refine ⟨n + 1, by omega, h.settle hj ht ⟨hback, hstreams, hslot, Nat.succ_pos n, rfl, rfl⟩ ⟨hrest, hout⟩
      (fun i hi => held_of_shuts hshut hi) hshut.console hshut.files hshut.size hshut.capacity (fun i hi => ?_)⟩
    have hpipe := hshut.pipe i hi
    have hin := ht.holds_of_false (i := s.stages.size + (i + 1)) rfl
    have hout := ht.holds_of_false (i := s.stages.size + i) rfl
    rw [← (h.ends i hi).1] at hin
    rw [← (h.ends i hi).2] at hout
    refine ⟨(congrArg Pipe.readable hpipe).trans (hin.trans ?_).symm,
      (congrArg Pipe.writable hpipe).trans (hout.trans ?_).symm⟩
    · simp only [Nat.add_left_cancel_iff]
    · simp only [Nat.add_left_cancel_iff]
  | entered hph =>
    rw [hph] at hfit
    obtain ⟨n, hfuel, hends⟩ := hfit
    obtain _ | n := n
    · exact hends.elim
    exact ⟨n + 1, by omega, front, owed (j + 1), h.go_on hj (Still.carries ⟨rfl, rfl, rfl, rfl⟩) (Touches.of_eq hs rfl)
      (by rw [hph]; rfl) hback hstreams hslot hends h.feeds rfl (fun _ _ _ _ => rfl) rfl⟩
  | answered hph ha => exact h.answer hj hs hph ha
  | shown hph | ready hph => rw [hph] at hfit; exact hfit.elim
  | sent hph hsend =>
    rw [hph] at hfit
    obtain ⟨hpos, hrest, hout⟩ := hfit
    obtain ⟨current, rfl⟩ := send?_eq hsend
    have ht := (Touches.of_eq hs rfl).modifyStage (fun st => { st with phase := .ended, slot := .gone })
    have hsame : ∀ i, (u.endStage (s.stages.size + j)).holds i = u.holds i := by
      intro i
      by_cases hij : i = s.stages.size + j
      · subst hij
        rw [endStage, ht.holds_self, holds, hs]
        exact (congrArg Phase.holds hph).symm
      · exact ht.holds_ne hij
    refine ⟨fuel j - 1, by omega, h.settle (w := { u.endStage (s.stages.size + j) with current }) hj
      ⟨hs, ht.after, ht.others, ht.size⟩ ⟨hback, hstreams, nofun, rfl, rfl⟩ ⟨hrest, hout⟩
      (fun i _ => held_of_still ⟨rfl, rfl, rfl, rfl⟩ i) rfl rfl rfl rfl (fun i hi => ?_)⟩
    have hi := h.ends i hi
    rw [← hsame, ← hsame] at hi
    exact hi

end Flow

/-! ## The driver -/

def Launches (before after : Option Stage) : Prop :=
  after = before ∨ ∃ stage p, before = some stage ∧ stage.phase = .ready p ∧
    after = some { stage with phase := .running p }

theorem launches_of_launch (run : Run) (id : Nat) (waiting : List Nat) :
    Still u (u.launch run id waiting) ∧ (u.launch run id waiting).stages.size = u.stages.size ∧
      ∀ i : Nat, Launches u.stages[i]? (u.launch run id waiting).stages[i]? := by
  unfold launch
  split
  · exact ⟨⟨rfl, rfl, rfl, rfl⟩, rfl, fun _ => .inl rfl⟩
  · next stage hs =>
    cases hph : stage.phase with
    | running | reporting | sending | ended => exact ⟨⟨rfl, rfl, rfl, rfl⟩, rfl, fun _ => .inl rfl⟩
    | ready p =>
      have ht := (Touches.of_eq hs (v := u) rfl).modifyStage (fun st => { st with phase := .running p })
      refine ⟨⟨rfl, rfl, rfl, rfl⟩, ht.size, fun i => ?_⟩
      by_cases hi : i = id
      · subst hi
        exact .inr ⟨stage, p, hs, hph, ht.after⟩
      · exact .inl (ht.others i hi)

theorem launches_of_drive? (h : u.drive? = some w) :
    Still u w ∧ w.stages.size = u.stages.size ∧ ∀ id : Nat, Launches u.stages[id]? w.stages[id]? := by
  obtain ⟨run, id, waiting, rfl⟩ | ⟨current, rfl⟩ | ⟨run, detach, rfl⟩ := drive?_cases h
  · exact launches_of_launch run id waiting
  · exact ⟨⟨rfl, rfl, rfl, rfl⟩, rfl, fun _ => .inl rfl⟩
  · exact ⟨⟨rfl, rfl, rfl, rfl⟩, rfl, fun _ => .inl rfl⟩

theorem Launches.holds {u w : Session} (h : ∀ id : Nat, Launches u.stages[id]? w.stages[id]?) (id : Nat) :
    w.holds id = u.holds id := by
  rw [Session.holds, Session.holds]
  rcases h id with he | ⟨stage, p, hs, hp, he⟩
  · rw [he]
  · rw [he, hs, Option.any_some, Option.any_some, hp]
    rfl

/-- **Driving a run on keeps the flow.** -/
theorem Flow.drive (h : Flow s r front owed fuel u) (hd : u.drive? = some w) : Flow s r front owed fuel w := by
  obtain ⟨hstill, hsize, hl⟩ := launches_of_drive? hd
  have hwires : w.pipes.size = u.pipes.size := by rw [hstill.pipes]
  refine { size := hsize.trans h.size, wires := hwires.trans h.wires, capacity := hstill.capacity.trans h.capacity,
           files := hstill.files.trans h.files, earlier := fun id hid => ?_,
           feeds := h.feeds.of_unread (congrArg Console.unread hstill.console) hstill.files, source := h.source,
           sink := ?_, stage := fun j hj => ?_, ends := fun j hj => ?_ }
  · have hended := h.earlier id hid
    unfold hasEnded at hended ⊢
    rcases hl id with he | ⟨stage, p, hs, hp, -⟩
    · rwa [he]
    · rw [hs] at hended
      dsimp only at hended
      rw [hp] at hended
      cases hended
  · rw [held_of_still hstill]
    exact h.sink
  · obtain ⟨stage, hs, hfit⟩ := h.stage j hj
    rw [held_of_still hstill]
    rcases hl (s.stages.size + j) with he | ⟨stage', p, hs', hp, he⟩
    · exact ⟨stage, he.trans hs, hfit⟩
    · obtain ⟨hback, hstreams, hslot, hphase⟩ := h.fits hj hs'
      rw [hp] at hphase
      exact ⟨_, he, hback, hstreams, hslot, hphase⟩
  · rw [hstill.pipe, Launches.holds hl, Launches.holds hl]
    exact h.ends j hj

end Session
end LineShell
