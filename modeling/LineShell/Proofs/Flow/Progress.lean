import LineShell.Proofs.Flow.Pipeline
import LineShell.Proofs.Session.Course
/-!
# Progress — no chain of stages is stuck

A stage waits only for a pipe: to read from one that is empty while somebody writes, or to write to one that is full
while somebody reads.  A stage that need not wait for the one before it either moves or waits for the next one, whose
pipe is then full; the last stage never waits for one after it, nor the first for one before it.  So some stage can move
as long as one is at work (`Flow.exists_advance`).
-/
namespace LineShell
namespace Session

variable {s u : Session} {r : Chain} {front : Bytes} {owed : Nat → Bytes} {fuel : Nat → Nat}
  {id j limit most : Nat} {stage : Stage} {streams : Streams} {data : Bytes}

theorem readInput?_eq_none (h : u.readInput? id streams limit most = none) :
    ∃ n, streams.input = .pipe n ∧ (u.pipe n).held = [] ∧ (u.pipe n).writable = true := by
  unfold readInput? at h
  split at h
  · cases h
  · cases h
  · split at h <;> cases h
  · next n hn =>
    dsimp only at h
    split at h
    · cases h
    · split at h
      · next hempty =>
        split at h
        · next hw => exact ⟨n, hn, List.isEmpty_iff.1 hempty, hw⟩
        · cases h
      · cases h

theorem writeOutput?_eq_none (h : u.writeOutput? id streams data most = none) :
    ∃ n, streams.output = .pipe n ∧ (u.pipe n).readable = true ∧ u.pipeCapacity ≤ (u.pipe n).held.length := by
  unfold writeOutput? at h
  split at h
  · cases h
  · split at h <;> cases h
  · next n hn =>
    dsimp only at h
    split at h
    · cases h
    · next hr =>
      split at h
      · next hroom => exact ⟨n, hn, by simpa using hr, Nat.sub_eq_zero_iff_le.1 hroom⟩
      · cases h

theorem waits_of_advance? {p : Program Outcome} (hs : u.stages[id]? = some stage) (hph : stage.phase = .running p)
    (h : u.advance? id most = none) :
    (∃ n, stage.streams.input = .pipe n ∧ (u.pipe n).held = [] ∧ (u.pipe n).writable = true) ∨
      ∃ n, stage.streams.output = .pipe n ∧ (u.pipe n).readable = true ∧ u.pipeCapacity ≤ (u.pipe n).held.length := by
  unfold advance? at h
  rw [hs] at h
  dsimp only at h
  rw [hph] at h
  cases p with
  | done outcome => cases h
  | loop l state next => cases h
  | ask q next =>
    dsimp only at h
    split at h
    · cases h
    · next ha =>
      cases q with
      | read limit => exact .inl (readInput?_eq_none ha)
      | write data => exact .inr (writeOutput?_eq_none ha)
      | poll | flush | moveTo | ownPath | files | resolve | connect | note | isArmed | interrupt | streams => cases ha

def Launched (s : Session) (r : Chain) (u : Session) : Prop :=
  ∀ j < r.count, ∀ stage, u.stages[s.stages.size + j]? = some stage → stage.phase.isReady = false

namespace Flow

theorem stage_of_holds (h : Flow s r front owed fuel u) (hj : j < r.count) (hl : Launched s r u)
    (hh : u.holds (s.stages.size + j) = true) :
    ∃ stage p, u.stages[s.stages.size + j]? = some stage ∧ stage.phase = .running p ∧
      stage.streams = s.streamsAt r front j := by
  obtain ⟨stage, hs, hfit⟩ := h.stage j hj
  rw [holds, hs] at hh
  cases hph : stage.phase with
  | ready p =>
    have hno := hl j hj stage hs
    rw [hph] at hno
    cases hno
  | running p => exact ⟨stage, p, hs, hph, hfit.streams⟩
  | reporting | sending | ended => rw [Option.any_some, hph] at hh; cases hh

theorem advance_from (h : Flow s r front owed fuel u) (hcap : 1 ≤ s.pipeCapacity)
    (hl : Launched s r u) (most : Nat) :
    ∀ (more j : Nat), j + more + 1 = r.count → u.holds (s.stages.size + j) = true →
      (∀ i, j = i + 1 → (u.pipe (s.pipes.size + i)).held = [] → (u.pipe (s.pipes.size + i)).writable = false) →
      ∃ i < r.count, u.advance? (s.stages.size + i) most ≠ none
  | more, j, hlen, hh, hfirst => by
    obtain ⟨stage, p, hs, hph, hstreams⟩ := h.stage_of_holds (by omega) hl hh
    by_cases hadv : u.advance? (s.stages.size + j) most = none
    · rcases waits_of_advance? hs hph hadv with ⟨n, hn, hempty, hw⟩ | ⟨n, hn, hr, hfull⟩
      · rw [hstreams] at hn
        cases j with
        | zero => exact absurd hn (r.supply.input_ne_pipe front n)
        | succ i =>
          cases hn
          have hno := hfirst i rfl hempty
          exact absurd (hw.symm.trans hno) (by decide)
      · rw [hstreams] at hn
        cases more with
        | zero =>
          have hlast := output_last s r.count (j := j) (by omega)
          exact absurd (hlast.symm.trans hn) nofun
        | succ more =>
          have hlt : j + 1 < r.count := by omega
          cases (output_of_lt s r.count hlt).symm.trans hn
          -- Somebody reads there, so the next stage is at work; and it finds something to read.
          refine advance_from h hcap hl most more (j + 1) (by omega) ((h.ends j hlt).1.symm.trans hr) ?_
          intro i hi hempty
          cases hi
          rw [hempty, h.capacity, List.length_nil] at hfull
          omega
    · exact ⟨j, by omega, hadv⟩

/-- **Some stage can move** as long as one is at work and none is still to be launched. -/
theorem exists_advance (h : Flow s r front owed fuel u) (hcap : 1 ≤ s.pipeCapacity)
    (hl : Launched s r u) (most : Nat) :
    ∀ j < r.count, u.holds (s.stages.size + j) = true → ∃ i < r.count, u.advance? (s.stages.size + i) most ≠ none
  | 0, hj, hh => h.advance_from hcap hl most (r.count - 1) 0 (by omega) hh nofun
  | j + 1, hj, hh => by
    by_cases hw : (u.pipe (s.pipes.size + j)).writable = true
    -- A stage that may have to wait for the one before it leaves the matter to that one.
    · exact exists_advance h hcap hl most j (by omega) ((h.ends j hj).2.symm.trans hw)
    · refine h.advance_from hcap hl most (r.count - (j + 2)) (j + 1) (by omega) hh ?_
      intro i hi _
      cases hi
      simpa using hw

end Flow
end Session
end LineShell
