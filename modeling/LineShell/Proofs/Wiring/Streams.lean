import LineShell.Session.Wiring
import Mathlib.Data.List.Basic
/-!
# Streams — what each stage reads and writes

`Plan.Reads` and `Plan.Writes` say which input and which output fall to a stage: a file that its clause names, else the
pipe to its neighbour, else the console, which no stage of a run in the background reads.  A stage is given streams
exactly if they fall to it (`getElem?_openFrom_eq_ok`), the files being as the stages before it left them.
-/
namespace LineShell
namespace Wiring

variable {p : Plan} {i : Nat} {c : Clause} {fs : Files} {input : Input} {output : Output}

/-- **The input of a stage.** -/
inductive Plan.Reads (p : Plan) (i : Nat) (c : Clause) (fs : Files) : Input → Prop
  | file {id : NodeId} : c.input ≠ "" → fs.openRead (p.path c.input) = .ok id → Reads p i c fs (.file id 0)
  | pipe : c.input = "" → 0 < i → Reads p i c fs (.pipe (p.first + (i - 1)))
  | console : c.input = "" → i = 0 → p.background = false → Reads p i c fs .console
  | exhausted : c.input = "" → i = 0 → p.background = true → Reads p i c fs .exhausted

/-- **The output of a stage.** -/
inductive Plan.Writes (p : Plan) (i : Nat) (c : Clause) (fs : Files) : Output → Prop
  | file {id : NodeId} : c.output ≠ "" → (fs.create (p.path c.output)).1 = .ok id → Writes p i c fs (.file id 0)
  | pipe : c.output = "" → i + 1 < p.count → Writes p i c fs (.pipe (p.first + i))
  | console : c.output = "" → p.count ≤ i + 1 → Writes p i c fs .console

theorem Plan.reads_input (h : c.input = "") : p.Reads i c fs (p.input i) := by
  unfold Plan.input
  by_cases hi : i = 0
  · rw [if_neg (not_not.2 hi)]
    cases hb : p.background with
    | true => exact .exhausted h hi hb
    | false => exact .console h hi hb
  · rw [if_pos hi, Nat.add_sub_assoc (Nat.one_le_iff_ne_zero.2 hi)]
    exact .pipe h (Nat.pos_of_ne_zero hi)

theorem Plan.writes_output (h : c.output = "") : p.Writes i c fs (p.output i) := by
  unfold Plan.output
  split
  · next hi => exact .pipe h hi
  · next hi => exact .console h (Nat.not_lt.1 hi)

theorem Plan.Reads.unique {input' : Input} (h : p.Reads i c fs input) (h' : p.Reads i c fs input') : input = input' := by
  cases h <;> cases h' <;> simp_all

theorem Plan.Writes.unique {output' : Output} (h : p.Writes i c fs output) (h' : p.Writes i c fs output') :
    output = output' := by
  cases h <;> cases h' <;> first | rfl | (exfalso; omega) | simp_all

theorem openInput_eq_ok_iff : openInput p i c fs = .ok input ↔ p.Reads i c fs input := by
  unfold openInput
  by_cases hc : c.input = ""
  · rw [if_pos hc, Except.ok.injEq]
    exact ⟨fun h => h ▸ Plan.reads_input hc, fun h => (Plan.reads_input hc).unique h⟩
  · rw [if_neg hc]
    constructor
    · intro h
      split at h
      · next ho =>
        cases h
        exact .file hc ho
      · cases h
    · intro h
      cases h with
      | file _ ho => rw [ho]
      | pipe hc' | console hc' | exhausted hc' => exact absurd hc' hc

theorem openOutput_eq_ok_iff : (openOutput p i c fs).1 = .ok output ↔ p.Writes i c fs output := by
  unfold openOutput
  by_cases hc : c.output = ""
  · rw [if_pos hc, Except.ok.injEq]
    exact ⟨fun h => h ▸ Plan.writes_output hc, fun h => (Plan.writes_output hc).unique h⟩
  · rw [if_neg hc]
    constructor
    · intro h
      split at h
      · next ho =>
        cases h
        exact .file hc (by rw [ho])
      · cases h
    · intro h
      cases h with
      | @file id _ ho =>
        split
        · next ho' =>
          rw [ho', Except.ok.injEq] at ho
          rw [ho]
        · next ho' =>
          rw [ho'] at ho
          cases ho
      | pipe hc' | console hc' => exact absurd hc' hc

/-- **A stage is given the streams that fall to it**, and none if a file cannot be opened. -/
theorem openStreams_eq_ok_iff : (openStreams p i c fs).1 = .ok ⟨input, output⟩ ↔
    p.Reads i c fs input ∧ p.Writes i c fs output := by
  rw [← openInput_eq_ok_iff, ← openOutput_eq_ok_iff]
  unfold openStreams
  cases openInput p i c fs with
  | error e => simp
  | ok input' =>
    dsimp only
    rcases openOutput p i c fs with ⟨_ | output', fs'⟩ <;> simp

/-- The files after the stages in front of an index were given their streams. -/
def Plan.filesBefore (p : Plan) (clauses : List Clause) (fs : Files) (i : Nat) : Files :=
  (openFrom p 0 (clauses.take i) fs).2

theorem getElem?_openFrom (p : Plan) : ∀ (clauses : List Clause) (index i : Nat) (fs : Files),
    (openFrom p index clauses fs).1[i]? = (clauses[i]?).map (fun c =>
      (openStreams p (index + i) c (openFrom p index (clauses.take i) fs).2).1)
  | [], _, _, _ => rfl
  | _ :: _, _, 0, _ => rfl
  | c :: clauses, index, i + 1, fs => by
    rw [Nat.add_comm i 1, ← Nat.add_assoc, Nat.add_comm 1 i]
    exact getElem?_openFrom p clauses (index + 1) i (openStreams p index c fs).2

/-- **The streams of the stages of a run.** -/
theorem getElem?_openFrom_eq_ok {clauses : List Clause} :
    (openFrom p 0 clauses fs).1[i]? = some (.ok ⟨input, output⟩) ↔ ∃ c, clauses[i]? = some c ∧
      p.Reads i c (p.filesBefore clauses fs i) input ∧ p.Writes i c (p.filesBefore clauses fs i) output := by
  rw [getElem?_openFrom, Nat.zero_add, Option.map_eq_some_iff]
  exact exists_congr fun c => and_congr_right fun _ => openStreams_eq_ok_iff

end Wiring
end LineShell
