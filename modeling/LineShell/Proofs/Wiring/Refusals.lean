import LineShell.Proofs.Session.Vouching
import LineShell.Proofs.Wiring.Owners
/-!
# Refusals — stages that do not run

A clause is refused for its name or for a file that cannot be opened, in this order (`Refusal`).  What is opened for it
leaves the files alone unless it is an output: so it does if the input cannot be opened, and if the output cannot
(`openStreams_snd_of_error`).  The files of a run are what the outputs of its clauses make of them one after the other
(`filesBefore_succ`), and clauses that make the same of them leave each other the same files (`filesBefore_congr`).
-/
namespace LineShell
namespace Wiring

variable {p : Plan} {i : Nat} {c c' : Clause} {clauses clauses' : List Clause} {fs : Files} {e : String}

/-- **Why a stage is given no streams**, with what is reported: its input cannot be opened, or its output. -/
inductive Plan.Bars (p : Plan) (i : Nat) (c : Clause) (fs : Files) : String → Prop
  | input {f : Fault} : c.input ≠ "" → fs.openRead (p.path c.input) = .error f → Bars p i c fs (inputFault p c.input f)
  | output {f : Fault} {input : Input} : p.Reads i c fs input → c.output ≠ "" →
      (fs.create (p.path c.output)).1 = .error f → Bars p i c fs (outputFault p c.output f)

theorem openInput_eq_error_iff : openInput p i c fs = .error e ↔
    c.input ≠ "" ∧ ∃ f, fs.openRead (p.path c.input) = .error f ∧ e = inputFault p c.input f := by
  unfold openInput
  by_cases hc : c.input = ""
  · rw [if_pos hc]
    exact ⟨nofun, fun h => absurd hc h.1⟩
  · rw [if_neg hc]
    cases fs.openRead (p.path c.input) with
    | ok id => simp
    | error f => simp [hc, eq_comm]

theorem openOutput_eq_error_iff : (openOutput p i c fs).1 = .error e ↔
    c.output ≠ "" ∧ ∃ f, (fs.create (p.path c.output)).1 = .error f ∧ e = outputFault p c.output f := by
  unfold openOutput
  by_cases hc : c.output = ""
  · rw [if_pos hc]
    exact ⟨nofun, fun h => absurd hc h.1⟩
  · rw [if_neg hc]
    rcases fs.create (p.path c.output) with ⟨_ | id, fs'⟩
    · simp [hc, eq_comm]
    · simp

theorem openStreams_of_error (h : openInput p i c fs = .error e) : openStreams p i c fs = (.error e, fs) := by
  rw [openStreams, h]

theorem openStreams_of_ok {input : Input} (h : openInput p i c fs = .ok input) : openStreams p i c fs =
    ((openOutput p i c fs).1.map (fun output => ⟨input, output⟩), (openOutput p i c fs).2) := by
  rw [openStreams, h]
  rcases openOutput p i c fs with ⟨_ | output, fs'⟩ <;> rfl

theorem openStreams_eq_error_iff : (openStreams p i c fs).1 = .error e ↔ p.Bars i c fs e := by
  cases hin : openInput p i c fs with
  | error e' =>
    obtain ⟨hne, f, hf, rfl⟩ := openInput_eq_error_iff.1 hin
    rw [openStreams_of_error hin]
    constructor
    · intro h
      obtain rfl := Except.error.inj h
      exact .input hne hf
    · intro h
      cases h with
      | input _ hf' => rw [Except.error.inj (hf.symm.trans hf')]
      | output hreads =>
        rw [openInput_eq_ok_iff.2 hreads] at hin
        cases hin
  | ok input =>
    have hmap : (openStreams p i c fs).1 = .error e ↔ (openOutput p i c fs).1 = .error e := by
      rw [openStreams_of_ok hin]
      cases (openOutput p i c fs).1 <;> simp [Except.map]
    rw [hmap, openOutput_eq_error_iff]
    constructor
    · rintro ⟨hne, f, hf, rfl⟩
      exact .output (openInput_eq_ok_iff.1 hin) hne hf
    · intro h
      cases h with
      | input hne hf =>
        rw [openInput_eq_error_iff.2 ⟨hne, _, hf, rfl⟩] at hin
        cases hin
      | output _ hne hf => exact ⟨hne, _, hf, rfl⟩

/-! ## Files -/

theorem create_snd_of_error {q : Path} {f : Fault} (h : (fs.create q).1 = .error f) : (fs.create q).2 = fs := by
  unfold Files.create at h ⊢
  split
  · rfl
  · split <;> simp_all
  · split <;> simp_all

theorem openStreams_snd_of_output (h : c.output = "") : (openStreams p i c fs).2 = fs := by
  cases hin : openInput p i c fs with
  | error e => rw [openStreams_of_error hin]
  | ok input =>
    rw [openStreams_of_ok hin]
    show (openOutput p i c fs).2 = fs
    rw [openOutput, if_pos h]

/-- **A stage that is given no streams** has left the files as they were. -/
theorem openStreams_snd_of_error (h : (openStreams p i c fs).1 = .error e) : (openStreams p i c fs).2 = fs := by
  cases openStreams_eq_error_iff.1 h with
  | input hne hf => rw [openStreams_of_error (openInput_eq_error_iff.2 ⟨hne, _, hf, rfl⟩)]
  | @output f input hreads hne hf =>
    have hleft : (openOutput p i c fs).2 = (fs.create (p.path c.output)).2 := by
      rw [openOutput, if_neg hne]
      rcases fs.create (p.path c.output) with ⟨_ | id, fs'⟩ <;> rfl
    rw [openStreams_of_ok (openInput_eq_ok_iff.2 hreads)]
    show (openOutput p i c fs).2 = fs
    rw [hleft, create_snd_of_error hf]

theorem openStreams_congr (hin : c'.input = c.input) (hout : c'.output = c.output) :
    openStreams p i c' fs = openStreams p i c fs := by
  simp only [openStreams, openInput, openOutput, hin, hout]

theorem openFrom_append (p : Plan) : ∀ (index : Nat) (before after : List Clause) (fs : Files),
    (openFrom p index (before ++ after) fs).2 =
      (openFrom p (index + before.length) after (openFrom p index before fs).2).2
  | _, [], _, _ => rfl
  | index, c :: before, after, fs => by
    rw [List.length_cons, Nat.add_comm before.length 1, ← Nat.add_assoc]
    exact openFrom_append p (index + 1) before after (openStreams p index c fs).2

theorem filesBefore_succ (hc : clauses[i]? = some c) :
    p.filesBefore clauses fs (i + 1) = (openStreams p i c (p.filesBefore clauses fs i)).2 := by
  obtain ⟨hi, rfl⟩ := List.getElem?_eq_some_iff.1 hc
  rw [Plan.filesBefore, List.take_succ_eq_append_getElem hi, openFrom_append, List.length_take,
    Nat.min_eq_left (Nat.le_of_lt hi), Nat.zero_add]
  rfl

theorem filesBefore_succ_of_le (hi : clauses.length ≤ i) :
    p.filesBefore clauses fs (i + 1) = p.filesBefore clauses fs i := by
  rw [Plan.filesBefore, Plan.filesBefore, List.take_of_length_le (Nat.le_succ_of_le hi), List.take_of_length_le hi]

/-- **Clauses that make the same of the files, place by place,** leave the same files to those behind them. -/
theorem filesBefore_congr (hlength : clauses'.length = clauses.length)
    (h : ∀ i c c', clauses[i]? = some c → clauses'[i]? = some c' → ∀ left,
      left = p.filesBefore clauses fs i → (openStreams p i c' left).2 = (openStreams p i c left).2) :
    ∀ i, p.filesBefore clauses' fs i = p.filesBefore clauses fs i
  | 0 => rfl
  | i + 1 => by
    have ih := filesBefore_congr hlength h i
    by_cases hi : i < clauses.length
    · have hc := List.getElem?_eq_getElem hi
      have hc' := List.getElem?_eq_getElem (hlength ▸ hi)
      rw [filesBefore_succ hc', filesBefore_succ hc, ih]
      exact h i _ _ hc hc' _ rfl
    · rw [filesBefore_succ_of_le (Nat.not_lt.1 hi), filesBefore_succ_of_le (hlength ▸ Nat.not_lt.1 hi), ih]

end Wiring

namespace Session

variable {s t : Session} {clauses : List Clause} {clause : Clause} {moves : List Move} {e : PipeEnd} {i k : Nat}
  {status : Status}

theorem getElem?_streamsOf (hc : clauses[i]? = some clause) : (s.streamsOf clauses)[i]? =
    some (Wiring.openStreams (s.planFor clauses) i clause ((s.planFor clauses).filesBefore clauses s.files i)).1 := by
  show (Wiring.openFrom (s.planFor clauses) 0 clauses s.files).1[i]? = _
  rw [Wiring.getElem?_openFrom, hc, Nat.zero_add]
  rfl

theorem streamsOf_eq_error_iff {text : String} (hc : clauses[i]? = some clause) :
    (s.streamsOf clauses)[i]? = some (.error text) ↔
      (s.planFor clauses).Bars i clause ((s.planFor clauses).filesBefore clauses s.files i) text := by
  rw [getElem?_streamsOf hc, Option.some.injEq]
  exact Wiring.openStreams_eq_error_iff

theorem files_start : (s.start clauses).files = (s.planFor clauses).filesBefore clauses s.files clauses.length := by
  by_cases hne : clauses = []
  · subst hne
    rfl
  · rw [Wiring.Plan.filesBefore, List.take_length]
    simp only [start, List.isEmpty_eq_false_iff.2 hne, Bool.false_eq_true, if_false]
    rfl

/-- **Why a clause does not run**, with its status.  Neither an exit keyword nor an unknown name asks what became of the
streams. -/
inductive Refusal (s : Session) (clauses : List Clause) (i : Nat) (clause : Clause) : Status → Prop
  | exit : s.registry.isExit clause.name = true → Refusal s clauses i clause ⟨.exitRequested, clause.name, none⟩
  | unknown : s.registry.isExit clause.name = false → s.registry.lookup clause.name = none →
      Refusal s clauses i clause ⟨.unknownCommand, clause.name, none⟩
  | unopened {command : Command} {text : String} :
      s.registry.isExit clause.name = false → s.registry.lookup clause.name = some command →
      (s.planFor clauses).Bars i clause ((s.planFor clauses).filesBefore clauses s.files i) text →
      Refusal s clauses i clause ⟨.ok, clause.name, some text⟩

theorem refused_iff (hc : clauses[i]? = some clause) : s.Refused clauses i status ↔ s.Refusal clauses i clause status := by
  obtain ⟨streams, hstreams⟩ : ∃ streams, (s.streamsOf clauses)[i]? = some streams := ⟨_, getElem?_streamsOf hc⟩
  rw [Refused, getElem?_preparedOf hc hstreams, Option.some.injEq, prepare_eq_error_iff]
  constructor
  · rintro (⟨hexit, rfl⟩ | ⟨hexit, hlookup, rfl⟩ | ⟨command, text, hexit, hlookup, rfl, rfl⟩)
    · exact .exit hexit
    · exact .unknown hexit hlookup
    · exact .unopened hexit hlookup ((streamsOf_eq_error_iff hc).1 hstreams)
  · intro h
    cases h with
    | exit hexit => exact .inl ⟨hexit, rfl⟩
    | unknown hexit hlookup => exact .inr (.inl ⟨hexit, hlookup, rfl⟩)
    | unopened hexit hlookup hbars =>
      have hbarred := (streamsOf_eq_error_iff hc).2 hbars
      exact .inr (.inr ⟨_, _, hexit, hlookup, Option.some.inj (hstreams.symm.trans hbarred), rfl⟩)

theorem not_mem_jobsOf_of_refused (h : s.Refused clauses i status) (job : Job) : (i, job) ∉ s.jobsOf clauses := by
  intro hjob
  rw [mem_jobsOf, show (s.preparedOf clauses)[i]? = some (.error status) from h] at hjob
  cases hjob

/-- **The ends of pipes that a stage would have held are closed** at the start of its run if it does not run. -/
theorem isOpen_start_of_refused (h : s.Refused clauses (e.stageOf k) status) (hk : k + 1 < clauses.length) :
    e.isOpen ((s.start clauses).pipe (s.pipes.size + k)) = false := by
  rw [← Bool.not_eq_true, pipe_start_eq hk, PipeEnd.isOpen_pipeFor]
  rintro ⟨job, hmem, he⟩
  obtain ⟨⟨i, job⟩, hjob, rfl⟩ := List.mem_map.1 hmem
  obtain ⟨k', hk'⟩ := List.mem_iff_getElem?.1 hjob
  obtain ⟨j, rfl, hn, -⟩ := pipe_of_job hk' he
  obtain rfl : k = j := by omega
  exact not_mem_jobsOf_of_refused h job hjob

theorem not_owns_of_refused (hs : s.Plumbed) (h : s.Refused clauses (e.stageOf k) status) (id : Nat) :
    ¬ (s.start clauses).Owns e id (s.pipes.size + k) := by
  intro howns
  obtain ⟨hn, -⟩ | ⟨k', j, job, -, hk', -, hn, -⟩ := owns_start_cases hs howns
  · omega
  · obtain rfl : k = j := by omega
    exact not_mem_jobsOf_of_refused h job (List.mem_of_getElem? hk')

/-- **A clause that is refused keeps its status** to the end of the run. -/
theorem status_of_refused (hs : s.Dated) (h : s.Refused clauses i status)
    (hplay : (s.start clauses).play moves = some t) (hover : t.current = none) : t.statuses[i]? = some status := by
  have hi : i < clauses.length := by
    rw [← length_preparedOf s clauses]
    exact (List.getElem?_eq_some_iff.1 h).1
  have hne : clauses ≠ [] := List.ne_nil_of_length_pos (Nat.zero_lt_of_lt hi)
  obtain ⟨hlength, hall⟩ := verdict (P := fun _ _ _ => True) (I := fun _ => True) hs hne (fun _ _ _ _ h => h)
    (fun _ _ h => h) (fun _ _ _ _ _ _ _ _ _ => trivial) (fun _ _ _ _ _ => trivial) hplay hover
  obtain ⟨st, hst⟩ : ∃ st, t.statuses[i]? = some st := ⟨_, List.getElem?_eq_getElem (hlength ▸ hi)⟩
  -- Every other source of a status is a stage of the run, which would do a job in the clause's place.
  have hnone : ∀ id ∈ s.idsOf clauses, ∀ seat, (s.start clauses).seats id = some seat → seat.index ≠ i := by
    intro id hid seat hseat hindex
    obtain ⟨k, hk, rfl⟩ := mem_idsOf.1 hid
    obtain ⟨⟨i', job⟩, hjob⟩ : ∃ p, (s.jobsOf clauses)[k]? = some p := ⟨_, List.getElem?_eq_getElem hk⟩
    rw [seats_start_of_job hjob, Option.some.injEq] at hseat
    subst hseat
    obtain rfl : i' = i := hindex
    exact not_mem_jobsOf_of_refused h job (List.mem_of_getElem? hjob)
  rw [hst]
  cases hall i st hst with
  | fixed hfixed => exact congrArg some (Except.error.inj (Option.some.inj (hfixed.symm.trans h)))
  | left _ hid hseat hindex => exact absurd hindex (hnone _ hid _ hseat)
  | said _ hid hseat hindex => exact absurd hindex (hnone _ hid _ hseat)
  | cut _ hid hseat hindex => exact absurd hindex (hnone _ hid _ hseat)

end Session
end LineShell
