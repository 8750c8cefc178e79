import LineShell.Proofs.Flow.Pipeline
/-!
# Opening — a chain of stages begins

Clauses lay a chain (`Session.Lays`) if the command of each is known and ends well on what the one before it brings;
none of them redirects its output, and only the first may redirect its input.  They become stages in a row, each pipe
open at both its ends and nothing in it, and that is all that `Flow` asks for (`Lays.flow_start`).
-/
namespace LineShell
namespace Session

def commandOf (s : Session) (c : Clause) : Command :=
  (s.registry.lookup c.name).getD { name := c.name, execute := fun _ => .done .brokeDown }

def callOf (s : Session) (c : Clause) : Call := ⟨s.path, c.arguments, c.options⟩

/-- **A clause becomes a stage** in front whose command, which is known, ends well: on some data, for some output to where
a stage writes without a redirect, with some of the data left unread. -/
structure Stands (s : Session) (c : Clause) (left data out : Bytes) : Prop where
  exit : s.registry.isExit c.name = false
  found : s.registry.lookup c.name = some (s.commandOf c)
  background : c.background = false
  output : c.output = ""
  ends : ∃ n, ((s.commandOf c).execute (s.callOf c)).Ends s.files n (some data) out (Program.Finished left)

/-- The first clause of a chain is to read some data, from the console or from the file that it names. -/
def Offers (s : Session) (c : Clause) (data : Bytes) : Supply → Prop
  | .console => c.input = "" ∧ s.console.unread = data
  | .file id held => c.input ≠ "" ∧ s.files.openRead (Action.resolve s.path c.input) = .ok id ∧
      s.files.data? id = some held ∧ data = held

/-- **Clauses lay a chain** in which stage `j` is to read `brought j`. -/
structure Lays (s : Session) (clauses : List Clause) (r : Chain) (brought : Nat → Bytes) : Prop where
  nonempty : clauses ≠ []
  count : r.count = clauses.length
  final : r.final = s.console.output.bytes ++ brought r.count
  offers : ∀ c, clauses[0]? = some c → s.Offers c (brought 0) r.supply
  piped : ∀ j c, clauses[j + 1]? = some c → c.input = ""
  stands : ∀ j c, clauses[j]? = some c → s.Stands c (r.leaves j) (brought j) (brought (j + 1))

variable {s : Session} {clauses : List Clause} {r : Chain} {brought : Nat → Bytes} {j : Nat} {c : Clause}

theorem commandOf_eq {command : Command} (h : s.registry.lookup c.name = some command) : s.commandOf c = command := by
  rw [commandOf, h, Option.getD_some]

theorem name_of_lookup {command : Command} {name : String} (h : s.registry.lookup name = some command) :
    command.name = name := by
  have hfound := List.find?_some h
  simpa using hfound

/-- **A clause alone** is a chain. -/
theorem lays_of_stands {left data out : Bytes} {supply : Supply} (h : s.Stands c left data out)
    (hoffers : s.Offers c data supply) :
    s.Lays [c] ⟨1, supply, left, s.console.output.bytes ++ out⟩ (fun j => [data, out].getD j []) where
  nonempty := List.cons_ne_nil _ _
  count := rfl
  final := rfl
  offers := by
    rintro _ ⟨⟩
    exact hoffers
  piped := nofun
  stands j _ hc := by
    cases j with
    | zero =>
      cases hc
      exact h
    | succ j => cases hc

namespace Lays

theorem any_background (h : s.Lays clauses r brought) : clauses.any Clause.background = false := by
  rw [List.any_eq_false]
  intro c hc
  obtain ⟨j, hj⟩ := List.mem_iff_getElem?.1 hc
  rw [(h.stands j c hj).background]
  exact Bool.false_ne_true

theorem getElem? (h : s.Lays clauses r brought) (hj : j < r.count) : ∃ c, clauses[j]? = some c :=
  ⟨_, List.getElem?_eq_getElem (h.count ▸ hj)⟩

theorem openStreams_eq (h : s.Lays clauses r brought) (hc : clauses[j]? = some c) :
    Wiring.openStreams (s.planOf r.count) j c s.files = (.ok (s.streamsAt r (brought 0) j), s.files) := by
  have houtput : Wiring.openOutput (s.planOf r.count) j c s.files = (.ok ((s.planOf r.count).output j), s.files) := by
    rw [Wiring.openOutput, if_pos (h.stands j c hc).output]
  have hinput : Wiring.openInput (s.planOf r.count) j c s.files = .ok (s.inputOf r.supply (brought 0) j) := by
    rw [Wiring.openInput]
    cases j with
    | succ j =>
      rw [if_pos (h.piped j c hc)]
      rfl
    | zero =>
      have hoffers := h.offers c hc
      cases hsupply : r.supply with
      | console =>
        rw [hsupply] at hoffers
        rw [if_pos hoffers.1]
        rfl
      | file id held =>
        rw [hsupply] at hoffers
        obtain ⟨hnamed, hopen, -, hdata⟩ := hoffers
        have hopen : s.files.openRead ((s.planOf r.count).path c.input) = .ok id := hopen
        rw [if_neg hnamed, hopen, inputOf, Supply.input, hdata, Nat.sub_self]
  rw [Wiring.openStreams, hinput, houtput]
  rfl

end Lays

theorem openFrom_eq (p : Wiring.Plan) (files : Files) (streams : Nat → Streams) :
    ∀ (clauses : List Clause) (index : Nat),
      (∀ j c, clauses[j]? = some c → Wiring.openStreams p (index + j) c files = (.ok (streams (index + j)), files)) →
      Wiring.openFrom p index clauses files = ((List.range' index clauses.length).map (fun j => .ok (streams j)), files)
  | [], _, _ => rfl
  | c :: clauses, index, h => by
    have hrest := openFrom_eq p files streams clauses (index + 1) (fun j c hc => by
      have := h (j + 1) c hc
      rwa [← Nat.add_assoc, Nat.add_right_comm] at this)
    have hfirst : Wiring.openStreams p index c files = (.ok (streams index), files) := h 0 c rfl
    rw [Wiring.openFrom, hfirst]
    dsimp only
    rw [hrest]
    rfl

namespace Lays

theorem wire_eq (h : s.Lays clauses r brought) : wire s.path s.pipes.size clauses s.files =
    ((List.range r.count).map (fun j => .ok (s.streamsAt r (brought 0) j)), s.files) := by
  rw [wire, h.any_background, h.count, List.range_eq_range', ← h.count]
  have hopen := openFrom_eq (s.planOf r.count) s.files (s.streamsAt r (brought 0)) clauses 0 (fun j c hc => by
    rw [Nat.zero_add]
    exact h.openStreams_eq hc)
  rw [← h.count] at hopen
  exact hopen

def jobs (s : Session) (clauses : List Clause) (r : Chain) (front : Bytes) : List Job :=
  clauses.mapIdx (fun j c => ⟨s.commandOf c, s.callOf c, s.streamsAt r front j⟩)

theorem preparedOf_eq (h : s.Lays clauses r brought) :
    s.preparedOf clauses = (jobs s clauses r (brought 0)).map .ok := by
  refine List.ext_getElem? (fun j => ?_)
  cases hc : clauses[j]? with
  | none =>
    have hge := List.getElem?_eq_none_iff.1 hc
    rw [List.getElem?_eq_none (by rw [length_preparedOf]; exact hge),
      List.getElem?_eq_none (by rw [List.length_map, jobs, List.length_mapIdx]; exact hge)]
  | some c =>
    have hstands := h.stands j c hc
    have hj : j < r.count := h.count ▸ (List.getElem?_eq_some_iff.1 hc).1
    have hstreams : (s.streamsOf clauses)[j]? = some (.ok (s.streamsAt r (brought 0) j)) := by
      rw [streamsOf, h.wire_eq, List.getElem?_map, List.getElem?_range hj]
      rfl
    rw [getElem?_preparedOf hc hstreams, List.getElem?_map, jobs, List.getElem?_mapIdx, hc, prepare, hstands.exit,
      hstands.found]
    rfl

end Lays

theorem filterMap_ok : ∀ (jobs : List Job) (index : Nat),
    ((jobs.map (Except.ok : Job → Except Status Job)).zipIdx index).filterMap (fun (p, index) =>
      match p with
      | .ok job => some (index, job)
      | .error _ => none) = (jobs.zipIdx index).map Prod.swap
  | [], _ => rfl
  | job :: jobs, index => by
    rw [List.map_cons, List.zipIdx_cons, List.zipIdx_cons, List.map_cons, ← filterMap_ok jobs (index + 1)]
    rfl

namespace Lays

theorem jobsOf_eq (h : s.Lays clauses r brought) :
    s.jobsOf clauses = (jobs s clauses r (brought 0)).zipIdx.map Prod.swap := by
  rw [jobsOf, h.preparedOf_eq]
  exact filterMap_ok _ 0

theorem length_jobsOf (h : s.Lays clauses r brought) : (s.jobsOf clauses).length = r.count := by
  rw [h.jobsOf_eq, List.length_map, List.length_zipIdx, jobs, List.length_mapIdx, h.count]

theorem getElem?_jobsOf (h : s.Lays clauses r brought) (hc : clauses[j]? = some c) :
    (s.jobsOf clauses)[j]? = some (j, ⟨s.commandOf c, s.callOf c, s.streamsAt r (brought 0) j⟩) := by
  rw [h.jobsOf_eq, List.getElem?_map, List.getElem?_zipIdx, jobs, List.getElem?_mapIdx, hc]
  simp

/-! ## The session at its start -/

theorem getElem?_stages_start (h : s.Lays clauses r brought) (hc : clauses[j]? = some c) :
    (s.start clauses).stages[s.stages.size + j]? =
      some (Job.stage ⟨s.commandOf c, s.callOf c, s.streamsAt r (brought 0) j⟩ s.runs j false) := by
  rw [Nat.add_comm, stages_start_of_job, h.getElem?_jobsOf hc, h.any_background]
  rfl

theorem seats_start (h : s.Lays clauses r brought) (hc : clauses[j]? = some c) :
    (s.start clauses).seats (s.stages.size + j) = some ⟨s.runs, j, c.name, false⟩ := by
  rw [Nat.add_comm, seats_start_of_job (h.getElem?_jobsOf hc), h.any_background]
  exact congrArg (fun name => some (⟨s.runs, j, name, false⟩ : Seat))
    (name_of_lookup (h.stands j c hc).found)

theorem files_start (h : s.Lays clauses r brought) : (s.start clauses).files = s.files := by
  simp only [start, List.isEmpty_eq_false_iff.2 h.nonempty, Bool.false_eq_true, if_false]
  exact congrArg Prod.snd h.wire_eq

theorem pipe_start (h : s.Lays clauses r brought) (hj : j + 1 < r.count) :
    (s.start clauses).pipe (s.pipes.size + j) = ⟨[], true, true⟩ := by
  have hjob : ∀ i < r.count, ∃ job ∈ (s.jobsOf clauses).map Prod.snd, job.streams = s.streamsAt r (brought 0) i := by
    intro i hi
    obtain ⟨c, hc⟩ := h.getElem? hi
    exact ⟨_, List.mem_map.2 ⟨_, List.mem_of_getElem? (h.getElem?_jobsOf hc), rfl⟩, rfl⟩
  have hread : ((s.jobsOf clauses).map Prod.snd).any (fun job => job.streams.input == .pipe (s.pipes.size + j)) = true := by
    obtain ⟨job, hmem, hstreams⟩ := hjob (j + 1) hj
    refine List.any_eq_true.2 ⟨job, hmem, ?_⟩
    rw [hstreams]
    exact beq_self_eq_true _
  have hwrite : ((s.jobsOf clauses).map Prod.snd).any (fun job =>
      job.streams.output == .pipe (s.pipes.size + j)) = true := by
    obtain ⟨job, hmem, hstreams⟩ := hjob j (by omega)
    refine List.any_eq_true.2 ⟨job, hmem, ?_⟩
    rw [hstreams, streamsAt, output_of_lt s r.count hj]
    exact beq_self_eq_true _
  rw [pipe_start_eq (by rwa [← h.count]), pipeFor, hread, hwrite]

theorem feeds_start (h : s.Lays clauses r brought) : Feeds s (s.start clauses) (brought 0) r.supply := by
  obtain ⟨c, hc⟩ : ∃ c, clauses[0]? = some c := h.getElem? (h.count ▸ List.length_pos_iff.2 h.nonempty)
  have hoffers := h.offers c hc
  cases hsupply : r.supply with
  | console =>
    rw [hsupply] at hoffers
    exact (congrArg Console.unread (s.console_start clauses)).trans hoffers.2
  | file id held =>
    rw [hsupply] at hoffers
    obtain ⟨-, -, hdata, rfl⟩ := hoffers
    exact ⟨congrArg Console.unread (s.console_start clauses), h.files_start ▸ hdata, List.suffix_refl _⟩

/-- **A chain of stages begins well.** -/
theorem flow_start (h : s.Lays clauses r brought) (hended : ∀ id, s.hasEnded id = true) : ∃ owed fuel,
    Flow s r (brought 0) owed fuel (s.start clauses) := by
  have hconsole := s.console_start clauses
  have hcap : (s.start clauses).pipeCapacity = s.pipeCapacity := by
    simp only [start, List.isEmpty_eq_false_iff.2 h.nonempty, Bool.false_eq_true, if_false]
  have hfuel : ∀ j, ∃ n, ∀ c, clauses[j]? = some c → ((s.commandOf c).execute (s.callOf c)).Ends s.files n
      (some (brought j)) (brought (j + 1)) (Program.Finished (r.leaves j)) := by
    intro j
    cases hc : clauses[j]? with
    | none => exact ⟨0, fun c hc => by cases hc⟩
    | some c =>
      obtain ⟨n, hn⟩ := (h.stands j c hc).ends
      refine ⟨n, fun c' hc' => ?_⟩
      cases hc'
      exact hn
  choose fuel hfuel using hfuel
  have hholds : ∀ j < r.count, (s.start clauses).holds (s.stages.size + j) = true := by
    intro j hj
    obtain ⟨c, hc⟩ := h.getElem? hj
    rw [holds, h.getElem?_stages_start hc]
    rfl
  refine ⟨fun j => if j = 0 then [] else brought j, fun j => fuel j + 1, ?_⟩
  refine { size := ?_, wires := ?_, capacity := hcap, files := h.files_start, earlier := ?_, feeds := h.feeds_start,
           source := rfl, sink := ?_, stage := ?_, ends := ?_ }
  · rw [size_stages_start, h.length_jobsOf]
  · rw [size_pipes_start, h.count]
  · intro id hid
    rw [hasEnded_eq, faces_start_of_lt hid, ← hasEnded_eq]
    exact hended id
  · obtain ⟨n, hn⟩ : ∃ n, r.count = n + 1 :=
      Nat.exists_eq_succ_of_ne_zero (by rw [h.count]; exact mt List.length_eq_zero_iff.1 h.nonempty)
    rw [h.final, hn, held_last rfl, hconsole, if_neg (Nat.succ_ne_zero n)]
  · intro j hj
    obtain ⟨c, hc⟩ := h.getElem? hj
    refine ⟨_, h.getElem?_stages_start hc, rfl, rfl, (fun h => by cases h), fuel j, rfl, ?_⟩
    have hrest : s.held r.count (brought 0) (s.start clauses) j ++ (if j = 0 then [] else brought j) = brought j := by
      cases j with
      | zero => rw [held, if_pos rfl, List.append_nil]
      | succ i => rw [held_succ hj, h.pipe_start hj, if_neg (Nat.succ_ne_zero i), List.nil_append]
    rw [hrest, if_neg (Nat.succ_ne_zero j)]
    exact hfuel j c hc
  · intro j hj
    rw [h.pipe_start hj, hholds (j + 1) hj, hholds j (by omega)]
    exact ⟨rfl, rfl⟩

end Lays
end Session
end LineShell
