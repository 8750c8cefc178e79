import LineShell.Proofs.Wiring.Refusals
/-!
# Mending — stages that run are not touched by those that do not

A stage is prepared from its own clause, its place and the files: nothing of it depends on whether the others run.
`Mends` says of other clauses and another registry that they let the stages that run stand as they are, and may put
anything in the place of the others that leaves the files to them; then the same jobs are done (`Mends.mem_jobsOf`), and
every run can be mended so that all of its stages run (`exists_mends`).  In a run that finds other files the same job
is done but for the numbers of its redirect files (`alike_of_jobs`).
-/
namespace LineShell
namespace Session

variable {s s' : Session} {clauses clauses' : List Clause} {registry : Registry} {clause : Clause} {i : Nat}
  {job job' : Job}

theorem mem_jobsOf_iff : (i, job) ∈ s.jobsOf clauses ↔ ∃ clause streams, clauses[i]? = some clause ∧
    (s.streamsOf clauses)[i]? = some streams ∧ s.prepare clause streams = .ok job := by
  constructor
  · intro h
    obtain ⟨k, hk⟩ := List.mem_iff_getElem?.1 h
    exact clause_of_job hk
  · rintro ⟨clause, streams, hc, hs, hp⟩
    rw [mem_jobsOf, getElem?_preparedOf hc hs, hp]

/-- **Other clauses and another registry** for a run, in which its stages that run stand as they are. -/
structure Mends (s : Session) (clauses : List Clause) (registry : Registry) (clauses' : List Clause) : Prop where
  length : clauses'.length = clauses.length
  background : clauses'.any Clause.background = clauses.any Clause.background
  /-- A clause that was given its streams names the same files, and one that was not names none to write to. -/
  redirects : ∀ (i : Nat) (c c' : Clause), clauses[i]? = some c → clauses'[i]? = some c' →
    (c'.input = c.input ∧ c'.output = c.output) ∨
      (c'.output = "" ∧ ∃ text, (s.streamsOf clauses)[i]? = some (.error text))
  stands : ∀ (i : Nat) (job : Job) (c : Clause), (i, job) ∈ s.jobsOf clauses → clauses[i]? = some c → clauses'[i]? = some c ∧
    registry.isExit c.name = false ∧ registry.lookup c.name = s.registry.lookup c.name

namespace Mends

variable (h : s.Mends clauses registry clauses')
include h

theorem planFor_eq : ({ s with registry } : Session).planFor clauses' = s.planFor clauses := by
  simp only [planFor, h.background, h.length]

theorem filesBefore_eq : ∀ i, (s.planFor clauses).filesBefore clauses' s.files i =
    (s.planFor clauses).filesBefore clauses s.files i := by
  refine Wiring.filesBefore_congr h.length fun i c c' hc hc' left hleft => ?_
  rcases h.redirects i c c' hc hc' with ⟨hin, hout⟩ | ⟨hout, text, hbarred⟩
  · rw [Wiring.openStreams_congr hin hout]
  · rw [getElem?_streamsOf hc, Option.some.injEq, ← hleft] at hbarred
    rw [Wiring.openStreams_snd_of_output hout, Wiring.openStreams_snd_of_error hbarred]

theorem getElem?_streamsOf (hc : clauses'[i]? = some clause) :
    (({ s with registry } : Session).streamsOf clauses')[i]? = some (Wiring.openStreams (s.planFor clauses) i clause
      ((s.planFor clauses).filesBefore clauses s.files i)).1 := by
  rw [Session.getElem?_streamsOf hc, h.planFor_eq, h.filesBefore_eq]

/-- **The jobs of a run are done in every mended run**, with the same streams. -/
theorem mem_jobsOf (hjob : (i, job) ∈ s.jobsOf clauses) :
    (i, job) ∈ ({ s with registry } : Session).jobsOf clauses' := by
  obtain ⟨clause, streams, hc, hstreams, hp⟩ := mem_jobsOf_iff.1 hjob
  obtain ⟨hc', hexit, hlookup⟩ := h.stands i job clause hjob hc
  refine mem_jobsOf_iff.2 ⟨clause, streams, hc', ?_, ?_⟩
  · rw [h.getElem?_streamsOf hc', ← Session.getElem?_streamsOf hc, hstreams]
  · have hexit' : s.registry.isExit clause.name = false := (prepare_eq_ok hp).1
    rw [← hp]
    simp only [prepare, hexit, hexit', hlookup]

theorem files_eq : (({ s with registry } : Session).start clauses').files = (s.start clauses).files := by
  rw [files_start, files_start, h.planFor_eq, h.length, h.filesBefore_eq]

end Mends

/-! ## A run in which all stages run -/

def mendClause (clause : Clause) : Except String Streams → Clause
  | .ok _ => clause
  | .error _ => { clause with input := "", output := "" }

def mendedClauses (s : Session) (clauses : List Clause) : List Clause :=
  List.zipWith mendClause clauses (s.streamsOf clauses)

def mendedRegistry (s : Session) (clauses : List Clause) : Registry where
  commands := s.registry.commands ++ clauses.map (fun clause => ⟨clause.name, "", fun _ => .done .done⟩)

theorem getElem?_mendedClauses (hc : clauses[i]? = some clause) {streams : Except String Streams}
    (hs : (s.streamsOf clauses)[i]? = some streams) :
    (s.mendedClauses clauses)[i]? = some (mendClause clause streams) := by
  rw [mendedClauses, List.getElem?_zipWith, hc, hs]

theorem any_background_zipWith : ∀ (clauses : List Clause) (streams : List (Except String Streams)),
    streams.length = clauses.length →
    (List.zipWith mendClause clauses streams).any Clause.background = clauses.any Clause.background
  | [], _, _ => rfl
  | _ :: _, [], h => nomatch h
  | clause :: clauses, st :: streams, h => by
    have hmend : (mendClause clause st).background = clause.background := by cases st <;> rfl
    rw [List.zipWith_cons_cons, List.any_cons, List.any_cons, hmend,
      any_background_zipWith clauses streams (Nat.succ.inj h)]

theorem lookup_mendedRegistry {name : String} {command : Command} (h : s.registry.lookup name = some command) :
    (s.mendedRegistry clauses).lookup name = some command := by
  rw [Registry.lookup, mendedRegistry, List.find?_append, show s.registry.commands.find? _ = some command from h]
  rfl

theorem lookup_mendedRegistry_ne_none (hc : clause ∈ clauses) : (s.mendedRegistry clauses).lookup clause.name ≠ none := by
  intro h
  rw [Registry.lookup, List.find?_eq_none] at h
  have hmem : (⟨clause.name, "", fun _ => .done .done⟩ : Command) ∈ (s.mendedRegistry clauses).commands :=
    List.mem_append_right _ (List.mem_map.2 ⟨clause, hc, rfl⟩)
  exact h _ hmem (beq_self_eq_true clause.name)

theorem mends_mended (s : Session) (clauses : List Clause) :
    s.Mends clauses (s.mendedRegistry clauses) (s.mendedClauses clauses) where
  length := by
    rw [mendedClauses, List.length_zipWith, length_streamsOf, Nat.min_self]
  background := any_background_zipWith clauses _ (length_streamsOf s clauses)
  redirects := by
    intro i c c' hc hc'
    have hs := Session.getElem?_streamsOf (s := s) hc
    obtain rfl := Option.some.inj (hc'.symm.trans (getElem?_mendedClauses hc hs))
    generalize (Wiring.openStreams _ i c _).1 = streams at hs
    cases streams with
    | ok streams => exact .inl ⟨rfl, rfl⟩
    | error text => exact .inr ⟨rfl, text, hs⟩
  stands := by
    intro i job c hjob hc
    obtain ⟨clause, streams, hc', hs, hp⟩ := mem_jobsOf_iff.1 hjob
    obtain rfl : c = clause := Option.some.inj (hc.symm.trans hc')
    obtain ⟨-, hlookup, -, rfl, -⟩ := prepare_eq_ok hp
    refine ⟨getElem?_mendedClauses hc hs, rfl, ?_⟩
    rw [hlookup, lookup_mendedRegistry hlookup]

theorem streamsOf_mended (hc : clauses[i]? = some clause) : ∃ clause' streams,
    (s.mendedClauses clauses)[i]? = some clause' ∧ clause'.name = clause.name ∧
    (({ s with registry := s.mendedRegistry clauses } : Session).streamsOf (s.mendedClauses clauses))[i]? =
      some (.ok streams) := by
  have hs := Session.getElem?_streamsOf (s := s) hc
  cases hopened : (Wiring.openStreams (s.planFor clauses) i clause
      ((s.planFor clauses).filesBefore clauses s.files i)).1 with
  | ok streams =>
    have hc' := getElem?_mendedClauses hc (hs.trans (congrArg some hopened))
    exact ⟨_, streams, hc', rfl,
      ((mends_mended s clauses).getElem?_streamsOf hc').trans (congrArg some hopened)⟩
  | error text =>
    have hc' := getElem?_mendedClauses hc (hs.trans (congrArg some hopened))
    refine ⟨_, ⟨(s.planFor clauses).input i, (s.planFor clauses).output i⟩, hc', rfl, ?_⟩
    rw [(mends_mended s clauses).getElem?_streamsOf hc', Option.some.injEq, Wiring.openStreams_eq_ok_iff]
    exact ⟨Wiring.Plan.reads_input rfl, Wiring.Plan.writes_output rfl⟩

/-- **Every run can be mended** so that all of its stages run. -/
theorem exists_mends (s : Session) (clauses : List Clause) : ∃ registry clauses', s.Mends clauses registry clauses' ∧
    ∀ i < clauses.length, ∃ job, (i, job) ∈ ({ s with registry } : Session).jobsOf clauses' := by
  refine ⟨_, _, mends_mended s clauses, fun i hi => ?_⟩
  obtain ⟨clause', streams, hc', hname, hs'⟩ := streamsOf_mended (s := s) (List.getElem?_eq_getElem hi)
  have hknown : (s.mendedRegistry clauses).lookup clause'.name ≠ none := by
    rw [hname]
    exact lookup_mendedRegistry_ne_none (List.getElem_mem hi)
  obtain ⟨command, hlookup⟩ := Option.ne_none_iff_exists'.1 hknown
  have hexit : (s.mendedRegistry clauses).isExit clause'.name = false := rfl
  refine ⟨⟨command, ⟨s.path, clause'.arguments, clause'.options⟩, streams⟩, mem_jobsOf_iff.2 ⟨clause', _, hc', hs', ?_⟩⟩
  simp only [prepare, hexit, hlookup, Bool.false_eq_true, if_false]

/-! ## A run that finds other files -/

/-- **The same job in two states of the files**: the same command, called the same way, on streams that are the same but
for the files that the clause names. -/
structure Job.Alike (p : Wiring.Plan) (i : Nat) (clause : Clause) (fs fs' : Files) (job job' : Job) : Prop where
  command : job'.command = job.command
  call : job'.call = job.call
  input : clause.input = "" → job'.streams.input = job.streams.input
  reads : p.Reads i clause fs job.streams.input ∧ p.Reads i clause fs' job'.streams.input
  output : clause.output = "" → job'.streams.output = job.streams.output
  writes : p.Writes i clause fs job.streams.output ∧ p.Writes i clause fs' job'.streams.output

theorem alike_of_jobs (hplan : s'.planFor clauses' = s.planFor clauses) (hc : clauses[i]? = some clause)
    (hc' : clauses'[i]? = some clause) (hlookup : s'.registry.lookup clause.name = s.registry.lookup clause.name)
    (hjob : (i, job) ∈ s.jobsOf clauses) (hjob' : (i, job') ∈ s'.jobsOf clauses') :
    Job.Alike (s.planFor clauses) i clause ((s.planFor clauses).filesBefore clauses s.files i)
      ((s.planFor clauses).filesBefore clauses' s'.files i) job job' := by
  obtain ⟨c, streams, hc₁, hs, hp⟩ := mem_jobsOf_iff.1 hjob
  obtain ⟨c', streams', hc₂, hs', hp'⟩ := mem_jobsOf_iff.1 hjob'
  obtain rfl : c = clause := Option.some.inj (hc₁.symm.trans hc)
  obtain rfl : c' = c := Option.some.inj (hc₂.symm.trans hc')
  obtain ⟨-, hcommand, -, rfl, hcall⟩ := prepare_eq_ok hp
  obtain ⟨-, hcommand', -, rfl, hcall'⟩ := prepare_eq_ok hp'
  obtain ⟨c₁, hc₁', hreads, hwrites⟩ := streamsOf_eq_ok.1 hs
  obtain ⟨c₂, hc₂', hreads', hwrites'⟩ := streamsOf_eq_ok.1 hs'
  obtain rfl : c₁ = c' := Option.some.inj (hc₁'.symm.trans hc)
  obtain rfl : c₂ = c₁ := Option.some.inj (hc₂'.symm.trans hc')
  have hpath : s'.path = s.path := congrArg Wiring.Plan.base hplan
  rw [hplan] at hreads' hwrites'
  refine ⟨?_, ?_, fun hin => ?_, ⟨hreads, hreads'⟩, fun hout => ?_, ⟨hwrites, hwrites'⟩⟩
  · exact Option.some.inj (hcommand'.symm.trans (hlookup.trans hcommand))
  · rw [hcall, hcall', hpath]
  · exact (hreads'.unique (Wiring.Plan.reads_input hin)).trans ((Wiring.Plan.reads_input hin).unique hreads)
  · exact (hwrites'.unique (Wiring.Plan.writes_output hout)).trans ((Wiring.Plan.writes_output hout).unique hwrites)

end Session
end LineShell
