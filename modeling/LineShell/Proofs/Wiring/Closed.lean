import LineShell.Proofs.Wiring.Owners
/-!
# Closed — ends of pipes that nobody holds

No move opens an end of a pipe, and only a stage that holds the writing end puts anything into one
(`channeled_of_step?`).  So along every row of moves a closed end stays closed, and a pipe that is empty and whose writing
end nobody holds stays empty (`isOpen_of_play`, `held_of_play`).  A stage that reads such a pipe comes to its end at once,
and one that writes to a pipe that cannot be read is told so (`answer?_read_dry`, `answer?_write_closed`).
-/
namespace LineShell
namespace Session

variable {s t u : Session} {m : Move} {moves : List Move} {e : PipeEnd} {id most n : Nat} {stage : Stage}

/-- **What a move does to a pipe**: its ends stay as they are or are closed, and what is held in it, if nothing was, stays
nothing unless somebody holds its writing end. -/
structure Channeled (s t : Session) : Prop where
  isOpen : ∀ (e : PipeEnd) (n : Nat), e.isOpen (s.pipe n) = false → e.isOpen (t.pipe n) = false
  held : ∀ n, (s.pipe n).held = [] → (t.pipe n).held = [] ∨ ∃ id, s.Owns .writing id n

theorem channeled_of_pipes (h : t.pipes = s.pipes) : Channeled s t := by
  have hpipe : ∀ n, t.pipe n = s.pipe n := fun n => by rw [pipe, pipe, h]
  constructor
  · intro e n hclosed
    rwa [hpipe]
  · intro n hheld
    rw [hpipe]
    exact .inl hheld

theorem Channeled.trans (h : Channeled s t) (h' : Channeled t u) (hw : t.wires = s.wires) : Channeled s u where
  isOpen := fun e n hclosed => h'.isOpen e n (h.isOpen e n hclosed)
  held := by
    intro n hempty
    rcases h.held n hempty with hempty | howner
    · rcases h'.held n hempty with hempty | ⟨id, howns⟩
      · exact .inl hempty
      · exact .inr ⟨id, (owns_congr hw).1 howns⟩
    · exact .inr howner

theorem channeled_modifyPipe {f : Pipe → Pipe} (n : Nat)
    (hends : ∀ e p, PipeEnd.isOpen p e = false → PipeEnd.isOpen (f p) e = false)
    (hheld : ∀ p, p.held = [] → (f p).held = [] ∨ ∃ id, s.Owns .writing id n) : Channeled s (s.modifyPipe n f) := by
  constructor
  · intro e i hclosed
    rcases pipe_modifyPipe_cases s n f i with h | ⟨-, h⟩
    · rwa [h]
    · rw [h]
      exact hends e _ hclosed
  · intro i hempty
    rcases pipe_modifyPipe_cases s n f i with h | ⟨rfl, h⟩
    · rw [h]
      exact .inl hempty
    · rw [h]
      exact hheld _ hempty

theorem channeled_readInput {limit : Nat} {streams : Streams} {reply : Except Fault Bytes}
    (h : s.readInput? id streams limit most = some (reply, t)) : Channeled s t := by
  unfold readInput? at h
  split at h
  · cases h
    exact channeled_of_pipes rfl
  · cases h
    exact channeled_of_pipes rfl
  · split at h <;> cases h <;> exact channeled_of_pipes rfl
  · dsimp only at h
    split at h
    · cases h
      exact channeled_of_pipes rfl
    split at h
    · split at h <;> cases h
      exact channeled_of_pipes rfl
    · cases h
      refine channeled_modifyPipe _ (fun e p hclosed => ?_) (fun p hempty => .inl ?_)
      · cases e <;> exact hclosed
      · dsimp only
        rw [hempty, List.drop_nil]

theorem channeled_writeOutput {data : Bytes} {reply : Except Fault Nat} (hs : s.stages[id]? = some stage)
    (h : s.writeOutput? id stage.streams data most = some (reply, t)) : Channeled s t := by
  unfold writeOutput? at h
  split at h
  · cases h
    exact channeled_of_pipes rfl
  · split at h <;> cases h <;> exact channeled_of_pipes rfl
  · rename_i n hout
    dsimp only at h
    split at h
    · cases h
      exact channeled_of_pipes rfl
    split at h
    · cases h
    · cases h
      have howner : s.Owns .writing id n := ⟨stage, hs, PipeEnd.pipe?_writing.2 hout⟩
      refine channeled_modifyPipe _ (fun e p hclosed => ?_) (fun p _ => .inr ⟨id, howner⟩)
      cases e <;> exact hclosed

theorem channeled_closeEnds (s : Session) (streams : Streams) : Channeled s (s.closeEnds streams) := by
  have hreading : ∀ (u : Session) (n : Nat), Channeled u (u.modifyPipe n (fun p => { p with readable := false })) :=
    fun u n => channeled_modifyPipe n (fun e p hclosed => by cases e <;> first | rfl | exact hclosed) fun _ h => .inl h
  have hwriting : ∀ (u : Session) (n : Nat), Channeled u (u.modifyPipe n (fun p => { p with writable := false })) :=
    fun u n => channeled_modifyPipe n (fun e p hclosed => by cases e <;> first | rfl | exact hclosed) fun _ h => .inl h
  unfold closeEnds
  cases streams.input with
  | pipe n =>
    cases streams.output with
    | pipe k => exact (hreading s n).trans (hwriting _ k) rfl
    | console | file => exact hreading s n
  | console | exhausted | file =>
    cases streams.output with
    | pipe k => exact hwriting s k
    | console | file => exact channeled_of_pipes rfl

theorem pipes_trigger (s : Session) : s.trigger.2.pipes = s.pipes := by
  unfold trigger
  split
  · rfl
  · split
    · exact (requestStops_eq _ s).2.2.2.1
    · rfl

theorem channeled_answer {q : Request} {reply : q.Reply} (hs : s.stages[id]? = some stage)
    (h : s.answer? id stage most q = some (reply, t)) : Channeled s t := by
  cases q with
  | read => exact channeled_readInput h
  | write => exact channeled_writeOutput hs h
  | interrupt =>
    obtain rfl : s.trigger.2 = t := congrArg Prod.snd (Option.some.inj h)
    exact channeled_of_pipes (pipes_trigger s)
  | poll | moveTo | flush | ownPath | files | resolve | connect | note | isArmed | streams =>
    cases h
    exact channeled_of_pipes rfl

theorem channeled_advance (h : s.advance? id most = some t) : Channeled s t := by
  obtain ⟨stage, hs, h⟩ := advances_of_advance? h
  have hset : ∀ {u : Session} {phase : Phase}, Channeled s u → Channeled s (u.setPhase id phase) :=
    fun hu => ⟨hu.isOpen, hu.held⟩
  cases h with
  | done => exact hset (channeled_closeEnds s _)
  | entered | ready | shown => exact channeled_of_pipes rfl
  | answered _ ha => exact hset (channeled_answer hs ha)
  | sent _ h =>
    obtain ⟨current, rfl⟩ := send?_eq h
    exact channeled_of_pipes rfl

theorem pipes_launch (s : Session) (run : Run) (id : Nat) (waiting : List Nat) :
    (s.launch run id waiting).pipes = s.pipes := by
  unfold launch
  split
  · rfl
  · next stage hs => cases stage.phase <;> rfl

/-- **Every move** leaves closed ends closed, and pipes empty that nobody writes to. -/
theorem channeled_of_step? (h : s.step? m = some t) : Channeled s t := by
  cases m with
  | drive =>
    obtain ⟨run, id, waiting, rfl⟩ | ⟨current, rfl⟩ | ⟨run, detach, rfl⟩ := drive?_cases h
    · exact channeled_of_pipes (pipes_launch s run id waiting)
    · exact channeled_of_pipes rfl
    · exact channeled_of_pipes rfl
  | advance id most => exact channeled_advance h
  | vanish id =>
    have h : s.vanish? id = some t := h
    unfold vanish? at h
    split at h <;> cases h
    exact channeled_of_pipes rfl
  | interrupt =>
    cases h
    exact channeled_of_pipes (pipes_trigger s)

theorem isOpen_of_play (h : s.play moves = some t) (hclosed : e.isOpen (s.pipe n) = false) :
    e.isOpen (t.pipe n) = false :=
  play_keeps (P := fun t => e.isOpen (t.pipe n) = false) (fun _ _ _ hu hm => (channeled_of_step? hm).isOpen e n hu)
    hclosed h

theorem held_of_play (h : s.play moves = some t) (hempty : (s.pipe n).held = [])
    (hnobody : ∀ id, ¬ s.Owns .writing id n) : (t.pipe n).held = [] := by
  refine (play_keeps (P := fun t => (t.pipe n).held = [] ∧ ∀ id, ¬ t.Owns .writing id n) ?_ ⟨hempty, hnobody⟩ h).1
  rintro u m v ⟨hheld, hnobody⟩ hm
  refine ⟨((channeled_of_step? hm).held n hheld).resolve_right ?_, fun id howns => ?_⟩
  · rintro ⟨id, howns⟩
    exact hnobody id howns
  · exact hnobody id ((owns_congr (tied_of_step? hm).wires).1 howns)

theorem answer?_read_dry (hin : stage.streams.input = .pipe n) (hempty : (s.pipe n).held = [])
    (hclosed : PipeEnd.writing.isOpen (s.pipe n) = false) (id most limit : Nat) :
    s.answer? id stage most (.read limit) = some (.ok [], s) := by
  have hwritable : (s.pipe n).writable = false := hclosed
  have hread : s.readInput? id stage.streams limit most = some (.ok [], s) := by
    unfold readInput?
    rw [hin]
    by_cases hlimit : limit = 0
    · simp [hlimit]
    · simp [hlimit, hempty, hwritable]
  exact hread

theorem answer?_write_closed (hout : stage.streams.output = .pipe n)
    (hclosed : PipeEnd.reading.isOpen (s.pipe n) = false) (id most : Nat) (data : Bytes) :
    s.answer? id stage most (.write data) = some (.error (.system .brokenPipe), s) := by
  have hreadable : (s.pipe n).readable = false := hclosed
  have hwrite : s.writeOutput? id stage.streams data most = some (.error (.system .brokenPipe), s) := by
    unfold writeOutput?
    rw [hout]
    simp [hreadable]
  exact hwrite

end Session
end LineShell
