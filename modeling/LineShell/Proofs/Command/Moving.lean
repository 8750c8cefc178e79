import LineShell.Proofs.Command.Heeding
import LineShell.Proofs.Flow.Ends
/-!
# Moving — what came, what went, and what is left between

Whoever is at the other end of a source may bring any bytes in any pieces, cut reads short and fail, and whoever takes
what is written may accept any part of it, cut writes short, accept nothing and fail; a request to stop may be pending
at every checked point.  The exchanges of a copy are described by one relation (`Copies`), built from those of one read
(`Source.Takes`) and of the writes of one chunk (`Sink.Puts`), and so are those of reading to the end (`Gathers`).
Bytes are neither lost nor made up on the way: what went is a front of what came, and the rest is the one chunk that was
being moved when copying ended (`conserves_of_copy`).
-/
namespace LineShell

/-! ## Exchanges that move bytes -/

inductive Source.Reads (limit : Nat) (reply : Except Fault Bytes) : Source → Exchange → Prop
  | input : Reads limit reply .input ⟨.read limit, reply⟩
  | file (id : NodeId) (offset : Nat) : Reads limit reply (.file id offset) ⟨.files (.readAt id offset limit), reply⟩

/-- One write to a sink, and what it was answered with.  A sink in memory is written without asking. -/
inductive Sink.Writes (data : Bytes) (reply : Except Fault Nat) : Sink → Exchange → Prop
  | output : Writes data reply .output ⟨.write data, reply⟩
  | file (id : NodeId) (offset : Nat) : Writes data reply (.file id offset) ⟨.files (.writeAt id offset data), reply⟩

/-- One write to a sink that takes nothing of what is left: it fails, or accepts no byte. -/
def Sink.Refuses (sink : Sink) (left : Bytes) (f : Fault) (e : Exchange) : Prop :=
  sink.Writes left (.error f) e ∨ sink.Writes left (.ok 0) e ∧ f = .writeZero

def Sink.held : Sink → Bytes
  | memory held => held.bytes
  | _ => []

def Sink.Asks : Sink → Prop
  | memory _ => False
  | _ => True

namespace Exchange

def came : Exchange → Bytes
  | ⟨.read _, .ok data⟩ => data
  | ⟨.files (.readAt _ _ _), .ok data⟩ => data
  | _ => []

def went : Exchange → Bytes
  | ⟨.write data, .ok n⟩ => data.take n
  | ⟨.files (.writeAt _ _ data), .ok n⟩ => data.take n
  | _ => []

def BringsNothing (e : Exchange) : Prop := ∃ source : Source, ∃ limit, source.Reads limit (.ok []) e

def Fits (e : Exchange) : Prop := ∀ (source : Source) limit data, source.Reads limit (.ok data) e → data.length ≤ limit

end Exchange

/-- **One read of a source**, tried again as long as it is cut short. -/
inductive Source.Takes (source : Source) (limit : Nat) : List Exchange → Except Fault Bytes → Prop
  | again {e : Exchange} {es : List Exchange} {reply : Except Fault Bytes}
      (h : source.Reads limit (.error .interrupted) e) (hrest : source.Takes limit es reply) :
      source.Takes limit (e :: es) reply
  | once {e : Exchange} {reply : Except Fault Bytes} (h : source.Reads limit reply e)
      (hreply : reply ≠ .error .interrupted) : source.Takes limit [e] reply

/-- **The writes of some data to a sink**, until all of it is accepted or one of them fails. -/
inductive Sink.Puts : Sink → Bytes → List Exchange → Except Fault Sink → Prop
  | finished (sink : Sink) : sink.Puts [] [] (.ok sink)
  | held {held : Transcript} {data : Bytes} (hne : data ≠ []) :
      Puts (.memory held) data [] (.ok (.memory (held.write data)))
  | again {sink : Sink} {data : Bytes} {e : Exchange} {es : List Exchange} {result : Except Fault Sink} (hne : data ≠ [])
      (h : sink.Writes data (.error .interrupted) e) (hrest : sink.Puts data es result) : sink.Puts data (e :: es) result
  | part {sink : Sink} {data : Bytes} {n : Nat} {e : Exchange} {es : List Exchange} {result : Except Fault Sink}
      (hne : data ≠ []) (h : sink.Writes data (.ok (n + 1)) e)
      (hrest : Puts (sink.advance (n + 1)) (data.drop (n + 1)) es result) : sink.Puts data (e :: es) result
  | zero {sink : Sink} {data : Bytes} {e : Exchange} (hne : data ≠ []) (h : sink.Writes data (.ok 0) e) :
      sink.Puts data [e] (.error .writeZero)
  | failed {sink : Sink} {data : Bytes} {f : Fault} {e : Exchange} (hne : data ≠ []) (h : sink.Writes data (.error f) e)
      (hf : f ≠ .interrupted) : sink.Puts data [e] (.error f)

/-- **The exchanges of a copy** that has moved some bytes before. -/
inductive Copies : Source → Sink → (moved : Nat) → List Exchange → Except Failure (Nat × Sink) → Prop
  | stopped {source : Source} {sink : Sink} {moved : Nat} : Copies source sink moved [⟨.poll, true⟩] (.error .stopped)
  | unread {source : Source} {sink : Sink} {moved : Nat} {takes : List Exchange} {f : Fault}
      (h : source.Takes chunkSize takes (.error f)) :
      Copies source sink moved (⟨.poll, false⟩ :: takes) (.error (.fault f))
  | ended {source : Source} {sink : Sink} {moved : Nat} {takes : List Exchange}
      (h : source.Takes chunkSize takes (.ok [])) :
      Copies source sink moved (⟨.poll, false⟩ :: takes) (.ok (moved, sink))
  | halted {source : Source} {sink : Sink} {moved : Nat} {takes : List Exchange} {data : Bytes}
      (h : source.Takes chunkSize takes (.ok data)) (hne : data ≠ []) :
      Copies source sink moved (⟨.poll, false⟩ :: takes ++ [⟨.poll, true⟩]) (.error .stopped)
  | unwritten {source : Source} {sink : Sink} {moved : Nat} {takes puts : List Exchange} {data : Bytes} {f : Fault}
      (h : source.Takes chunkSize takes (.ok data)) (hne : data ≠ []) (hput : sink.Puts data puts (.error f)) :
      Copies source sink moved (⟨.poll, false⟩ :: takes ++ ⟨.poll, false⟩ :: puts) (.error (.fault f))
  | round {source : Source} {sink sink' : Sink} {moved : Nat} {takes puts rest : List Exchange} {data : Bytes}
      {result : Except Failure (Nat × Sink)} (h : source.Takes chunkSize takes (.ok data)) (hne : data ≠ [])
      (hput : sink.Puts data puts (.ok sink'))
      (hrest : Copies (source.advance data.length) sink' (moved + data.length) rest result) :
      Copies source sink moved (⟨.poll, false⟩ :: takes ++ ⟨.poll, false⟩ :: puts ++ rest) result

/-- **The exchanges of reading the input to its end** behind what was read before. -/
inductive Gathers : Transcript → List Exchange → Except Failure Bytes → Prop
  | stopped {held : Transcript} : Gathers held [⟨.poll, true⟩] (.error .stopped)
  | unread {held : Transcript} {takes : List Exchange} {f : Fault} (h : Source.input.Takes chunkSize takes (.error f)) :
      Gathers held (⟨.poll, false⟩ :: takes) (.error (.fault f))
  | ended {held : Transcript} {takes : List Exchange} (h : Source.input.Takes chunkSize takes (.ok [])) :
      Gathers held (⟨.poll, false⟩ :: takes) (.ok held.bytes)
  | round {held : Transcript} {takes rest : List Exchange} {data : Bytes} {result : Except Failure Bytes}
      (h : Source.input.Takes chunkSize takes (.ok data)) (hne : data ≠ [])
      (hrest : Gathers (held.write data) rest result) :
      Gathers held (⟨.poll, false⟩ :: takes ++ rest) result

/-! ## The loops have these exchanges -/

namespace Program

variable {α : Type} {a : α} {es : List Exchange}

theorem Proceeds.ask_cases {q : Request} {next : q.Reply → Program α} (h : (Program.ask q next).Proceeds es (done a)) :
    ∃ reply rest, es = ⟨q, reply⟩ :: rest ∧ (next reply).Proceeds rest (done a) := by
  cases h with
  | ask reply h => exact ⟨reply, _, rfl, h⟩

theorem Proceeds.eq_of_done {b : α} (h : (done a).Proceeds es (done b)) : es = [] ∧ b = a := by
  obtain ⟨hnil, hdone⟩ := h.of_done
  cases hdone
  exact ⟨hnil, rfl⟩

theorem Proceeds.enter_of_loop {l : Loop} {state : l.State} {next : Except Failure l.Value → Program α}
    (h : (loop l state next).Proceeds es (done a)) : (Program.enter l state next).Proceeds es (done a) := by
  cases h with
  | enter h => exact h

def afterRead (source : Source) (limit : Nat) (next : Except Failure Loop.take.Value → Program α) :
    Except Fault Bytes → Program α
  | .ok data => next (.ok (data, source.advance data.length))
  | .error .interrupted => loop .take (source, limit) next
  | .error f => next (.error (.fault f))

def afterWrite (sink : Sink) (data : Bytes) (next : Except Failure Loop.put.Value → Program α) :
    Except Fault Nat → Program α
  | .ok 0 => next (.error (.fault .writeZero))
  | .ok (n + 1) => loop .put (sink.advance (n + 1), data.drop (n + 1)) next
  | .error .interrupted => loop .put (sink, data) next
  | .error f => next (.error (.fault f))

theorem enter_take_input (limit : Nat) (next : Except Failure Loop.take.Value → Program α) :
    Program.enter .take (.input, limit) next = Program.ask (.read limit) (afterRead .input limit next) := by
  refine congrArg (Program.ask (.read limit)) (funext fun reply => ?_)
  match reply with
  | .ok data => rfl
  | .error f => cases f <;> rfl

theorem enter_take_file (id : NodeId) (offset limit : Nat) (next : Except Failure Loop.take.Value → Program α) :
    Program.enter .take (.file id offset, limit) next =
      Program.ask (.files (.readAt id offset limit)) (afterRead (.file id offset) limit next) := by
  refine congrArg (Program.ask (.files (.readAt id offset limit))) (funext fun reply => ?_)
  match reply with
  | .ok data => rfl
  | .error f => cases f <;> rfl

theorem enter_put_output {data : Bytes} (hne : data ≠ []) (next : Except Failure Loop.put.Value → Program α) :
    Program.enter .put (.output, data) next = Program.ask (.write data) (afterWrite .output data next) := by
  obtain ⟨b, data, rfl⟩ := List.exists_cons_of_ne_nil hne
  refine congrArg (Program.ask (.write (b :: data))) (funext fun reply => ?_)
  match reply with
  | .ok 0 => rfl
  | .ok (n + 1) => rfl
  | .error f => cases f <;> rfl

theorem enter_put_file {data : Bytes} (hne : data ≠ []) (id : NodeId) (offset : Nat)
    (next : Except Failure Loop.put.Value → Program α) : Program.enter .put (.file id offset, data) next =
      Program.ask (.files (.writeAt id offset data)) (afterWrite (.file id offset) data next) := by
  obtain ⟨b, data, rfl⟩ := List.exists_cons_of_ne_nil hne
  refine congrArg (Program.ask (.files (.writeAt id offset (b :: data)))) (funext fun (reply : Except Fault Nat) => ?_)
  match reply with
  | .ok 0 => rfl
  | .ok (n + 1) => rfl
  | .error f => cases f <;> rfl

theorem Proceeds.take_cases {source : Source} {limit : Nat} {next : Except Failure Loop.take.Value → Program α}
    (h : (loop .take (source, limit) next).Proceeds es (done a)) :
    ∃ e rest reply, es = e :: rest ∧ source.Reads limit reply e ∧
      (afterRead source limit next reply).Proceeds rest (done a) := by
  have henter := h.enter_of_loop
  cases source with
  | input =>
    rw [enter_take_input] at henter
    obtain ⟨reply, rest, rfl, hrest⟩ := henter.ask_cases
    exact ⟨_, rest, reply, rfl, .input, hrest⟩
  | file id offset =>
    rw [enter_take_file] at henter
    obtain ⟨reply, rest, rfl, hrest⟩ := henter.ask_cases
    exact ⟨_, rest, reply, rfl, .file id offset, hrest⟩

theorem Proceeds.put_cases {sink : Sink} {data : Bytes} (hsink : sink.Asks) (hne : data ≠ [])
    {next : Except Failure Loop.put.Value → Program α} (h : (loop .put (sink, data) next).Proceeds es (done a)) :
    ∃ e rest reply, es = e :: rest ∧ sink.Writes data reply e ∧
      (afterWrite sink data next reply).Proceeds rest (done a) := by
  have henter := h.enter_of_loop
  cases sink with
  | output =>
    rw [enter_put_output hne] at henter
    obtain ⟨reply, rest, rfl, hrest⟩ := henter.ask_cases
    exact ⟨_, rest, reply, rfl, .output, hrest⟩
  | file id offset =>
    rw [enter_put_file hne] at henter
    obtain ⟨reply, rest, rfl, hrest⟩ := henter.ask_cases
    exact ⟨_, rest, reply, rfl, .file id offset, hrest⟩
  | memory held => exact hsink.elim

def taken (source : Source) : Except Fault Bytes → Except Failure (Bytes × Source)
  | .ok data => .ok (data, source.advance data.length)
  | .error f => .error (.fault f)

/-- **Every read that a program enters** is tried again as long as it is cut short. -/
theorem takes_of_proceeds {source : Source} {limit : Nat} {next : Except Failure Loop.take.Value → Program α} :
    ∀ {es : List Exchange}, (loop .take (source, limit) next).Proceeds es (done a) →
      ∃ takes rest reply, es = takes ++ rest ∧ source.Takes limit takes reply ∧
        (next (taken source reply)).Proceeds rest (done a)
  | [], h => by
    obtain ⟨_, _, _, hes, -⟩ := h.take_cases
    cases hes
  | e :: es, h => by
    obtain ⟨_, _, reply, ⟨⟩, hread, hrest⟩ := h.take_cases
    match reply with
    | .ok data => exact ⟨[e], es, .ok data, rfl, .once hread nofun, hrest⟩
    | .error f =>
      by_cases hf : f = .interrupted
      · subst hf
        obtain ⟨takes, rest, reply, rfl, htakes, hrest⟩ := takes_of_proceeds hrest
        exact ⟨e :: takes, rest, reply, rfl, .again hread htakes, hrest⟩
      · refine ⟨[e], es, .error f, rfl, .once hread (by simpa using hf), ?_⟩
        cases f <;> first | exact absurd rfl hf | exact hrest

theorem eq_memory_of_not_asks {sink : Sink} (h : ¬ sink.Asks) : ∃ held, sink = .memory held := by
  cases sink with
  | output | file => exact absurd trivial h
  | memory held => exact ⟨held, rfl⟩

/-- **Every chunk that a program puts** is written until all of it is accepted or a write fails. -/
theorem puts_of_proceeds {next : Except Failure Loop.put.Value → Program α} :
    ∀ (es : List Exchange) {sink : Sink} {data : Bytes}, (loop .put (sink, data) next).Proceeds es (done a) →
      ∃ puts rest result, es = puts ++ rest ∧ sink.Puts data puts result ∧
        (next (result.mapError .fault)).Proceeds rest (done a)
  | es, sink, data, h => by
    -- Nothing is asked without data, or where the sink is in memory.
    by_cases hne : data = []
    · subst hne
      exact ⟨[], es, .ok sink, rfl, .finished sink, h.enter_of_loop⟩
    by_cases hasks : sink.Asks
    · obtain ⟨e, rest, reply, rfl, hwrite, hrest⟩ := h.put_cases hasks hne
      match reply with
      | .ok 0 => exact ⟨[e], rest, .error .writeZero, rfl, .zero hne hwrite, hrest⟩
      | .ok (n + 1) =>
        obtain ⟨puts, rest, result, rfl, hputs, hrest⟩ := puts_of_proceeds rest hrest
        exact ⟨e :: puts, rest, result, rfl, .part hne hwrite hputs, hrest⟩
      | .error f =>
        by_cases hf : f = .interrupted
        · subst hf
          obtain ⟨puts, rest, result, rfl, hputs, hrest⟩ := puts_of_proceeds rest hrest
          exact ⟨e :: puts, rest, result, rfl, .again hne hwrite hputs, hrest⟩
        · refine ⟨[e], rest, .error f, rfl, .failed hne hwrite hf, ?_⟩
          cases f <;> first | exact absurd rfl hf | exact hrest
    · obtain ⟨held, rfl⟩ := eq_memory_of_not_asks hasks
      obtain ⟨b, data, rfl⟩ := List.exists_cons_of_ne_nil hne
      exact ⟨[], es, .ok _, rfl, .held hne, h.enter_of_loop⟩
termination_by es => es.length

/-- **Every copy** has the exchanges of a copy. -/
theorem copies_of_proceeds {result : Except Failure (Nat × Sink)} :
    ∀ (es : List Exchange) {source : Source} {sink : Sink} {moved : Nat},
      (Program.loop .copy (source, sink, moved) done).Proceeds es (done result) → Copies source sink moved es result
  | es, source, sink, moved, h => by
    have henter := h.enter_of_loop
    rw [enter_copy] at henter
    obtain ⟨stop, es, rfl, hstop⟩ := henter.ask_cases
    cases stop with
    | true =>
      obtain ⟨rfl, rfl⟩ := Proceeds.eq_of_done hstop
      exact .stopped
    | false =>
      obtain ⟨takes, rest, reply, rfl, htakes, hread⟩ := takes_of_proceeds hstop
      match reply with
      | .error f =>
        obtain ⟨rfl, rfl⟩ := Proceeds.eq_of_done hread
        rw [List.append_nil]
        exact .unread htakes
      | .ok [] =>
        obtain ⟨rfl, rfl⟩ := Proceeds.eq_of_done hread
        rw [List.append_nil]
        exact .ended htakes
      | .ok (b :: data) =>
        have hne : b :: data ≠ [] := List.cons_ne_nil b data
        obtain ⟨stop', es, rfl, hstop'⟩ := Proceeds.ask_cases hread
        cases stop' with
        | true =>
          obtain ⟨rfl, rfl⟩ := Proceeds.eq_of_done hstop'
          exact .halted htakes hne
        | false =>
          obtain ⟨puts, rest, put, rfl, hputs, hput⟩ := puts_of_proceeds _ hstop'
          cases put with
          | error f =>
            obtain ⟨rfl, rfl⟩ := Proceeds.eq_of_done hput
            rw [List.append_nil]
            exact .unwritten htakes hne hputs
          | ok sink' =>
            have hround := Copies.round htakes hne hputs (copies_of_proceeds rest hput)
            rwa [List.append_assoc] at hround
termination_by es => es.length

/-- **Reading the input to its end** has the exchanges of that. -/
theorem gathers_of_proceeds {result : Except Failure Bytes} :
    ∀ (es : List Exchange) {held : Transcript}, (Program.loop .gather held done).Proceeds es (done result) →
      Gathers held es result
  | es, held, h => by
    have henter := h.enter_of_loop
    rw [enter_gather] at henter
    obtain ⟨stop, es, rfl, hstop⟩ := henter.ask_cases
    cases stop with
    | true =>
      obtain ⟨rfl, rfl⟩ := Proceeds.eq_of_done hstop
      exact .stopped
    | false =>
      obtain ⟨takes, rest, reply, rfl, htakes, hread⟩ := takes_of_proceeds hstop
      match reply with
      | .error f =>
        obtain ⟨rfl, rfl⟩ := Proceeds.eq_of_done hread
        rw [List.append_nil]
        exact .unread htakes
      | .ok [] =>
        obtain ⟨rfl, rfl⟩ := Proceeds.eq_of_done hread
        rw [List.append_nil]
        exact .ended htakes
      | .ok (b :: data) =>
        exact .round htakes (List.cons_ne_nil b data) (gathers_of_proceeds rest hread)
termination_by es => es.length

end Program

/-! ## What comes and what goes -/

variable {source : Source} {sink sink' : Sink} {limit moved : Nat} {data : Bytes} {e : Exchange} {es : List Exchange}

namespace Source

theorem Reads.came_eq {reply : Except Fault Bytes} (h : source.Reads limit reply e) :
    e.came = reply.toOption.getD [] := by
  cases h <;> cases reply <;> rfl

theorem Reads.brings {reply : Except Fault Bytes} (h : source.Reads limit reply e) (hne : reply ≠ .ok []) :
    ¬ e.BringsNothing := by
  rintro ⟨source', limit', h'⟩
  cases h <;> cases h' <;> exact hne rfl

theorem Reads.went_eq {reply : Except Fault Bytes} (h : source.Reads limit reply e) : e.went = [] := by
  cases h <;> rfl

end Source

namespace Sink

theorem Writes.came_eq {reply : Except Fault Nat} (h : sink.Writes data reply e) : e.came = [] := by
  cases h <;> rfl

theorem Writes.went_of_ok {n : Nat} (h : sink.Writes data (.ok n) e) : e.went = data.take n := by
  cases h <;> rfl

theorem Writes.went_of_error {f : Fault} (h : sink.Writes data (.error f) e) : e.went = [] := by
  cases h <;> rfl

theorem Writes.asks {reply : Except Fault Nat} (h : sink.Writes data reply e) : sink.Asks := by
  cases h <;> trivial

theorem asks_advance (n : Nat) : (sink.advance n).Asks ↔ sink.Asks := by
  cases sink <;> rfl

end Sink

open Exchange

theorem Source.Takes.went_eq {reply : Except Fault Bytes} (h : source.Takes limit es reply) : es.flatMap went = [] := by
  induction h with
  | again h _ ih => rw [List.flatMap_cons, h.went_eq, ih, List.nil_append]
  | once h _ => rw [List.flatMap_singleton, h.went_eq]

theorem Source.Takes.came_eq {reply : Except Fault Bytes} (h : source.Takes limit es reply) :
    es.flatMap came = reply.toOption.getD [] := by
  induction h with
  | again h _ ih =>
    rw [List.flatMap_cons, h.came_eq, ih]
    rfl
  | once h _ => rw [List.flatMap_singleton, h.came_eq]

theorem Source.Takes.split {reply : Except Fault Bytes} (h : source.Takes limit es reply) :
    ∃ before e, es = before ++ [e] ∧ source.Reads limit reply e ∧
      ∀ e' ∈ before, source.Reads limit (.error .interrupted) e' := by
  induction h with
  | again h _ ih =>
    obtain ⟨before, e, rfl, hlast, hbefore⟩ := ih
    exact ⟨_ :: before, e, rfl, hlast, List.forall_mem_cons.2 ⟨h, hbefore⟩⟩
  | once h _ => exact ⟨[], _, rfl, h, nofun⟩

theorem Source.Takes.length_le (h : source.Takes limit es (.ok data)) (hfits : ∀ e ∈ es, e.Fits) :
    data.length ≤ limit := by
  obtain ⟨before, e, rfl, hlast, -⟩ := h.split
  exact hfits e (by simp) source limit data hlast

theorem Sink.Puts.came_eq {result : Except Fault Sink} (h : sink.Puts data es result) : es.flatMap came = [] := by
  induction h with
  | finished | held => rfl
  | again _ h _ ih => rw [List.flatMap_cons, h.came_eq, ih, List.nil_append]
  | part _ h _ ih => rw [List.flatMap_cons, h.came_eq, ih, List.nil_append]
  | zero _ h => rw [List.flatMap_singleton, h.came_eq]
  | failed _ h => rw [List.flatMap_singleton, h.came_eq]

theorem Sink.Puts.accepted_of_ok {result : Except Fault Sink} (h : sink.Puts data es result) :
    ∀ sink', result = .ok sink' → (sink'.Asks ↔ sink.Asks) ∧ (sink.Asks → es.flatMap went = data) ∧
      (¬ sink.Asks → sink'.held = sink.held ++ data) := by
  induction h with
  | finished sink =>
    rintro _ ⟨⟩
    exact ⟨Iff.rfl, fun _ => rfl, fun _ => (List.append_nil _).symm⟩
  | held =>
    rintro _ ⟨⟩
    exact ⟨Iff.rfl, nofun, fun _ => Transcript.bytes_write _ _⟩
  | again _ h _ ih =>
    intro sink' hresult
    obtain ⟨hasks, hwent, hheld⟩ := ih sink' hresult
    refine ⟨hasks, fun hsink => ?_, hheld⟩
    rw [List.flatMap_cons, h.went_of_error, hwent hsink, List.nil_append]
  | part _ h _ ih =>
    intro sink' hresult
    obtain ⟨hasks, hwent, -⟩ := ih sink' hresult
    rw [Sink.asks_advance] at hasks hwent
    refine ⟨hasks, fun hsink => ?_, fun hsink => absurd h.asks hsink⟩
    rw [List.flatMap_cons, h.went_of_ok, hwent hsink, List.take_append_drop]
  | zero | failed => exact nofun

/-- **Where some data is not put**, the last write was asked to take what was left, and took nothing of it. -/
theorem Sink.Puts.left_of_error {result : Except Fault Sink} (h : sink.Puts data es result) : ∀ f, result = .error f →
    sink.Asks ∧ ∃ before e left, ∃ sink' : Sink, es = before ++ [e] ∧ data = es.flatMap went ++ left ∧
      sink'.Refuses left f e := by
  induction h with
  | finished | held => exact nofun
  | again _ h _ ih =>
    intro f hresult
    obtain ⟨hsink, before, e, left, sink', rfl, hdata, hlast⟩ := ih f hresult
    refine ⟨hsink, _ :: before, e, left, sink', rfl, ?_, hlast⟩
    rw [List.flatMap_cons, h.went_of_error]
    exact hdata
  | part _ h _ ih =>
    intro f hresult
    obtain ⟨-, before, e, left, sink', rfl, hdata, hlast⟩ := ih f hresult
    refine ⟨h.asks, _ :: before, e, left, sink', rfl, ?_, hlast⟩
    rw [List.flatMap_cons, h.went_of_ok, List.append_assoc, ← hdata, List.take_append_drop]
  | zero _ h =>
    rintro f ⟨⟩
    refine ⟨h.asks, [], _, _, _, rfl, ?_, .inr ⟨h, rfl⟩⟩
    rw [List.flatMap_singleton, h.went_of_ok, List.take_zero, List.nil_append]
  | failed _ h _ =>
    rintro f ⟨⟩
    refine ⟨h.asks, [], _, _, _, rfl, ?_, .inl h⟩
    rw [List.flatMap_singleton, h.went_of_error, List.nil_append]

/-! ## Copying conserves -/

/-- **What is left of what came**, by how copying ended. -/
inductive Leftover : List Exchange → Bytes → Except Failure (Nat × Sink) → Prop
  /-- The last read has brought nothing. -/
  | nothing {before : List Exchange} {e : Exchange} {source : Source} {n : Nat} {sink : Sink}
      (h : source.Reads chunkSize (.ok []) e) : Leftover (before ++ [e]) [] (.ok (n, sink))
  /-- The stop came in front of a read. -/
  | stopped {before : List Exchange} : Leftover (before ++ [⟨.poll, true⟩]) [] (.error .stopped)
  /-- The stop came between a read and its first write. -/
  | halted {before : List Exchange} {e : Exchange} {source : Source} {data : Bytes}
      (h : source.Reads chunkSize (.ok data) e) : Leftover (before ++ [e, ⟨.poll, true⟩]) data (.error .stopped)
  | unread {before : List Exchange} {e : Exchange} {source : Source} {f : Fault}
      (h : source.Reads chunkSize (.error f) e) : Leftover (before ++ [e]) [] (.error (.fault f))
  /-- The last write was asked to take what is left. -/
  | unwritten {before : List Exchange} {e : Exchange} {sink : Sink} {left : Bytes} {f : Fault}
      (h : sink.Refuses left f e) : Leftover (before ++ [e]) left (.error (.fault f))

theorem Leftover.append {left : Bytes} {result : Except Failure (Nat × Sink)} (h : Leftover es left result)
    (front : List Exchange) : Leftover (front ++ es) left result := by
  cases h with
  | nothing h => exact List.append_assoc .. ▸ .nothing h
  | stopped => exact List.append_assoc .. ▸ .stopped
  | halted h => exact List.append_assoc .. ▸ .halted h
  | unread h => exact List.append_assoc .. ▸ .unread h
  | unwritten h => exact List.append_assoc .. ▸ .unwritten h

/-- **Copying conserves what came**: some of it was accepted, in its order, and the rest is left. -/
structure Conserves (sink : Sink) (es : List Exchange) (result : Except Failure (Nat × Sink)) (accepted left : Bytes) :
    Prop where
  came_eq : es.flatMap came = accepted ++ left
  length_le : (∀ e ∈ es, e.Fits) → left.length ≤ chunkSize
  leftover : Leftover es left result
  went_eq : sink.Asks → es.flatMap went = accepted
  held_eq : ¬ sink.Asks → ∀ n sink', result = .ok (n, sink') → sink'.held = sink.held ++ accepted

theorem came_round {takes puts : List Exchange} (rest : List Exchange) (h : source.Takes limit takes (.ok data))
    (hputs : puts.flatMap came = []) :
    (⟨.poll, false⟩ :: takes ++ ⟨.poll, false⟩ :: puts ++ rest : List Exchange).flatMap came =
      data ++ rest.flatMap came := by
  rw [List.flatMap_append, List.flatMap_append, List.flatMap_cons, List.flatMap_cons, h.came_eq, hputs]
  exact congrArg (· ++ _) (List.append_nil _)

theorem went_round {takes : List Exchange} (puts rest : List Exchange) (h : source.Takes limit takes (.ok data)) :
    (⟨.poll, false⟩ :: takes ++ ⟨.poll, false⟩ :: puts ++ rest : List Exchange).flatMap went =
      puts.flatMap went ++ rest.flatMap went := by
  rw [List.flatMap_append, List.flatMap_append, List.flatMap_cons, List.flatMap_cons, h.went_eq]
  rfl

theorem Copies.conserves {result : Except Failure (Nat × Sink)} (h : Copies source sink moved es result) :
    ∃ accepted left, Conserves sink es result accepted left := by
  induction h with
  | stopped => exact ⟨[], [], rfl, fun _ => Nat.zero_le _, @Leftover.stopped [], fun _ => rfl, nofun⟩
  | unread h =>
    obtain ⟨before, e, rfl, hlast, -⟩ := h.split
    exact ⟨[], [], h.came_eq, fun _ => Nat.zero_le _, .append (.unread hlast) [_], fun _ => h.went_eq, nofun⟩
  | @ended source sink moved takes h =>
    obtain ⟨before, e, rfl, hlast, -⟩ := h.split
    refine ⟨[], [], h.came_eq, fun _ => Nat.zero_le _, .append (.nothing hlast) [_], fun _ => h.went_eq, ?_⟩
    rintro - n sink' ⟨⟩
    exact (List.append_nil _).symm
  | @halted source sink moved takes data h hne =>
    have htakes := h
    have hcame := h.came_eq
    have hwent := h.went_eq
    obtain ⟨before, e, rfl, hlast, -⟩ := h.split
    refine ⟨[], data, ?_, fun hfits => ?_, ?_, fun _ => ?_, nofun⟩
    · rw [List.flatMap_append, List.flatMap_cons, hcame]
      exact List.append_nil _
    · exact htakes.length_le fun e he => hfits e (List.mem_append_left _ (List.mem_cons_of_mem _ he))
    · have hleftover : Leftover (⟨.poll, false⟩ :: before ++ [e, ⟨.poll, true⟩]) data (.error .stopped) := .halted hlast
      simpa using hleftover
    · rw [List.flatMap_append, List.flatMap_cons, hwent]
      rfl
  | @unwritten source sink moved takes puts data f h hne hput =>
    obtain ⟨hsink, before, e, left, sink', rfl, hdata, hlast⟩ := hput.left_of_error f rfl
    have hcame := came_round [] h hput.came_eq
    have hwent := went_round (before ++ [e]) [] h
    rw [List.append_nil] at hcame hwent
    refine ⟨(before ++ [e]).flatMap went, left, ?_, fun hfits => ?_, ?_, fun _ => ?_, fun hnot => absurd hsink hnot⟩
    · rw [hcame, ← hdata]
      exact List.append_nil _
    · have hdata' := congrArg List.length hdata
      have hchunk := h.length_le fun e he => hfits e (List.mem_append_left _ (List.mem_cons_of_mem _ he))
      rw [List.length_append] at hdata'
      omega
    · exact .append (.append (.unwritten hlast) [⟨.poll, false⟩]) (⟨.poll, false⟩ :: takes)
    · rw [hwent]
      exact List.append_nil _
  | @round source sink sink' moved takes puts rest data result h hne hput hrest ih =>
    obtain ⟨accepted, left, hc⟩ := ih
    obtain ⟨hasks, hwent, hheld⟩ := hput.accepted_of_ok sink' rfl
    refine ⟨data ++ accepted, left, ?_, fun hfits => hc.length_le fun e he => hfits e (List.mem_append_right _ he),
      hc.leftover.append _, fun hsink => ?_, fun hsink n sink'' hresult => ?_⟩
    · rw [came_round rest h hput.came_eq, hc.came_eq, List.append_assoc]
    · rw [went_round puts rest h, hwent hsink, hc.went_eq (hasks.2 hsink)]
    · rw [hc.held_eq (mt hasks.1 hsink) n sink'' hresult, hheld hsink, List.append_assoc]

theorem Copies.count_eq {result : Except Failure (Nat × Sink)} (h : Copies source sink moved es result) :
    ∀ n sink', result = .ok (n, sink') → n = moved + (es.flatMap came).length := by
  induction h with
  | stopped | unread | halted | unwritten => exact nofun
  | ended h =>
    rintro n sink' ⟨⟩
    exact (congrArg (fun data => _ + List.length data) h.came_eq).symm
  | round h _ hput _ ih =>
    intro n sink' hresult
    rw [came_round _ h hput.came_eq, List.length_append, ← Nat.add_assoc]
    exact ih n sink' hresult

/-! ## Reading to the end -/

theorem not_bringsNothing_poll (stop : Bool) : ¬ BringsNothing ⟨.poll, stop⟩ := by
  rintro ⟨source, limit, ⟨⟩⟩

theorem Source.Takes.brings (h : source.Takes limit es (.ok data)) (hne : data ≠ []) : ∀ e ∈ es, ¬ e.BringsNothing := by
  obtain ⟨before, e, rfl, hlast, hbefore⟩ := h.split
  intro e' he'
  rcases List.mem_append.1 he' with he' | he'
  · exact (hbefore e' he').brings nofun
  · obtain rfl := List.mem_singleton.1 he'
    exact hlast.brings (by simpa using hne)

/-- **What is gathered** is what came before the first read that brought nothing, and that read is the last. -/
theorem Gathers.split {held : Transcript} {result : Except Failure Bytes} (h : Gathers held es result) :
    ∀ data, result = .ok data → ∃ before e, es = before ++ [e] ∧ Source.input.Reads chunkSize (.ok []) e ∧
      (∀ e' ∈ before, ¬ e'.BringsNothing) ∧ data = held.bytes ++ before.flatMap came := by
  induction h with
  | stopped | unread => exact nofun
  | ended h =>
    rintro data ⟨⟩
    obtain ⟨before, e, rfl, hlast, hbefore⟩ := h.split
    refine ⟨⟨.poll, false⟩ :: before, e, rfl, hlast, ?_, ?_⟩
    · exact List.forall_mem_cons.2 ⟨not_bringsNothing_poll false, fun e' he' => (hbefore e' he').brings nofun⟩
    · have hnone : before.flatMap came = [] := List.flatMap_eq_nil_iff.2 fun e' he' => (hbefore e' he').came_eq
      rw [List.flatMap_cons, hnone]
      exact (List.append_nil _).symm
  | @round held takes rest data' result h hne _ ih =>
    intro data hresult
    obtain ⟨before, e, rfl, hlast, hbefore, hdata⟩ := ih data hresult
    refine ⟨⟨.poll, false⟩ :: takes ++ before, e, (List.append_assoc ..).symm, hlast, ?_, ?_⟩
    · rw [List.cons_append]
      refine List.forall_mem_cons.2 ⟨not_bringsNothing_poll false, fun e' he' => ?_⟩
      exact (List.mem_append.1 he').elim (h.brings hne e') (hbefore e')
    · rw [hdata, Transcript.bytes_write, List.append_assoc, List.flatMap_append, List.flatMap_cons, h.came_eq]
      rfl

/-! ## Programs -/

open LineShell.Action in
/-- **Copying loses nothing and makes nothing up**, whoever is at the other end of source and sink and whenever a stop is
asked for.  What was accepted is a front of what came, at most a chunk is left, which depends on how copying ended, and a
copy that is done has counted all that came.  Reading to the end gives what came before the first read that brought
nothing. -/
theorem conserves_of_copy {es : List Exchange} :
    (∀ source sink result, Program.Proceeds (copy source sink) es (.done result) →
      (∃ accepted left, Conserves sink es result accepted left) ∧
      ∀ n sink', result = .ok (n, sink') → n = (es.flatMap came).length) ∧
    ∀ data, Program.Proceeds readAll es (.done (.ok data)) → ∃ before e, es = before ++ [e] ∧
      Source.input.Reads chunkSize (.ok []) e ∧ (∀ e' ∈ before, ¬ e'.BringsNothing) ∧ data = before.flatMap came := by
  refine ⟨fun source sink result h => ?_, fun data h => ?_⟩
  · have hcopies := Program.copies_of_proceeds es h
    exact ⟨hcopies.conserves, fun n sink' hresult => (hcopies.count_eq n sink' hresult).trans (Nat.zero_add _)⟩
  · exact (Program.gathers_of_proceeds es h).split data rfl

open LineShell.Action in
/-- A stop between a read and its write, after a chunk that went in two parts; and an input of one byte read to its end. -/
theorem conserves_of_copy_stopped :
    let es : List Exchange := [⟨.poll, false⟩, ⟨.read chunkSize, .error .interrupted⟩, ⟨.read chunkSize, .ok [1, 2, 3]⟩,
      ⟨.poll, false⟩, ⟨.write [1, 2, 3], .ok 2⟩, ⟨.write [3], .error .interrupted⟩, ⟨.write [3], .ok 1⟩,
      ⟨.poll, false⟩, ⟨.read chunkSize, .ok [4, 5]⟩, ⟨.poll, true⟩]
    let gathered : List Exchange :=
      [⟨.poll, false⟩, ⟨.read chunkSize, .ok [6]⟩, ⟨.poll, false⟩, ⟨.read chunkSize, .ok []⟩]
    Conserves .output es (.error .stopped) [1, 2, 3] [4, 5] ∧
      ∃ before e, gathered = before ++ [e] ∧ Source.input.Reads chunkSize (.ok []) e ∧ [6] = before.flatMap came := by
  intro es gathered
  have hcopy : Program.Proceeds (copy .input .output) es (.done (.error .stopped)) := by
    repeat first | exact .refl _ | refine .ask _ ?_ | refine .enter ?_
  have hgather : Program.Proceeds readAll gathered (.done (.ok [6])) := by
    repeat first | exact .refl _ | refine .ask _ ?_ | refine .enter ?_
  obtain ⟨accepted, left, hc⟩ := (conserves_of_copy.1 .input .output _ hcopy).1
  have haccepted : [1, 2, 3] = accepted := hc.went_eq trivial
  subst haccepted
  have hleft : [4, 5] = left := @List.append_cancel_left _ [1, 2, 3] _ _ hc.came_eq
  subst hleft
  obtain ⟨before, e, hes, hlast, -, hdata⟩ := conserves_of_copy.2 [6] hgather
  exact ⟨hc, before, e, hes, hlast, hdata⟩

end LineShell
