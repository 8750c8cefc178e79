import LineShell.Bench
/-!
# Heeding — programs that give up when they take a request to stop

`Program.Proceeds p es p'` says that `p`, answered as in the exchanges `es`, has come to `p'`; the replies are free, so
it covers whatever is at the other end of a program's requests.  `Program.Heeds may stop p` says of a program tree that
the reply which takes a request to stop ends it with `stop` at once, and that nothing else does.  What heeds once heeds
at every point of every run: it ends with `stop` exactly when it took a request, and asks nothing after it.

A bench is one way of answering: its runs are the exchanges that it serves (`Bench.run_eq_some_iff`).
-/
namespace LineShell

namespace Request

def takes : (q : Request) → q.Reply → Bool
  | .poll, stop => stop
  | _, _ => false

theorem takes_of_ne {q : Request} (h : q ≠ .poll) (reply : q.Reply) : q.takes reply = false := by
  cases q with
  | poll => exact absurd rfl h
  | _ => rfl

/-- The requests by which a command does its work.  They leave its own path alone. -/
def IsWork : Request → Prop
  | .poll | .read _ | .write _ | .flush | .files _ | .resolve _ | .connect _ => True
  | .moveTo _ | .ownPath | .note _ | .isArmed | .interrupt | .streams => False

end Request

structure Exchange where
  request : Request
  reply : request.Reply

namespace Exchange

def TakesStop (e : Exchange) : Prop := e.request.takes e.reply = true

theorem takesStop_mk {q : Request} {reply : q.Reply} : TakesStop ⟨q, reply⟩ ↔ q.takes reply = true := Iff.rfl

end Exchange

namespace Program

variable {α β : Type}

/-- **The course of a program** under some exchanges.  It enters loops without asking. -/
inductive Proceeds : Program α → List Exchange → Program α → Prop
  | refl (p : Program α) : Proceeds p [] p
  | ask {q : Request} {next : q.Reply → Program α} {es : List Exchange} {p : Program α} (reply : q.Reply)
      (h : Proceeds (next reply) es p) : Proceeds (.ask q next) (⟨q, reply⟩ :: es) p
  | enter {l : Loop} {state : l.State} {next : Except Failure l.Value → Program α} {es : List Exchange}
      {p : Program α} (h : Proceeds (enter l state next) es p) : Proceeds (.loop l state next) es p

theorem Proceeds.of_done {a : α} {es : List Exchange} {p : Program α} (h : Proceeds (done a) es p) :
    es = [] ∧ p = done a := by
  cases h
  exact ⟨rfl, rfl⟩

/-- **A program heeds stops**: it asks only what it may, and results in `stop` when it took a request to stop and only
then.  A loop that gives up is given up. -/
def Heeds (may : Request → Prop) (stop : α) : Program α → Prop
  | done a => a ≠ stop
  | ask q next =>
    may q ∧ ∀ reply, (q.takes reply = true → next reply = done stop) ∧
      (q.takes reply = false → Heeds may stop (next reply))
  | loop _ _ next =>
    next (.error .stopped) = done stop ∧ ∀ result, result ≠ .error .stopped → Heeds may stop (next result)

variable {may : Request → Prop} {stop : α}

theorem Heeds.mono {may' : Request → Prop} (hmay : ∀ q, may q → may' q) :
    ∀ {p : Program α}, Heeds may stop p → Heeds may' stop p
  | done _, h => h
  | ask q _, h => ⟨hmay q h.1, fun reply => ⟨(h.2 reply).1, fun ht => ((h.2 reply).2 ht).mono hmay⟩⟩
  | loop _ _ _, h => ⟨h.1, fun result hr => (h.2 result hr).mono hmay⟩

theorem Heeds.bind {p : Program α} (h : Heeds may stop p) {stop' : β} {f : α → Program β}
    (hstop : f stop = done stop') (hf : ∀ a, a ≠ stop → Heeds may stop' (f a)) : Heeds may stop' (p.bind f) := by
  induction p with
  | done a => exact hf a h
  | ask q next ih =>
    refine ⟨h.1, fun reply => ⟨fun ht => ?_, fun ht => ih reply ((h.2 reply).2 ht)⟩⟩
    show (next reply).bind f = done stop'
    rw [(h.2 reply).1 ht, done_bind, hstop]
  | loop l state next ih =>
    refine ⟨?_, fun result hr => ih result (h.2 result hr)⟩
    show (next (.error .stopped)).bind f = done stop'
    rw [h.1, done_bind, hstop]

theorem heeds_ask {q : Request} {next : q.Reply → Program α} (hmay : may q) (hq : q ≠ .poll)
    (h : ∀ reply, Heeds may stop (next reply)) : Heeds may stop (ask q next) := by
  refine ⟨hmay, fun reply => ⟨fun ht => ?_, fun _ => h reply⟩⟩
  rw [Request.takes_of_ne hq] at ht
  cases ht

end Program

/-! ## Actions -/

namespace Action

variable {α β : Type} {may : Request → Prop}

/-- An action heeds stops: it fails as stopped when it took a request to stop, and only then. -/
def Heeds (may : Request → Prop) (x : Action α) : Prop := Program.Heeds may (.error .stopped) x

theorem heeds_pure (a : α) : Heeds may (pure a : Action α) := by
  intro h
  cases h

theorem heeds_fail {f : Failure} (h : f ≠ .stopped) : Heeds may (fail f : Action α) := by
  intro hf
  exact h (Except.error.inj hf)

theorem heeds_check : Heeds Request.IsWork check := by
  refine ⟨trivial, fun reply => ?_⟩
  cases reply with
  | true => exact ⟨fun _ => rfl, fun ht => absurd ht.symm Bool.false_ne_true⟩
  | false => exact ⟨fun ht => absurd ht Bool.false_ne_true, fun _ => heeds_pure ()⟩

theorem heeds_asking {q : Request} {next : q.Reply → Action α} (hw : q.IsWork) (hq : q ≠ .poll)
    (h : ∀ reply, Heeds Request.IsWork (next reply)) : Heeds Request.IsWork (Program.ask q next) :=
  Program.heeds_ask hw hq h

theorem heeds_loop (l : Loop) (state : l.State) : Heeds may (loop l state) := ⟨rfl, fun _ hr => hr⟩

/-- **What follows on an action** is not reached once the action was stopped. -/
theorem Heeds.bind {x : Action α} {f : α → Action β} (hx : Heeds may x) (hf : ∀ a, Heeds may (f a)) :
    Heeds may (x >>= f) := by
  refine Program.Heeds.bind hx rfl fun result hr => ?_
  match result with
  | .ok a => exact hf a
  | .error e => exact heeds_fail (fun he => hr (congrArg Except.error he))

theorem heeds_ite (c : Prop) [Decidable c] {x y : Action α} (hx : Heeds may x) (hy : Heeds may y) :
    Heeds may (if c then x else y) := by
  split
  · exact hx
  · exact hy

/-- **A failure that is caught** is a stop that is passed on, or some other failure. -/
theorem Heeds.attempt_bind {x : Action α} {f : Except Failure α → Action β} (hx : Heeds may x)
    (hstop : f (.error .stopped) = fail .stopped) (hf : ∀ result, result ≠ .error .stopped → Heeds may (f result)) :
    Heeds may (attempt x >>= f) := by
  have hx' : Heeds may (Program.bind x f) := Program.Heeds.bind hx hstop hf
  have heq : (attempt x >>= f : Action β) = Program.bind x f := Program.bind_assoc x _ _
  rw [heq]
  exact hx'

theorem Heeds.mono {may' : Request → Prop} {x : Action α} (hx : Heeds may x) (hmay : ∀ q, may q → may' q) :
    Heeds may' x := Program.Heeds.mono hmay hx

theorem Heeds.free {x : Action α} (hx : Heeds may x) : Heeds (fun _ => True) x := hx.mono fun _ _ => trivial

theorem heeds_tryFiles (q : FileRequest) : Heeds Request.IsWork (tryFiles q) := heeds_asking trivial nofun heeds_pure

theorem heeds_ask (q : FileRequest) : Heeds Request.IsWork (ask q) := by
  refine (heeds_tryFiles q).bind fun reply => ?_
  cases reply with
  | ok answer => exact heeds_pure answer
  | error f => exact heeds_fail (fun h => nomatch h)

theorem heeds_askOr (q : FileRequest) (message : String) : Heeds Request.IsWork (askOr q message) := by
  refine (heeds_tryFiles q).bind fun reply => ?_
  cases reply with
  | ok answer => exact heeds_pure answer
  | error f => exact heeds_fail (fun h => nomatch h)

theorem heeds_write (data : Bytes) : Heeds Request.IsWork (write data) :=
  heeds_check.bind fun _ => (heeds_loop .put _).bind fun _ => heeds_pure ()

theorem heeds_print (text : String) : Heeds Request.IsWork (print text) := heeds_write _

theorem heeds_copy (source : Source) (sink : Sink) : Heeds Request.IsWork (copy source sink) := heeds_loop .copy _

theorem heeds_readAll : Heeds Request.IsWork readAll := heeds_loop .gather _

theorem heeds_flush : Heeds Request.IsWork flush := by
  refine Heeds.bind (x := request .flush) (heeds_asking trivial nofun heeds_pure) fun reply => ?_
  cases reply with
  | ok => exact heeds_pure ()
  | error f => exact heeds_fail (fun h => nomatch h)

end Action

/-! ## Loops -/

namespace Loop

open LineShell.Action

theorem heeds_takeReply (source : Source) (limit : Nat) (reply : Except Fault Bytes) :
    Heeds Request.IsWork (takeReply source limit reply) := by
  unfold takeReply
  split
  · exact heeds_pure _
  · exact heeds_pure _
  · exact heeds_fail (fun h => nomatch h)

theorem heeds_putReply (sink : Sink) (data : Bytes) (reply : Except Fault Nat) :
    Heeds Request.IsWork (putReply sink data reply) := by
  unfold putReply
  split
  · exact heeds_fail (fun h => nomatch h)
  · exact heeds_pure _
  · exact heeds_pure _
  · exact heeds_fail (fun h => nomatch h)

theorem heeds_takeTurn : ∀ state, Heeds Request.IsWork (takeTurn state)
  | (.input, limit) => heeds_asking trivial nofun (heeds_takeReply .input limit)
  | (.file id offset, limit) => heeds_asking trivial nofun (heeds_takeReply (.file id offset) limit)

theorem heeds_putTurn : ∀ state, Heeds Request.IsWork (putTurn state)
  | (_, []) => heeds_pure _
  | (.output, b :: data) => heeds_asking trivial nofun (heeds_putReply .output (b :: data))
  | (.file id offset, b :: data) => heeds_asking trivial nofun (heeds_putReply (.file id offset) (b :: data))
  | (.memory _, _ :: _) => heeds_pure _

theorem heeds_copyTurn (state : Source × Sink × Nat) : Heeds Request.IsWork (copyTurn state) := by
  refine heeds_check.bind fun _ => (heeds_loop .take _).bind fun ⟨data, source⟩ => ?_
  refine heeds_ite _ (heeds_pure _) ?_
  exact heeds_check.bind fun _ => (heeds_loop .put _).bind fun _ => heeds_pure _

theorem heeds_gatherTurn (held : Transcript) : Heeds Request.IsWork (gatherTurn held) := by
  refine heeds_check.bind fun _ => (heeds_loop .take _).bind fun ⟨data, source⟩ => ?_
  exact heeds_ite _ (heeds_pure _) (heeds_pure _)

theorem heeds_childVisits (dir : Path) : Heeds Request.IsWork (childVisits dir) := by
  refine (heeds_tryFiles _).bind fun reply => ?_
  cases reply with
  | ok answer => exact heeds_pure _
  | error f => exact heeds_pure _

theorem heeds_searchTurn : ∀ state, Heeds Request.IsWork (searchTurn state)
  | (_, []) => heeds_pure _
  | (_, .fault _ _ :: _) => heeds_check.bind fun _ => heeds_pure _
  | (name, .entry path kind :: rest) => by
    have hrest : ∀ children : List Visit, Heeds Request.IsWork (do
        check
        if Bytes.toText path.fileName = name then pure (.finished (.found path))
        else pure (.again (name, children ++ rest)) : Action (Turn (String × List Visit) Finding)) :=
      fun _ => heeds_check.bind fun _ => heeds_ite _ (heeds_pure _) (heeds_pure _)
    refine heeds_ite (kind = .directory) ?_ ?_
    · exact (heeds_childVisits path).bind hrest
    · exact (heeds_pure []).bind hrest

/-- **Every turn of every loop heeds stops.** -/
theorem heeds_turn : (l : Loop) → (state : l.State) → Heeds Request.IsWork (l.turn state)
  | .take, state => heeds_takeTurn state
  | .put, state => heeds_putTurn state
  | .copy, state => heeds_copyTurn state
  | .gather, held => heeds_gatherTurn held
  | .search, state => heeds_searchTurn state

end Loop

/-! ## Runs -/

namespace Program

variable {α : Type} {may : Request → Prop} {stop : α}

theorem Heeds.enter (hmay : ∀ q, q.IsWork → may q) {l : Loop} {state : l.State}
    {next : Except Failure l.Value → Program α} (h : Heeds may stop (loop l state next)) :
    Heeds may stop (Program.enter l state next) := by
  have hturn : Heeds may (.error .stopped) (l.turn state : Program (Except Failure (Turn l.State l.Value))) :=
    Heeds.mono hmay (Loop.heeds_turn l state)
  refine hturn.bind h.1 fun result hr => ?_
  match result with
  | .ok (.again _) => exact h
  | .ok (.finished value) => exact h.2 (.ok value) (fun he => nomatch he)
  | .error e => exact h.2 (.error e) (fun he => hr (congrArg Except.error (Except.error.inj he)))

/-- **A run ends as stopped exactly when a request to stop was taken.** -/
theorem Heeds.eq_done_iff (hmay : ∀ q, q.IsWork → may q) {p p' : Program α} {es : List Exchange}
    (hp : p.Proceeds es p') (h : Heeds may stop p) : p' = done stop ↔ ∃ e ∈ es, e.TakesStop := by
  induction hp with
  | refl p =>
    constructor
    · rintro rfl
      exact absurd rfl h
    · rintro ⟨e, he, -⟩
      cases he
  | @ask q next es p' reply hp ih =>
    cases ht : q.takes reply with
    -- The program is done with the reply that takes the stop, so the exchanges end there.
    | true =>
      rw [(h.2 reply).1 ht] at hp
      obtain ⟨rfl, rfl⟩ := hp.of_done
      exact ⟨fun _ => ⟨_, List.mem_singleton.2 rfl, ht⟩, fun _ => rfl⟩
    | false => simp [ih ((h.2 reply).2 ht), Exchange.takesStop_mk, ht]
  | enter _ ih => exact ih (h.enter hmay)

/-- **Nothing is asked after a request to stop was taken.** -/
theorem Heeds.after_eq_nil (hmay : ∀ q, q.IsWork → may q) {p p' : Program α} {es : List Exchange}
    (hp : p.Proceeds es p') (h : Heeds may stop p) :
    ∀ (before : List Exchange) (e : Exchange) (after : List Exchange),
      es = before ++ e :: after → e.TakesStop → after = [] := by
  induction hp with
  | refl p =>
    intro before e after hes
    simp at hes
  | @ask q next es p' reply hp ih =>
    intro before e after hes he
    cases before with
    | nil =>
      obtain ⟨rfl, rfl⟩ := List.cons.inj hes
      rw [(h.2 reply).1 he] at hp
      exact hp.of_done.1
    | cons first before =>
      obtain ⟨-, hes⟩ := List.cons.inj hes
      have ht : q.takes reply = false := by
        rw [Bool.eq_false_iff]
        intro ht
        rw [(h.2 reply).1 ht] at hp
        rw [hp.of_done.1] at hes
        simp at hes
      exact ih ((h.2 reply).2 ht) before e after hes he
  | enter _ ih => exact ih (h.enter hmay)

end Program

/-! ## Benches -/

namespace Bench

variable {α : Type}

inductive Serves : Bench → List Exchange → Bench → Prop
  | nil (b : Bench) : Serves b [] b
  | cons {b b' : Bench} {es : List Exchange} (q : Request) (h : Serves (b.answer q).2 es b') :
      Serves b (⟨q, (b.answer q).1⟩ :: es) b'

theorem proceeds_of_run {a : α} {b' : Bench} (fuel : Nat) {p : Program α} {b : Bench}
    (h : run fuel p b = some (a, b')) : ∃ es, p.Proceeds es (.done a) ∧ b.Serves es b' := by
  induction fuel generalizing p b with
  | zero => cases h
  | succ fuel ih =>
    cases p with
    | done a' =>
      rw [run, Option.some.injEq, Prod.mk.injEq] at h
      obtain ⟨rfl, rfl⟩ := h
      exact ⟨[], .refl _, .nil _⟩
    | ask q next =>
      obtain ⟨es, hp, hb⟩ := ih h
      exact ⟨_, .ask _ hp, .cons q hb⟩
    | loop l state next =>
      obtain ⟨es, hp, hb⟩ := ih h
      exact ⟨es, .enter hp, hb⟩

theorem run_of_proceeds {a : α} {p p' : Program α} {es : List Exchange} (hp : p.Proceeds es p') (ha : p' = .done a)
    {b b' : Bench} (hb : b.Serves es b') : ∃ fuel, run fuel p b = some (a, b') := by
  induction hp generalizing b with
  | refl p =>
    cases hb
    exact ⟨1, by rw [ha]; rfl⟩
  | ask reply hp ih =>
    cases hb with
    | cons q hb =>
      obtain ⟨fuel, h⟩ := ih ha hb
      exact ⟨fuel + 1, h⟩
  | enter hp ih =>
    obtain ⟨fuel, h⟩ := ih ha hb
    exact ⟨fuel + 1, h⟩

/-- **A run at a bench** is a course of the program under exchanges that the bench serves. -/
theorem run_eq_some_iff {a : α} {p : Program α} {b b' : Bench} :
    (∃ fuel, run fuel p b = some (a, b')) ↔ ∃ es, p.Proceeds es (.done a) ∧ b.Serves es b' := by
  constructor
  · rintro ⟨fuel, h⟩
    exact proceeds_of_run fuel h
  · rintro ⟨es, hp, hb⟩
    exact run_of_proceeds hp rfl hb

end Bench
end LineShell
