import LineShell.Bench
/-!
# Pending — programs that run while a request to stop waits

`Program.Pends stop Q p fs` follows a program from some files up to where it takes the request that waits for it: there
it has to end with `stop`, and whether it gets there or ends before, `Q` has to hold of its result and the files.  The
loops it may enter are those that poll before anything else.  An action spares the files if it leaves them as they are
in this sense (`Action.Spares`), and it yields if it comes to a checked point in any case (`Action.Yields`): whatever
follows on an action that yields is not reached.

A bench whose slot is full runs a program to its end in this way (`Program.Pends.run`, `Program.Pends.of_run`).
-/
namespace LineShell

def Loop.PollsFirst : Loop → Prop
  | .copy | .gather => True
  | .take | .put | .search => False

namespace Program

variable {α β : Type}

/-- **A program that runs while a request to stop waits** ends with `stop` where it takes the request, and has `Q` for
its result and the files. -/
def Pends (stop : α) (Q : α → Files → Prop) : Program α → Files → Prop
  | done a, fs => Q a fs
  | ask .poll next, fs => next true = done stop ∧ Q stop fs
  | ask (.files q) next, fs => Pends stop Q (next (fs.serve q).1) (fs.serve q).2
  | ask _ next, fs => ∀ reply, Pends stop Q (next reply) fs
  | loop l _ next, fs => l.PollsFirst ∧ next (.error .stopped) = done stop ∧ Q stop fs

variable {stop : α} {Q : α → Files → Prop} {fs : Files}

theorem pends_ask {q : Request} {next : q.Reply → Program α} (hpoll : q ≠ .poll) (hfiles : ∀ fq, q ≠ .files fq)
    (h : ∀ reply, Pends stop Q (next reply) fs) : Pends stop Q (ask q next) fs := by
  cases q with
  | poll => exact absurd rfl hpoll
  | files fq => exact absurd rfl (hfiles fq)
  | _ => exact h

theorem Pends.reply {q : Request} {next : q.Reply → Program α} (h : Pends stop Q (ask q next) fs) (hpoll : q ≠ .poll)
    (hfiles : ∀ fq, q ≠ .files fq) (reply : q.Reply) : Pends stop Q (next reply) fs := by
  cases q with
  | poll => exact absurd rfl hpoll
  | files fq => exact absurd rfl (hfiles fq)
  | _ => exact h reply

theorem request_cases (q : Request) : q = .poll ∨ (∃ fq, q = .files fq) ∨ (q ≠ .poll ∧ ∀ fq, q ≠ .files fq) := by
  cases q with
  | poll => exact .inl rfl
  | files fq => exact .inr (.inl ⟨fq, rfl⟩)
  | _ => exact .inr (.inr ⟨nofun, nofun⟩)

theorem Pends.bind {stop' : β} {Q' : β → Files → Prop} {p : Program α} (h : Pends stop Q p fs) {f : α → Program β}
    (hstop : f stop = done stop') (hf : ∀ a fs', Q a fs' → Pends stop' Q' (f a) fs') :
    Pends stop' Q' (p.bind f) fs := by
  -- Where the request is taken, what follows is what follows on a stop.
  have htaken : ∀ fs', Q stop fs' → Q' stop' fs' := by
    intro fs' hQ
    have hdone := hf stop fs' hQ
    rwa [hstop] at hdone
  induction p generalizing fs with
  | done a => exact hf a fs h
  | ask q next ih =>
    rcases request_cases q with rfl | ⟨fq, rfl⟩ | ⟨hpoll, hfiles⟩
    · refine ⟨?_, htaken fs h.2⟩
      show (next true).bind f = done stop'
      rw [h.1, done_bind, hstop]
    · exact ih _ h
    · exact pends_ask hpoll hfiles fun reply => ih reply (h.reply hpoll hfiles reply)
  | loop l state next ih =>
    refine ⟨h.1, ?_, htaken fs h.2.2⟩
    show (next (.error .stopped)).bind f = done stop'
    rw [h.2.1, done_bind, hstop]

theorem Pends.mono {Q' : α → Files → Prop} {p : Program α} (h : Pends stop Q p fs) (hQ : ∀ a fs', Q a fs' → Q' a fs') :
    Pends stop Q' p fs := by
  have hdone : Pends stop Q' (p.bind done) fs := h.bind rfl hQ
  rwa [bind_done] at hdone

theorem enter_of_pollsFirst {l : Loop} (hl : l.PollsFirst) (state : l.State)
    (next : Except Failure l.Value → Program α) :
    ∃ go : Bool → Program α, enter l state next = ask .poll go ∧ go true = next (.error .stopped) := by
  cases l with
  | copy => exact ⟨_, rfl, rfl⟩
  | gather => exact ⟨_, rfl, rfl⟩
  | take | put | search => exact hl.elim

end Program

/-! ## Actions -/

namespace Action

variable {α β : Type} {Q : Except Failure α → Files → Prop} {Q' : Except Failure β → Files → Prop} {fs : Files}

def Pends (Q : Except Failure α → Files → Prop) (x : Action α) (fs : Files) : Prop :=
  Program.Pends (.error .stopped) Q x fs

/-- An action that leaves all files as they are while a request to stop waits. -/
def Spares (x : Action α) : Prop := ∀ fs, Pends (fun _ fs' => fs' = fs) x fs

/-- An action that takes the request to stop in any case, and leaves all files as they are before. -/
def Yields (x : Action α) : Prop := ∀ fs, Pends (fun result fs' => result = .error .stopped ∧ fs' = fs) x fs

theorem Pends.bind {x : Action α} (hx : Pends Q x fs) {f : α → Action β}
    (hf : ∀ a fs', Q (.ok a) fs' → Pends Q' (f a) fs')
    (herror : ∀ e fs', Q (.error e) fs' → Q' (.error e) fs') : Pends Q' (x >>= f) fs := by
  refine Program.Pends.bind hx rfl fun result fs' hQ => ?_
  match result with
  | .ok a => exact hf a fs' hQ
  | .error e => exact herror e fs' hQ

theorem spares_pure (a : α) : Spares (pure a : Action α) := fun _ => rfl

theorem spares_fail (f : Failure) : Spares (fail f : Action α) := fun _ => rfl

theorem Spares.bind {x : Action α} (hx : Spares x) {f : α → Action β} (hf : ∀ a, Spares (f a)) : Spares (x >>= f) := by
  intro fs
  refine Pends.bind (hx fs) (fun a fs' hfs => ?_) (fun _ _ hfs => hfs)
  subst hfs
  exact hf a fs'

theorem spares_ite (c : Prop) [Decidable c] {x y : Action α} (hx : Spares x) (hy : Spares y) :
    Spares (if c then x else y) := by
  split
  · exact hx
  · exact hy

/-- **What follows on an action that yields** is not reached. -/
theorem Yields.bind {x : Action α} (hx : Yields x) (f : α → Action β) : Yields (x >>= f) := by
  intro fs
  refine Pends.bind (hx fs) (fun a fs' h => ?_) (fun e fs' h => ?_)
  · exact absurd h.1 nofun
  · exact ⟨congrArg _ (Except.error.inj h.1), h.2⟩

theorem Yields.spares {x : Action α} (hx : Yields x) : Spares x := fun fs => Program.Pends.mono (hx fs) fun _ _ h => h.2

/-- **A failure that is caught** may be the stop, which has to be passed on. -/
theorem Spares.attempt_bind {x : Action α} (hx : Spares x) {f : Except Failure α → Action β}
    (hstop : f (.error .stopped) = fail .stopped) (hf : ∀ result, Spares (f result)) : Spares (attempt x >>= f) := by
  intro fs
  have heq : (attempt x >>= f : Action β) = Program.bind x f := Program.bind_assoc x _ _
  rw [heq]
  refine Program.Pends.bind (hx fs) hstop fun result fs' hfs => ?_
  subst hfs
  exact hf result fs'

theorem spares_request {q : Request} (hpoll : q ≠ .poll) (hfiles : ∀ fq, q ≠ .files fq) : Spares (request q) :=
  fun _ => Program.pends_ask hpoll hfiles fun _ => rfl

theorem spares_tryFiles {q : FileRequest} (hq : q.isReading = true) : Spares (tryFiles q) :=
  fun fs => fs.serve_of_isReading q hq

theorem spares_ask {q : FileRequest} (hq : q.isReading = true) : Spares (ask q) := by
  refine (spares_tryFiles hq).bind fun reply => ?_
  cases reply with
  | ok answer => exact spares_pure answer
  | error f => exact spares_fail _

theorem spares_askOr {q : FileRequest} (hq : q.isReading = true) (message : String) : Spares (askOr q message) := by
  refine (spares_tryFiles hq).bind fun reply => ?_
  cases reply with
  | ok answer => exact spares_pure answer
  | error f => exact spares_fail _

theorem spares_flush : Spares flush := by
  refine Spares.bind (x := request .flush) (spares_request nofun nofun) fun reply => ?_
  cases reply with
  | ok => exact spares_pure ()
  | error f => exact spares_fail _

theorem yields_check : Yields check := fun _ => ⟨rfl, rfl, rfl⟩

theorem yields_write (data : Bytes) : Yields (write data) := yields_check.bind _

theorem yields_print (text : String) : Yields (print text) := yields_write _

theorem yields_copy (source : Source) (sink : Sink) : Yields (copy source sink) := fun _ => ⟨trivial, rfl, rfl, rfl⟩

theorem yields_readAll : Yields readAll := fun _ => ⟨trivial, rfl, rfl, rfl⟩

end Action

/-! ## Benches -/

namespace Bench

theorem answer_of_full {b : Bench} (hslot : b.slot = .full) {q : Request} (hpoll : q ≠ .poll)
    (hfiles : ∀ fq, q ≠ .files fq) : (b.answer q).2.slot = .full ∧ (b.answer q).2.files = b.files := by
  have hrequest : ∀ (b' : Bench) (stop : Bool), b'.slot = .full →
      (b'.requestIf stop).slot = .full ∧ (b'.requestIf stop).files = b'.files := by
    intro b' stop hb'
    cases stop with
    | true => exact ⟨congrArg (fun s => s.request.2) hb', rfl⟩
    | false => exact ⟨hb', rfl⟩
  cases q with
  | poll => exact absurd rfl hpoll
  | files fq => exact absurd rfl (hfiles fq)
  | read limit => exact hrequest _ _ hslot
  | write data => exact hrequest _ _ hslot
  | _ => exact ⟨hslot, rfl⟩

variable {α : Type}

/-- **A run that ends**: it takes so many requests and turns, and waiting longer changes nothing. -/
def Settles (p : Program α) (b : Bench) (a : α) (b' : Bench) : Prop :=
  ∃ n, ∀ fuel, run fuel p b = if n ≤ fuel then some (a, b') else none

theorem settles_done (a : α) (b : Bench) : Settles (.done a) b a b := by
  refine ⟨1, fun fuel => ?_⟩
  cases fuel with
  | zero => rfl
  | succ fuel => exact (if_pos (Nat.le_add_left 1 fuel)).symm

theorem Settles.step {p p' : Program α} {b b₁ b' : Bench} {a : α} (h : Settles p' b₁ a b')
    (hzero : run 0 p b = none) (hstep : ∀ fuel, run (fuel + 1) p b = run fuel p' b₁) : Settles p b a b' := by
  obtain ⟨n, hn⟩ := h
  refine ⟨n + 1, fun fuel => ?_⟩
  cases fuel with
  | zero => rw [hzero, if_neg (Nat.not_succ_le_zero n)]
  | succ fuel => rw [hstep, hn]; simp only [Nat.add_le_add_iff_right]

theorem Settles.ask {q : Request} {next : q.Reply → Program α} {b b' : Bench} {a : α}
    (h : Settles (next (b.answer q).1) (b.answer q).2 a b') : Settles (.ask q next) b a b' :=
  h.step rfl fun _ => rfl

end Bench

namespace Program

open Bench (Settles)

variable {α : Type} {stop : α} {Q : α → Files → Prop}

theorem settles_poll {b : Bench} (hslot : b.slot = .full) {next : Bool → Program α} (hnext : next true = done stop) :
    Settles (ask .poll next) b stop { b with slot := .empty } := by
  have hanswer : b.answer .poll = (true, { b with slot := .empty }) := by
    show (b.slot.take.1, { b with slot := b.slot.take.2 }) = _
    rw [hslot]
    rfl
  refine Settles.ask ?_
  rw [hanswer, hnext]
  exact Bench.settles_done stop _

/-- **A run with a request to stop waiting ends**, and the program's requirement holds of its result and the files. -/
theorem Pends.settles {p : Program α} {b : Bench} (hslot : b.slot = .full) (h : Pends stop Q p b.files) :
    ∃ a b', Settles p b a b' ∧ Q a b'.files := by
  induction p generalizing b with
  | done a => exact ⟨a, b, Bench.settles_done a b, h⟩
  | ask q next ih =>
    rcases request_cases q with rfl | ⟨fq, rfl⟩ | ⟨hpoll, hfiles⟩
    · exact ⟨stop, _, settles_poll hslot h.1, h.2⟩
    · obtain ⟨a, b', hb', hQ⟩ := ih (b.answer (.files fq)).1 (b := (b.answer (.files fq)).2) hslot h
      exact ⟨a, b', hb'.ask, hQ⟩
    · obtain ⟨hfull, hsame⟩ := Bench.answer_of_full hslot hpoll hfiles
      obtain ⟨a, b', hb', hQ⟩ := ih (b.answer q).1 hfull (hsame ▸ h.reply hpoll hfiles (b.answer q).1)
      exact ⟨a, b', hb'.ask, hQ⟩
  | loop l state next ih =>
    obtain ⟨go, henter, hgo⟩ := enter_of_pollsFirst h.1 state next
    refine ⟨stop, _, (settles_poll hslot (hgo.trans h.2.1)).step rfl fun fuel => ?_, h.2.2⟩
    rw [← henter]
    rfl

end Program
end LineShell
