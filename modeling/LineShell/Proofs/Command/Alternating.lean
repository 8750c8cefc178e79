import LineShell.Proofs.Command.Heeding
import Mathlib.Data.Bool.Count
import Mathlib.Data.List.Induction
/-!
# Alternating — requests to stop and the checks that report them

Whoever has a handle asks for a stop at any time; the owner of the slot looks into it, directly or at the checked points
of what it reads, writes and copies, until the slot is dropped.  `Signal.Step` is one step of either side, at whatever
reader and writer.  An accepted request is pending until a check reports it (`Pending`), and the slot says which is the
case (`Sound.step`).  So accepted requests and reported stops alternate (`alternates_of_fits`), and a check that reports
a stop is the end of its operation (`halted_of_runs`).
-/
namespace LineShell

/-- What the owner of a slot does by which it looks for a request to stop. -/
inductive Operation where
  | isRequested
  | check
  | read (limit : Nat)
  | write (data : Bytes)
  | copy (source : Source) (sink : Sink)
  | readAll

/-- A program asks nothing before it looks for a request to stop. -/
def Program.LooksFirst {α : Type} : Program α → Prop
  | done _ => True
  | ask q _ => q = .poll
  | loop l _ _ => l = .copy ∨ l = .gather

theorem Program.LooksFirst.enter {α : Type} {l : Loop} {state : l.State} {next : Except Failure l.Value → Program α}
    (h : (loop l state next).LooksFirst) : (Program.enter l state next).LooksFirst := by
  obtain rfl | rfl := h <;> rfl

namespace Operation

def Value : Operation → Type
  | isRequested => Bool
  | check => Unit
  | read _ => Bytes
  | write _ => Unit
  | copy _ _ => Nat × Sink
  | readAll => Bytes

def action : (o : Operation) → Action o.Value
  | isRequested => Action.request .poll
  | check => Action.check
  | read limit => Action.read limit
  | write data => Action.write data
  | copy source sink => Action.copy source sink
  | readAll => Action.readAll

def halted : (o : Operation) → Except Failure o.Value
  | isRequested => .ok true
  | check | read _ | write _ | copy _ _ | readAll => .error .stopped

/-- **An operation ends at once when it takes a request to stop.** -/
theorem heeds_action (o : Operation) : Program.Heeds Request.IsWork o.halted o.action := by
  cases o with
  | isRequested =>
    refine ⟨trivial, fun reply => ?_⟩
    cases reply with
    | true => exact ⟨fun _ => rfl, fun ht => absurd ht.symm Bool.false_ne_true⟩
    | false => exact ⟨fun ht => absurd ht Bool.false_ne_true, fun _ => by rintro ⟨⟩⟩
  | check => exact Action.heeds_check
  | read limit => exact Action.heeds_check.bind fun _ => (Action.heeds_loop .take _).bind fun _ => Action.heeds_pure _
  | write data => exact Action.heeds_write data
  | copy source sink => exact Action.heeds_copy source sink
  | readAll => exact Action.heeds_readAll

theorem looksFirst_action (o : Operation) : o.action.LooksFirst := by
  cases o with
  | copy => exact .inl rfl
  | readAll => exact .inr rfl
  | _ => rfl

end Operation

/-- A stop slot, what is at the other end of reads and writes, and the operation under way. -/
structure Signal (σ : Type) where
  slot : StopSlot := .empty
  world : σ
  work : Option ((o : Operation) × Program (Except Failure o.Value)) := none

namespace Signal

inductive Event where
  /-- A request is made through some handle. -/
  | requested (handle : Nat) (accepted : Bool)
  | began (o : Operation)
  | ended (o : Operation) (result : Except Failure o.Value)
  /-- A check, which may report a stop. -/
  | polled (stop : Bool)
  /-- A read, a write or whatever else is answered by the world. -/
  | served (e : Exchange)
  /-- A loop is entered. -/
  | entered
  | dropped

variable {σ : Type} {ans : σ → (q : Request) → q.Reply → σ → Prop}

/-- **One step at a slot**, whose owner does one operation at a time. -/
inductive Step (ans : σ → (q : Request) → q.Reply → σ → Prop) (s : Signal σ) : Event → Signal σ → Prop
  | request (handle : Nat) : Step ans s (.requested handle s.slot.request.1) { s with slot := s.slot.request.2 }
  | start (o : Operation) : s.work = none → s.slot ≠ .gone → Step ans s (.began o) { s with work := some ⟨o, o.action⟩ }
  | finish {o : Operation} {result : Except Failure o.Value} :
      s.work = some ⟨o, .done result⟩ → Step ans s (.ended o result) { s with work := none }
  | poll {o : Operation} {next : Bool → Program (Except Failure o.Value)} :
      s.work = some ⟨o, .ask .poll next⟩ →
      Step ans s (.polled s.slot.take.1) { s with slot := s.slot.take.2, work := some ⟨o, next s.slot.take.1⟩ }
  | serve {o : Operation} {q : Request} {next : q.Reply → Program (Except Failure o.Value)} {reply : q.Reply} {w : σ} :
      q ≠ .poll → s.work = some ⟨o, .ask q next⟩ → ans s.world q reply w →
      Step ans s (.served ⟨q, reply⟩) { s with world := w, work := some ⟨o, next reply⟩ }
  | enter {o : Operation} {l : Loop} {state : l.State}
      {next : Except Failure l.Value → Program (Except Failure o.Value)} :
      s.work = some ⟨o, .loop l state next⟩ → Step ans s .entered { s with work := some ⟨o, .enter l state next⟩ }
  | drop : s.work = none → Step ans s .dropped { s with slot := .gone }

inductive Runs (ans : σ → (q : Request) → q.Reply → σ → Prop) (s : Signal σ) : List Event → Signal σ → Prop
  | here : Runs ans s [] s
  | step {es : List Event} {e : Event} {t u : Signal σ} : Runs ans s es t → Step ans t e u → Runs ans s (es ++ [e]) u

variable {s t u : Signal σ} {e : Event} {es es' : List Event}

theorem split_of_concat {last : Event} {before after : List Event} (h : es ++ [last] = before ++ e :: after) :
    es = before ∧ last = e ∧ after = [] ∨ ∃ after', after = after' ++ [last] ∧ es = before ++ e :: after' := by
  rcases List.eq_nil_or_concat after with rfl | ⟨after', last', rfl⟩
  · obtain ⟨hes, hlast⟩ := List.append_inj' h rfl
    exact .inl ⟨hes, List.singleton_inj.1 hlast, rfl⟩
  · rw [List.concat_eq_append, ← List.cons_append, ← List.append_assoc] at h
    obtain ⟨hes, hlast⟩ := List.append_inj' h rfl
    exact .inr ⟨after', by rw [List.concat_eq_append, hlast], hes⟩

theorem Runs.split {all : List Event} (h : Runs ans s all u) (hall : all = es ++ e :: es') :
    ∃ t t', Runs ans s es t ∧ Step ans t e t' ∧ Runs ans t' es' u := by
  induction h generalizing es' with
  | here => simp at hall
  | step hrun hstep ih =>
    obtain ⟨rfl, rfl, rfl⟩ | ⟨es'', rfl, hall'⟩ := split_of_concat hall
    · exact ⟨_, _, hrun, hstep, .here⟩
    · obtain ⟨t, t', hbefore, hat, hafter⟩ := ih hall'
      exact ⟨t, t', hbefore, hat, hafter.step hstep⟩

/-! ## What happened since -/

/-- Something happened, and nothing of another kind has since. -/
def Since (P Q : Event → Prop) (es : List Event) : Prop :=
  ∃ before e after, es = before ++ e :: after ∧ P e ∧ ∀ e' ∈ after, ¬ Q e'

theorem since_concat {P Q : Event → Prop} : Since P Q (es ++ [e]) ↔ P e ∨ Since P Q es ∧ ¬ Q e := by
  constructor
  · rintro ⟨before, first, after, heq, hfirst, hafter⟩
    obtain ⟨rfl, rfl, rfl⟩ | ⟨after', rfl, rfl⟩ := split_of_concat heq
    · exact .inl hfirst
    · exact .inr ⟨⟨before, first, after', rfl, hfirst, fun e' he' => hafter e' (List.mem_append_left _ he')⟩,
        hafter e (List.mem_append_right _ (List.mem_singleton.2 rfl))⟩
  · rintro (hfirst | ⟨⟨before, first, after, rfl, hfirst, hafter⟩, hlast⟩)
    · exact ⟨es, e, [], rfl, hfirst, by simp⟩
    · refine ⟨before, first, after ++ [e], by simp, hfirst, ?_⟩
      simpa [or_imp, forall_and] using ⟨hafter, hlast⟩

/-- A request was accepted, and no check has reported a stop since. -/
def Pending : List Event → Prop := Since (fun e => ∃ handle, e = .requested handle true) (· = .polled true)

theorem pending_concat :
    Pending (es ++ [e]) ↔ (∃ handle, e = .requested handle true) ∨ Pending es ∧ e ≠ .polled true := since_concat

def Looked : List Event → Prop := Since (· = .polled false) (fun e => ∃ o, e = .began o)

theorem looked_concat : Looked (es ++ [e]) ↔ e = .polled false ∨ Looked es ∧ ¬ ∃ o, e = .began o := since_concat

def Records (es : List Event) : StopSlot → Prop
  | .empty => .dropped ∉ es ∧ ¬ Pending es
  | .full => .dropped ∉ es ∧ Pending es
  | .gone => .dropped ∈ es

/-- **What is answered** after some events: a request is accepted while the slot is there and nothing is pending, a
check reports what is pending, and nothing is read or written in an operation before a check. -/
def Event.Fits (before : List Event) : Event → Prop
  | requested _ accepted => accepted = true ↔ .dropped ∉ before ∧ ¬ Pending before
  | polled stop => stop = true ↔ Pending before
  | served _ => Looked before
  | _ => True

/-- An event that leaves the slot as it is: neither a request nor a check nor the end. -/
def Event.Passes : Event → Prop
  | requested _ _ | polled _ | dropped => False
  | _ => True

/-- The slot records what happened, and an operation under way will end when it takes a request. -/
structure Sound (es : List Event) (s : Signal σ) : Prop where
  slot : Records es s.slot
  alive : s.work.isSome → s.slot ≠ .gone
  heeds : ∀ o p, s.work = some ⟨o, p⟩ → p = .done o.halted ∨ p.Heeds Request.IsWork o.halted
  looks : ∀ o p, s.work = some ⟨o, p⟩ → p.LooksFirst ∨ Looked es

theorem Records.concat {slot : StopSlot} (h : Records es slot) (he : e.Passes) : Records (es ++ [e]) slot := by
  have hpending : Pending (es ++ [e]) ↔ Pending es := by cases e <;> simp_all [pending_concat, Event.Passes]
  have hdropped : .dropped ∈ es ++ [e] ↔ .dropped ∈ es := by cases e <;> simp_all [Event.Passes]
  cases slot <;> simpa only [Records, hpending, hdropped] using h

theorem Records.request {slot : StopSlot} (h : Records es slot) (handle : Nat) :
    (Event.requested handle slot.request.1).Fits es ∧
      Records (es ++ [.requested handle slot.request.1]) slot.request.2 := by
  cases slot <;> simp_all [Records, StopSlot.request, Event.Fits, pending_concat]

theorem Records.take {slot : StopSlot} (h : Records es slot) (halive : slot ≠ .gone) :
    (Event.polled slot.take.1).Fits es ∧ Records (es ++ [.polled slot.take.1]) slot.take.2 := by
  cases slot <;> simp_all [Records, StopSlot.take, Event.Fits, pending_concat]

/-- **A step is answered by the slot as what happened before says**, and the slot records the step. -/
theorem Sound.step (h : Sound es s) (hstep : Step ans s e t) : e.Fits es ∧ Sound (es ++ [e]) t := by
  have hlooks : (¬ ∃ o, e = .began o) → ∀ o p, s.work = some ⟨o, p⟩ → p.LooksFirst ∨ Looked (es ++ [e]) :=
    fun he o p hwork => (h.looks o p hwork).imp_right fun hl => looked_concat.2 (.inr ⟨hl, he⟩)
  cases hstep with
  | request handle =>
    obtain ⟨hfits, hrecords⟩ := h.slot.request handle
    refine ⟨hfits, hrecords, fun hwork => ?_, h.heeds, hlooks (by simp)⟩
    have halive := h.alive hwork
    show s.slot.request.2 ≠ .gone
    cases hslot : s.slot <;> simp_all [StopSlot.request]
  | start o hidle halive =>
    refine ⟨trivial, h.slot.concat trivial, fun _ => halive, ?_, ?_⟩
    · rintro o p ⟨⟩
      exact .inr o.heeds_action
    · rintro o p ⟨⟩
      exact .inl o.looksFirst_action
  | finish => exact ⟨trivial, h.slot.concat trivial, by simp, by simp, by simp⟩
  | @poll o next hwork =>
    have halive : s.slot ≠ .gone := h.alive (by simp [hwork])
    obtain ⟨hfits, hrecords⟩ := h.slot.take halive
    have hgone : s.slot.take.2 ≠ .gone := by cases hslot : s.slot <;> simp_all [StopSlot.take]
    obtain ⟨⟨⟩⟩ | hheeds := h.heeds o _ hwork
    refine ⟨hfits, hrecords, fun _ => hgone, ?_, ?_⟩
    · rintro o p ⟨⟩
      cases s.slot.take.1 with
      | true => exact .inl ((hheeds.2 true).1 rfl)
      | false => exact .inr ((hheeds.2 false).2 rfl)
    · rintro o p ⟨⟩
      cases s.slot.take.1 with
      | true => exact .inl ((hheeds.2 true).1 rfl ▸ trivial)
      | false => exact .inr (looked_concat.2 (.inl rfl))
  | @serve o q next reply w hq hwork hans =>
    have hlooked : Looked es := (h.looks o _ hwork).resolve_left hq
    obtain ⟨⟨⟩⟩ | hheeds := h.heeds o _ hwork
    refine ⟨hlooked, h.slot.concat trivial, fun _ => h.alive (by simp [hwork]), ?_, ?_⟩
    · rintro o p ⟨⟩
      exact .inr ((hheeds.2 reply).2 (Request.takes_of_ne hq reply))
    · exact fun _ _ _ => .inr (looked_concat.2 (.inr ⟨hlooked, by simp⟩))
  | @enter o l state next hwork =>
    obtain ⟨⟨⟩⟩ | hheeds := h.heeds o _ hwork
    refine ⟨trivial, h.slot.concat trivial, fun _ => h.alive (by simp [hwork]), ?_, ?_⟩
    · rintro o p ⟨⟩
      exact .inr (hheeds.enter fun _ => id)
    · rintro o p ⟨⟩
      exact (hlooks (by simp) o _ hwork).imp_left Program.LooksFirst.enter
  | drop hidle =>
    refine ⟨trivial, by simp [Records], fun hwork => ?_, h.heeds, hlooks (by simp)⟩
    simp [hidle] at hwork

theorem sound_of_runs {w : σ} (h : Runs ans { world := w } es s) :
    Sound es s ∧ ∀ before e after, es = before ++ e :: after → e.Fits before := by
  induction h with
  | here => exact ⟨⟨⟨List.not_mem_nil, by simp [Pending, Since]⟩, by simp, by simp, by simp⟩, by simp⟩
  | @step es e t u _ hstep ih =>
    obtain ⟨hfits, hsound⟩ := ih.1.step hstep
    refine ⟨hsound, fun before e' after heq => ?_⟩
    obtain ⟨rfl, rfl, rfl⟩ | ⟨after', rfl, heq'⟩ := split_of_concat heq
    · exact hfits
    · exact ih.2 before e' after' heq'

/-! ## Requests and reports -/

def marks (es : List Event) : List Bool :=
  es.filterMap fun
    | .requested _ true => some true
    | .polled true => some false
    | _ => none

/-- **Accepted requests and reported stops alternate**, the requests first, and at most one is not reported yet. -/
structure Alternates (es : List Event) : Prop where
  alternate : ∀ (i : Nat) (accepted : Bool), (marks es)[i]? = some accepted → (accepted = true ↔ i % 2 = 0)
  count : (marks es).count true = (marks es).count false ∧ ¬ Pending es ∨
    (marks es).count true = (marks es).count false + 1 ∧ Pending es

theorem Alternates.length_mod_two (h : Alternates es) : (marks es).length % 2 = 0 ↔ ¬ Pending es := by
  have hlength := List.count_true_add_count_false (marks es)
  rcases h.count with ⟨heq, hpending⟩ | ⟨heq, hpending⟩
  · exact iff_of_true (by omega) hpending
  · exact iff_of_false (by omega) (not_not_intro hpending)

theorem Alternates.concat_mark (accepted : Bool) (h : Alternates es)
    (hmark : marks (es ++ [e]) = marks es ++ [accepted])
    (hbefore : accepted = true ↔ ¬ Pending es) (hafter : Pending (es ++ [e]) ↔ accepted = true) :
    Alternates (es ++ [e]) where
  alternate i b hi := by
    rw [hmark, List.getElem?_append] at hi
    split at hi
    · exact h.alternate i b hi
    · obtain ⟨h0, rfl⟩ : i - (marks es).length = 0 ∧ accepted = b := by simpa [List.getElem?_singleton] using hi
      rw [hbefore, ← h.length_mod_two, show i = (marks es).length by omega]
  count := by
    rw [hmark, hafter]
    rcases h.count with ⟨heq, hpending⟩ | ⟨heq, hpending⟩
    · obtain rfl : accepted = true := hbefore.2 hpending
      exact .inr ⟨by simp [heq], rfl⟩
    · obtain rfl : accepted = false := Bool.eq_false_iff.2 fun ha => hbefore.1 ha hpending
      exact .inl ⟨by simp [heq], Bool.false_ne_true⟩

theorem Alternates.concat (h : Alternates es) (he : e.Fits es) : Alternates (es ++ [e]) := by
  by_cases hrequest : ∃ handle, e = .requested handle true
  · obtain ⟨handle, rfl⟩ := hrequest
    exact h.concat_mark true (by simp [marks]) (by simp [(he.1 rfl).2]) (by simp [pending_concat])
  · by_cases hpoll : e = .polled true
    · subst hpoll
      exact h.concat_mark false (by simp [marks]) (by simp [he.1 rfl]) (by simp [pending_concat])
    · -- Nothing is accepted and nothing reported.
      have hmark : marks (es ++ [e]) = marks es := by
        have hnone : marks [e] = [] := by
          unfold marks
          simp only [List.filterMap_cons]
          split <;> simp_all
        rw [marks, List.filterMap_append]
        exact (congrArg (marks es ++ ·) hnone).trans (List.append_nil _)
      have hpending : Pending (es ++ [e]) ↔ Pending es := by simp [pending_concat, hrequest, hpoll]
      exact ⟨by rw [hmark]; exact h.alternate, by rw [hmark, hpending]; exact h.count⟩

theorem alternates_of_fits (h : ∀ before e after, es = before ++ e :: after → e.Fits before) : Alternates es := by
  induction es using List.reverseRecOn with
  | nil => exact ⟨by simp [marks], .inl (by simp [marks, Pending, Since])⟩
  | append_singleton es e ih =>
    refine Alternates.concat (ih fun before e' after heq => ?_) (h es e [] rfl)
    exact h before e' (after ++ [e]) (by simp [heq])

/-! ## Operations that are stopped -/

theorem Runs.still {o : Operation} {result : Except Failure o.Value} (h : Runs ans s es t)
    (hs : s.work = some ⟨o, .done result⟩) (hes : ∀ o result, .ended o result ∉ es) :
    t.world = s.world ∧ t.work = some ⟨o, .done result⟩ := by
  induction h with
  | here => exact ⟨rfl, hs⟩
  | @step es e t u _ hstep ih =>
    obtain ⟨hworld, hwork⟩ := ih fun o result he => hes o result (List.mem_append_left _ he)
    cases hstep with
    | request => exact ⟨hworld, hwork⟩
    | finish => exact absurd (List.mem_append_right _ (List.mem_singleton.2 rfl)) (hes _ _)
    | start _ h | drop h => rw [hwork] at h; cases h
    | poll h | serve _ h | enter h => rw [hwork] at h; cases h

/-- **A check that reports a stop** ends the operation it is in: it leaves reader and writer where they are, and so does
all that comes until the operation has ended. -/
theorem halted_of_runs {w : σ} {before after : List Event}
    (h : Runs ans { world := w } (before ++ .polled true :: after) s) (hafter : ∀ o result, .ended o result ∉ after) :
    ∃ t o p, Runs ans { world := w } before t ∧ t.work = some ⟨o, p⟩ ∧
      s.world = t.world ∧ s.work = some ⟨o, .done o.halted⟩ := by
  obtain ⟨t, t', hbefore, hpoll, hrest⟩ := h.split rfl
  have hsound := (sound_of_runs hbefore).1
  generalize he : Event.polled true = e at hpoll
  cases hpoll with
  | @poll o next hwork =>
    have hstop : t.slot.take.1 = true := (Event.polled.inj he).symm
    obtain ⟨⟨⟩⟩ | hheeds := hsound.heeds o _ hwork
    have hnext : next t.slot.take.1 = .done o.halted := hstop ▸ (hheeds.2 true).1 rfl
    rw [hnext] at hrest
    obtain ⟨hworld, hdone⟩ := hrest.still rfl hafter
    exact ⟨t, o, _, hbefore, hwork, hworld, hdone⟩
  | _ => cases he

structure Protocol (ans : σ → (q : Request) → q.Reply → σ → Prop) (w : σ) (es : List Event) (s : Signal σ) : Prop where
  slot : Records es s.slot
  fits : ∀ before e after, es = before ++ e :: after → e.Fits before
  alternates : Alternates es
  /-- A check that reports a stop changes nothing but the slot, and until its operation has ended nothing else does. -/
  halts : ∀ before after, es = before ++ .polled true :: after → (∀ o result, .ended o result ∉ after) →
    ∃ t o p, Runs ans { world := w } before t ∧ t.work = some ⟨o, p⟩ ∧
      s.world = t.world ∧ s.work = some ⟨o, .done o.halted⟩

/-- **The protocol of a stop slot**, whoever asks for stops and whatever the owner reads, writes and copies.  The slot
holds the request that is pending; a request is accepted exactly while the slot is there and holds none, and a check
reports a stop exactly when one is pending; so requests that are accepted and stops that are reported alternate; and a
check that reports a stop ends its operation, which leaves reader and writer where the check found them. -/
theorem protocol_of_runs {w : σ} (h : Runs ans { world := w } es s) : Protocol ans w es s := by
  obtain ⟨hsound, hfits⟩ := sound_of_runs h
  refine ⟨hsound.slot, hfits, alternates_of_fits hfits, ?_⟩
  rintro before after rfl hafter
  exact halted_of_runs h hafter

/-- A writer that takes all it is given, and nothing else that answers. -/
def Takes (written : Bytes) : (q : Request) → q.Reply → Bytes → Prop
  | .write data, reply, after => reply = .ok data.length ∧ after = written ++ data
  | _, _, _ => False

/-- A byte is written; of two requests the first is accepted and the second is not, and the next write is stopped. -/
theorem protocol_of_two_handles :
    let es : List Event := [.began (.write [1]), .polled false, .entered, .served ⟨.write [1], .ok 1⟩, .entered,
      .ended (.write [1]) (.ok ()), .requested 0 true, .began (.write [2]), .requested 1 false, .polled true,
      .requested 1 true]
    let s : Signal Bytes := ⟨.full, [1], some ⟨.write [2], .done (.error .stopped)⟩⟩
    Runs Takes { world := [] } es s ∧ Protocol Takes [] es s := by
  intro es s
  have htakes : Takes [] (.write [1]) (.ok 1) [1] := ⟨rfl, rfl⟩
  have hwrote : Runs Takes { world := [] } [.began (.write [1]), .polled false, .entered,
      .served ⟨.write [1], .ok 1⟩, .entered, .ended (.write [1]) (.ok ())] { world := [1] } :=
    .step (.step (.step (.step (.step (.step .here (.start _ rfl (by decide))) (.poll rfl)) (.enter rfl))
      (.serve (by decide) rfl htakes)) (.enter rfl)) (.finish rfl)
  have hruns : Runs Takes { world := [] } es s :=
    .step (.step (.step (.step (.step hwrote (.request 0)) (.start _ rfl (by decide))) (.request 1)) (.poll rfl))
      (.request 1)
  exact ⟨hruns, protocol_of_runs hruns⟩

end Signal
end LineShell
