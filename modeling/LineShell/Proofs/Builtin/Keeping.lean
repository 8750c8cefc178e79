import LineShell.Proofs.Builtin.Arriving
import LineShell.Proofs.Session.Adoption
import LineShell.Proofs.Session.Following
/-!
# Keeping — where a command is that has failed

A builtin moves to the path that it is called with before it does anything else, and only `cd` moves again, as the last
thing that it does.  So a builtin that fails is where it was called (`Builtin.path_of_failed`), whatever its requests are
answered with, but for one way to fail: `cd` has moved already when its output is flushed, and stays where it has moved to
if that fails.  The console of a session is one in memory, which can always be flushed, so a session never follows a
command that has failed.
-/
namespace LineShell

open LineShell.Program (Proceeds)

variable {es : List Exchange}

theorem Program.Heeds.pathAfter_eq {α : Type} {p p' : Program α} {stop : α} (hp : p.Proceeds es p')
    (h : p.Heeds Request.IsWork stop) (own : String) : Exchange.pathAfter own es = own := by
  induction hp with
  | refl p => rfl
  | @ask q next es p' reply hp ih =>
    show Exchange.pathAfter (q.moved own) es = own
    rw [moved_of_isWork h.1]
    cases ht : q.takes reply with
    | true =>
      rw [(h.2 reply).1 ht] at hp
      rw [hp.of_done.1]
      rfl
    | false => exact ih ((h.2 reply).2 ht)
  | enter _ ih => exact ih (h.enter fun _ hq => hq)

namespace Bench

variable {b b' : Bench}

theorem path_requestIf (b : Bench) (stop : Bool) : (b.requestIf stop).path = b.path := by
  unfold requestIf
  split <;> rfl

theorem path_answer (b : Bench) (q : Request) : (b.answer q).2.path = q.moved b.path := by
  cases q with
  | read limit => exact path_requestIf ..
  | write data => exact path_requestIf ..
  | _ => rfl

theorem Serves.path_eq (h : b.Serves es b') : b'.path = Exchange.pathAfter b.path es := by
  induction h with
  | nil => rfl
  | @cons b b' es q _ ih =>
    rw [ih, path_answer]
    rfl

theorem Serves.flush_eq {reply : Except Fault Unit} (h : b.Serves (es ++ [⟨.flush, reply⟩]) b') :
    b'.writer.flush = reply := by
  induction es generalizing b with
  | nil =>
    cases h with
    | cons q hrest =>
      cases hrest
      rfl
  | cons e es ih =>
    cases h with
    | cons q hrest => exact ih hrest

end Bench

namespace Action

theorem flush_cases {result : Except Failure Unit} (h : Proceeds flush es (.done result)) :
    ∃ reply : Except Fault Unit, es = [⟨.flush, reply⟩] ∧ result = reply.mapError .fault := by
  obtain ⟨reply, rest, rfl, hrest⟩ := Program.Proceeds.ask_cases (q := .flush) h
  match reply with
  | .ok () =>
    obtain ⟨rfl, rfl⟩ := hrest.eq_of_done
    exact ⟨.ok (), rfl, rfl⟩
  | .error fault =>
    obtain ⟨rfl, rfl⟩ := hrest.eq_of_done
    exact ⟨.error fault, rfl, rfl⟩

end Action

namespace Cd

variable {path : String} {e : Failure} {own : String}

theorem pathAfter_toRoot_of_error (h : Proceeds (toRoot path) es (.done (.error e))) : Exchange.pathAfter own es = own := by
  obtain ⟨reply, rest, -, hrest⟩ := Program.Proceeds.ask_cases (q := .moveTo _) h
  cases hrest.eq_of_done.2

theorem pathAfter_toDirectory_of_error {candidate : Path} (h : Proceeds (toDirectory candidate) es (.done (.error e))) :
    Exchange.pathAfter own es = own := by
  obtain ⟨reply, rest, rfl, hrest⟩ := Action.tryFiles_cases h
  show Exchange.pathAfter own rest = own
  match reply with
  | .error f =>
    dsimp only at hrest
    split at hrest <;> rw [hrest.eq_of_done.1] <;> rfl
  | .ok found =>
    dsimp only at hrest
    split at hrest
    · rcases Action.bind_cases hrest with ⟨e', hask, -⟩ | ⟨front, back, canonical, -, -, hmove⟩
      · exact (Action.heeds_askOr _ _).pathAfter_eq hask own
      · obtain ⟨_, last, -, hlast⟩ := Program.Proceeds.ask_cases (q := .moveTo _) hmove
        cases hlast.eq_of_done.2
    · rw [hrest.eq_of_done.1]
      rfl

theorem pathAfter_of_error : ∀ {targets : List String}, Proceeds (run path targets) es (.done (.error e)) →
    Exchange.pathAfter own es = own
  | [], h => pathAfter_toRoot_of_error h
  | [target], h => by
    rw [run] at h
    by_cases hempty : target = ""
    · rw [if_pos hempty] at h
      exact pathAfter_toRoot_of_error h
    · rw [if_neg hempty] at h
      exact pathAfter_toDirectory_of_error h
  | _ :: _ :: _, h => by
    rw [h.eq_of_done.1]
    rfl

end Cd

namespace Builtin

variable {b : Builtin} {call : Call} {own : String}

/-- **Work that fails has not moved.** -/
theorem pathAfter_of_error (hb : b ∈ all) {e : Failure} (h : Proceeds (b.work call) es (.done (.error e))) :
    Exchange.pathAfter own es = own := by
  rcases heeds_run_or_eq_cd hb with hrun | rfl
  · exact (heeds_work_of_run (fun _ hq => hq) hrun call).pathAfter_eq h own
  unfold work at h
  split at h
  · exact Cd.pathAfter_of_error h
  · exact (Action.heeds_print _).pathAfter_eq h own
  · rw [h.eq_of_done.1]
    rfl

/-- **How a builtin comes to an end**: it moves to where it is called and works, and if that goes well its output is
flushed. -/
theorem execute_cases {outcome : Outcome} (h : (b.command.execute call).Proceeds es (.done outcome)) :
    (∃ e rest, es = ⟨.moveTo call.path, ()⟩ :: rest ∧ Proceeds (b.work call) rest (.done (.error e)) ∧
      outcome = .failed e) ∨
    ∃ front, ∃ reply : Except Fault Unit, es = ⟨.moveTo call.path, ()⟩ :: front ++ [⟨.flush, reply⟩] ∧
      Proceeds (b.work call) front (.done (.ok ())) ∧ outcome = .ofResult (reply.mapError .fault) := by
  obtain ⟨front, back, result, rfl, hfront, hback⟩ := Program.Proceeds.bind_cases (p := b.action call) h
  obtain ⟨rfl, rfl⟩ := hback.eq_of_done
  rw [List.append_nil]
  obtain ⟨reply, rest, rfl, hrest⟩ := Program.Proceeds.ask_cases (q := .moveTo call.path) hfront
  rcases Action.bind_cases (x := b.work call) (f := fun _ => Action.flush) hrest with
    ⟨e, hwork, rfl⟩ | ⟨front, back, _, rfl, hwork, hflush⟩
  · exact .inl ⟨e, rest, rfl, hwork, rfl⟩
  · obtain ⟨reply, rfl, rfl⟩ := Action.flush_cases hflush
    exact .inr ⟨front, reply, rfl, hwork, rfl⟩

theorem proceeds_execute {front : List Exchange} (h : Proceeds (b.work call) front (.done (.ok ()))) :
    (b.command.execute call).Proceeds (⟨.moveTo call.path, ()⟩ :: front ++ [⟨.flush, .ok ()⟩]) (.done .done) := by
  have hflush : Proceeds Action.flush [⟨.flush, .ok ()⟩] (.done (.ok ())) := .ask (q := .flush) _ (.refl _)
  have haction : Proceeds (b.action call) (⟨.moveTo call.path, ()⟩ :: (front ++ [⟨.flush, .ok ()⟩])) (.done (.ok ())) :=
    .ask (q := .moveTo call.path) _ (Action.proceeds_bind (x := b.work call) (f := fun _ => Action.flush) h hflush)
  have hend := haction.bind (f := fun result => .done (Outcome.ofResult result)) (.refl _)
  rwa [List.append_nil] at hend

def Unflushed (b : Builtin) (call : Call) (es : List Exchange) (f : Failure) : Prop :=
  b = Cd.builtin ∧ ∃ before fault, es = before ++ [⟨.flush, .error fault⟩] ∧ f = .fault fault ∧
    (b.command.execute call).Proceeds (before ++ [⟨.flush, .ok ()⟩]) (.done .done)

theorem pathAfter_of_failed (hb : b ∈ all) {f : Failure}
    (h : (b.command.execute call).Proceeds es (.done (.failed f))) :
    Exchange.pathAfter own es = call.path ∨ b.Unflushed call es f := by
  rcases execute_cases h with ⟨e, rest, rfl, hwork, -⟩ | ⟨front, reply, rfl, hwork, hout⟩
  · exact .inl (pathAfter_of_error hb hwork)
  match reply with
  | .ok () => cases hout
  | .error fault =>
    cases hout
    rcases heeds_run_or_eq_cd hb with hrun | rfl
    · left
      rw [Exchange.pathAfter_append]
      exact (heeds_work_of_run (fun _ hq => hq) hrun call).pathAfter_eq hwork call.path
    · exact .inr ⟨rfl, _, fault, rfl, rfl, proceeds_execute hwork⟩

theorem path_of_failed_run (hb : b ∈ all) {f : Failure} {bench bench' : Bench}
    (h : ∃ fuel, Bench.run fuel (b.command.execute call) bench = some (.failed f, bench')) :
    bench'.path = call.path ∨
      b = Cd.builtin ∧ ∃ fault, bench'.writer.flush = .error fault ∧ f = .fault fault := by
  obtain ⟨es, hp, hserves⟩ := Bench.run_eq_some_iff.1 h
  have hcases : Exchange.pathAfter bench.path es = call.path ∨ b.Unflushed call es f := pathAfter_of_failed hb hp
  rcases hcases with hpath | ⟨hcd, before, fault, rfl, rfl, -⟩
  · exact .inl (hserves.path_eq.trans hpath)
  · exact .inr ⟨hcd, fault, hserves.flush_eq, rfl⟩

theorem not_brokeDown {outcome : Outcome} (h : (b.command.execute call).Proceeds es (.done outcome)) :
    outcome ≠ .brokeDown := by
  rcases execute_cases h with ⟨e, -, -, -, rfl⟩ | ⟨-, reply, -, -, rfl⟩
  · nofun
  · cases reply <;> nofun

end Builtin

namespace Session

variable {s t : Session} {clauses : List Clause} {moves : List Move}

theorem status_of_completed {i : Nat} {status : Status} {path : String} {clause : Clause} {b : Builtin}
    (hb : b ∈ Builtin.all) (hc : clauses[i]? = some clause) (hl : s.registry.lookup clause.name = some b.command)
    (h : s.Completed clauses moves i status path) (hpath : path ≠ s.path) : status = ⟨.ok, clause.name, none⟩ := by
  obtain ⟨clause', command, streams, id, hc', -, hl', -, hface, before, after, u, -, hu, f, outcome, hf, hp, hstatus, rfl⟩ := h
  obtain rfl : clause = clause' := Option.some.inj (hc.symm.trans hc')
  obtain rfl : b.command = command := Option.some.inj (hl.symm.trans hl')
  obtain ⟨es, hes, hwhere, hflush⟩ := (Face.follows_of_running hp).1 (follows_of_play hface rfl rfl hu f hf)
  cases outcome with
  | done => exact Status.of_iff.1 hstatus
  | brokeDown => exact absurd rfl (Builtin.not_brokeDown hes)
  | failed e =>
    rcases Builtin.pathAfter_of_failed hb hes with hkept | ⟨-, before, fault, rfl, -, -⟩
    · exact absurd (hwhere.trans hkept) hpath
    · exact absurd ⟨fault, rfl⟩ (hflush _ (List.mem_append_right before List.mem_cons_self))

/-- **A session follows a `cd` that has nothing to report**, and no other command. -/
theorem follows_cd (hs : s.Lived) (hidle : s.current = none)
    (hbuiltins : ∀ command ∈ s.registry.commands, ∃ b ∈ Builtin.all, command = b.command)
    (h : (s.start clauses).play moves = some t) (hmoved : t.path ≠ s.path) :
    ∃ clause, clauses = [clause] ∧ clause.name = "cd" ∧ clause.background = false ∧
      (s.start clauses).Receives moves 0 ⟨.ok, "cd", none⟩ t.path := by
  have hne : clauses ≠ [] := by
    rintro rfl
    exact hmoved (idle_of_play (s := s.start []) hidle h).2
  obtain ⟨hunder, hover⟩ := path_of_play hs.dated hne h
  have hnone : t.current = none := by
    by_contra hunderway
    exact hmoved (hunder hunderway)
  obtain ⟨path, hadopts⟩ : ∃ path, s.Adopts clauses moves path := by
    by_contra hnot
    exact hmoved ((hover hnone).2 fun path hp => hnot ⟨path, hp⟩)
  obtain rfl := (hover hnone).1 path hadopts
  obtain ⟨clause, status, rfl, hfront, -, hrec⟩ := hadopts
  have hdone := completed_of_receives hs.dated hne hrec
  obtain ⟨clause', command, -, -, hc, -, hl, -⟩ := id hdone
  obtain rfl : clause = clause' := Option.some.inj hc
  obtain ⟨b, hb, rfl⟩ := hbuiltins command (List.mem_of_find?_eq_some hl)
  have hcd : clause.name = "cd" := by
    by_contra hcd
    exact hmoved (path_of_completed hb hc hl hcd hdone)
  have hstatus := status_of_completed hb hc hl hdone hmoved
  exact ⟨clause, rfl, hcd, hfront, hcd ▸ hstatus ▸ hrec⟩

end Session

namespace Builtin

/-- **A builtin that fails keeps the path it is called with**, whatever it fails with, whatever its requests are answered
with and whatever was its path before; but a `cd` that has moved and could not flush its output then stays where it has
moved to, and would have ended well there.  At a bench that takes a writer which cannot be flushed.  A session on a
console in memory, which can always be flushed, whose commands are builtins only ever moves where a single `cd` in the
foreground has reported that it ended well and without an error. -/
theorem keeps_path_of_failed {b : Builtin} (hb : b ∈ all) (call : Call) :
    (∀ (own : String) (es : List Exchange) (f : Failure),
      (b.command.execute call).Proceeds es (.done (.failed f)) →
        Exchange.pathAfter own es = call.path ∨ b.Unflushed call es f) ∧
    (∀ (bench bench' : Bench) (f : Failure),
      (∃ fuel, Bench.run fuel (b.command.execute call) bench = some (.failed f, bench')) →
        bench'.path = call.path ∨ b = Cd.builtin ∧ ∃ fault, bench'.writer.flush = .error fault ∧ f = .fault fault) ∧
    ∀ (s t : Session) (clauses : List Clause) (moves : List Move), s.Lived → s.current = none →
      (∀ command ∈ s.registry.commands, ∃ b ∈ all, command = b.command) →
      (s.start clauses).play moves = some t → t.path ≠ s.path →
        ∃ clause, clauses = [clause] ∧ clause.name = "cd" ∧ clause.background = false ∧
          (s.start clauses).Receives moves 0 ⟨.ok, "cd", none⟩ t.path :=
  ⟨fun _ _ _ h => pathAfter_of_failed hb h, fun _ _ _ h => path_of_failed_run hb h,
    fun _ _ _ _ hs hidle hbuiltins h hmoved => Session.follows_cd hs hidle hbuiltins h hmoved⟩

/-- `cd no` fails where it was called; a lone `cd` in a session, played to its end, has led to the root and has nothing to
report. -/
theorem keeps_path_of_failed_missing :
    (∃ f bench', Bench.run 20 (Cd.builtin.command.execute { path := "/", arguments := ["no"] }) { files := .blank } =
      some (.failed f, bench') ∧ bench'.path = "/") ∧
    ∃ t, (Session.home.start [{ name := "cd" }]).play
        ([.drive, .drive] ++ List.replicate 5 (.advance 0 0) ++ List.replicate 4 .drive) = some t ∧ t.path = "/" ∧
      (Session.home.start [{ name := "cd" }]).Receives
        ([.drive, .drive] ++ List.replicate 5 (.advance 0 0) ++ List.replicate 4 .drive) 0 ⟨.ok, "cd", none⟩ t.path := by
  have hcd : Cd.builtin ∈ all := by simp [all]
  obtain ⟨-, hbench, hsession⟩ := keeps_path_of_failed hcd { path := "/", arguments := ["no"] }
  constructor
  · obtain ⟨f, bench', hrun, hflush⟩ : ∃ f bench',
        Bench.run 20 (Cd.builtin.command.execute { path := "/", arguments := ["no"] }) { files := .blank } =
          some (.failed f, bench') ∧ bench'.writer.flush = .ok () := ⟨_, _, rfl, rfl⟩
    refine ⟨f, bench', hrun, ?_⟩
    rcases hbench _ bench' f ⟨20, hrun⟩ with hpath | ⟨-, fault, hfault, -⟩
    · exact hpath
    · cases hflush.symm.trans hfault
  · obtain ⟨t, ht, hpath⟩ : ∃ t, (Session.home.start [{ name := "cd" }]).play
        ([.drive, .drive] ++ List.replicate 5 (.advance 0 0) ++ List.replicate 4 .drive) = some t ∧ t.path = "/" :=
      ⟨_, rfl, rfl⟩
    have hbuiltins : ∀ command ∈ Session.home.registry.commands, ∃ b ∈ all, command = b.command := by
      have hcommands : Session.home.registry.commands = all.map command := rfl
      intro command hmem
      rw [hcommands, List.mem_map] at hmem
      obtain ⟨b, hb, rfl⟩ := hmem
      exact ⟨b, hb, rfl⟩
    have hmoved : t.path ≠ Session.home.path := by rw [hpath]; decide
    obtain ⟨-, -, -, -, hrec⟩ := hsession Session.home t _ _ (Session.Opened.lived ⟨rfl, rfl, rfl, rfl⟩) rfl hbuiltins ht hmoved
    exact ⟨t, ht, hpath, hrec⟩

/-- **A `cd` that cannot flush its output** fails and has moved. -/
theorem moves_unflushed :
    let bench : Bench := { files := Cd.nested, writer := { failFlush := true } }
    ∃ fault bench', Bench.run 20 (Cd.builtin.command.execute { path := "/", arguments := ["d"] }) bench =
      some (.failed (.fault fault), bench') ∧ bench'.path = "/d" := ⟨_, _, rfl, rfl⟩

end Builtin
end LineShell
