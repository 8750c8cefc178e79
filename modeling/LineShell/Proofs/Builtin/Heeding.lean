import LineShell.Builtin.Catalogue
import LineShell.Proofs.Command.Heeding
/-!
# Heeding — no builtin swallows a stop

Every builtin heeds stops: an operand's report never stands for a stop, and neither a loop nor a later operand goes on
after one.  So a run ends as stopped exactly when one of its checked points took a request, and it asks for nothing
more from there on.  All builtins but `cd` also leave their own path alone while they work (`Builtin.heeds_work`).
-/
namespace LineShell

open LineShell.Action (Heeds heeds_pure heeds_fail heeds_check heeds_ite heeds_tryFiles heeds_ask heeds_askOr heeds_print
  heeds_copy heeds_readAll heeds_flush heeds_asking heeds_loop)

namespace Action

/-! ## Operands -/

theorem heeds_eachOperand {f : String → Action (Option String)} (hf : ∀ operand, Heeds Request.IsWork (f operand)) :
    ∀ operands, Heeds Request.IsWork (eachOperand f operands)
  | [] => heeds_pure []
  | operand :: rest => (hf operand).bind fun _ => (heeds_eachOperand hf rest).bind fun _ => heeds_pure _

theorem heeds_report : ∀ reports, Heeds Request.IsWork (report reports)
  | [] => heeds_pure ()
  | _ :: _ => heeds_fail nofun

theorem heeds_forOperands {f : String → Action (Option String)} (hf : ∀ operand, Heeds Request.IsWork (f operand))
    (operands : List String) : Heeds Request.IsWork (forOperands operands f) :=
  (heeds_eachOperand hf operands).bind heeds_report

theorem heeds_readFile (path name : String) : Heeds Request.IsWork (readFile path name) := by
  refine (heeds_ask _).bind fun id => (heeds_copy _ _).bind fun ⟨_, sink⟩ => ?_
  cases sink with
  | memory held => exact heeds_pure held.bytes
  | output => exact heeds_pure []
  | file id offset => exact heeds_pure []

theorem heeds_withFile (path name label : String) {f : Bytes → Action Unit}
    (hf : ∀ data, Heeds Request.IsWork (f data)) : Heeds Request.IsWork (withFile path name label f) := by
  refine (heeds_readFile path name).attempt_bind rfl fun result hr => ?_
  match result with
  | .ok data => exact (hf data).bind fun _ => heeds_pure none
  | .error .stopped => exact absurd rfl hr
  | .error (.usage _) | .error (.fault _) | .error (.other _) => exact heeds_pure _

end Action

/-! ## Each builtin -/

theorem Pwd.heeds_run (path : String) : Heeds Request.IsWork (Pwd.run path) := heeds_print path

theorem Echo.heeds_run (bare : Bool) (words : List String) : Heeds Request.IsWork (Echo.run bare words) :=
  heeds_print _

namespace Cat

theorem heeds_printOne (path name : String) : Heeds Request.IsWork (printOne path name) := by
  refine (heeds_tryFiles _).bind fun reply => ?_
  cases reply with
  | error f => exact heeds_ite _ (heeds_pure _) (heeds_pure _)
  | ok id =>
    refine (heeds_copy _ _).attempt_bind rfl fun result hr => ?_
    match result with
    | .ok _ => exact heeds_pure none
    | .error .stopped => exact absurd rfl hr
    | .error (.usage _) | .error (.fault _) | .error (.other _) => exact heeds_pure _

theorem heeds_run (path : String) : ∀ files, Heeds Request.IsWork (run path files)
  | [] => (heeds_copy _ _).bind fun _ => heeds_pure ()
  | _ :: _ => Action.heeds_forOperands (heeds_printOne path) _

end Cat

theorem Wc.heeds_run (path : String) : ∀ files, Heeds Request.IsWork (Wc.run path files)
  | [] => heeds_readAll.bind fun _ => heeds_print _
  | _ :: _ => Action.heeds_forOperands (fun name => Action.heeds_withFile path name _ fun _ => heeds_print _) _

namespace Grep

theorem heeds_printLines (label : String) : ∀ lines, Heeds Request.IsWork (printLines label lines)
  | [] => heeds_pure ()
  | _ :: rest => (heeds_print _).bind fun _ => heeds_printLines label rest

theorem heeds_runWith (passes : List Char → Bool) (path : String) :
    ∀ files, Heeds Request.IsWork (runWith passes path files)
  | [] => heeds_readAll.bind fun _ => heeds_printLines _ _
  | _ :: _ =>
    Action.heeds_forOperands (fun name => Action.heeds_withFile path name _ fun _ => heeds_printLines _ _) _

theorem heeds_run (path : String) (wholeWords ignoreCase : Bool) (pattern : String) (files : List String) :
    Heeds Request.IsWork (run path wholeWords ignoreCase pattern files) := by
  unfold run
  split
  · exact heeds_runWith _ path files
  · exact heeds_fail nofun

end Grep

namespace Ls

theorem heeds_lookUp (dir : NodeId) : ∀ entries, Heeds Request.IsWork (lookUp dir entries)
  | [] => heeds_pure []
  | _ :: rest =>
    heeds_check.bind fun _ => (heeds_ask _).bind fun _ => (heeds_lookUp dir rest).bind fun _ => heeds_pure _

theorem heeds_entries (dir : Path) : Heeds Request.IsWork (entries dir) :=
  (heeds_askOr _ _).bind fun ⟨id, names⟩ => (heeds_lookUp id names).bind fun _ => heeds_pure _

theorem heeds_printEach : ∀ texts, Heeds Request.IsWork (printEach texts)
  | [] => heeds_pure ()
  | text :: rest => (heeds_print text).bind fun _ => heeds_printEach rest

theorem heeds_run (path : String) (long : Bool) (dir : Option String) : Heeds Request.IsWork (run path long dir) :=
  (heeds_entries _).bind fun _ => heeds_printEach _

end Ls

theorem Action.heeds_sourceAndTarget (path : String) (files : List String) :
    Heeds Request.IsWork (Action.sourceAndTarget path files) := by
  unfold Action.sourceAndTarget
  split
  · refine heeds_ite _ (heeds_fail nofun) ((heeds_tryFiles _).bind fun reply => ?_)
    cases reply with
    | ok found => exact heeds_ite _ (heeds_fail nofun) (heeds_pure _)
    | error f => exact heeds_ite _ (heeds_fail nofun) (heeds_fail nofun)
  · exact heeds_fail nofun

theorem Cp.heeds_run (path : String) (files : List String) : Heeds Request.IsWork (Cp.run path files) :=
  (Action.heeds_sourceAndTarget path files).bind fun ⟨_, _⟩ => (heeds_askOr _ _).bind fun _ =>
    (heeds_askOr _ _).bind fun _ => (heeds_copy _ _).bind fun _ => heeds_pure ()

theorem Mv.heeds_run (path : String) (files : List String) : Heeds Request.IsWork (Mv.run path files) :=
  (Action.heeds_sourceAndTarget path files).bind fun ⟨_, _⟩ => heeds_check.bind fun _ =>
    (heeds_askOr _ _).bind fun _ => heeds_pure ()

namespace Mkdir

theorem heeds_makeOne (path name : String) : Heeds Request.IsWork (makeOne path name) := by
  refine heeds_check.bind fun _ => (heeds_tryFiles _).bind fun found => ?_
  cases found with
  | ok _ => exact heeds_pure _
  | error f =>
    refine heeds_ite _ ((heeds_tryFiles _).bind fun made => ?_) (heeds_pure _)
    cases made with
    | ok _ => exact heeds_pure none
    | error f => exact heeds_pure _

theorem heeds_run (path : String) (names : List String) : Heeds Request.IsWork (run path names) :=
  heeds_ite _ (heeds_fail nofun) (Action.heeds_forOperands (heeds_makeOne path) names)

end Mkdir

namespace Rm

theorem heeds_removeOne (path : String) (recursive : Bool) (name : String) :
    Heeds Request.IsWork (removeOne path recursive name) := by
  refine heeds_check.bind fun _ => (heeds_tryFiles _).bind fun reply => ?_
  cases reply with
  | error f => exact heeds_ite _ (heeds_pure _) (heeds_pure _)
  | ok found =>
    dsimp only
    split
    · exact heeds_pure _
    · refine (heeds_tryFiles _).bind fun removed => ?_
      cases removed with
      | ok _ => exact heeds_pure none
      | error f => exact heeds_pure _

theorem heeds_run (path : String) (recursive : Bool) (names : List String) :
    Heeds Request.IsWork (run path recursive names) :=
  heeds_ite _ (heeds_fail nofun) (Action.heeds_forOperands (heeds_removeOne path recursive) names)

end Rm

namespace Find

theorem heeds_firstVisit (root : Path) : Heeds Request.IsWork (firstVisit root) := by
  refine (heeds_tryFiles _).bind fun reply => ?_
  cases reply with
  | error f => exact heeds_pure _
  | ok found =>
    refine heeds_ite _ ((heeds_tryFiles _).bind fun target => ?_) (heeds_pure _)
    cases target with
    | error f => exact heeds_pure _
    | ok target => exact heeds_pure _

theorem heeds_findOne (path name : String) : Heeds Request.IsWork (findOne path name) := by
  refine heeds_check.bind fun _ => (heeds_firstVisit _).bind fun first => (heeds_loop _ _).bind fun finding => ?_
  cases finding with
  | found _ | missing => exact (heeds_print _).bind fun _ => heeds_pure none
  | failed _ _ => exact heeds_pure _

theorem heeds_run (path : String) (names : List String) : Heeds Request.IsWork (run path names) :=
  heeds_ite _ (heeds_fail nofun) (Action.heeds_forOperands (heeds_findOne path) names)

end Find

namespace Ping

theorem heeds_attempts (target : Endpoint) : ∀ count, Heeds Request.IsWork (attempts target count)
  | 0 => heeds_pure []
  | count + 1 => by
    refine heeds_check.bind fun _ => Heeds.bind (heeds_asking trivial nofun heeds_pure) fun reply => ?_
    split
    · exact (heeds_print _).bind fun _ => (heeds_attempts target count).bind fun _ => heeds_pure _
    · exact (heeds_print _).bind fun _ => heeds_attempts target count
    · exact heeds_fail nofun

theorem heeds_summarize (target : Endpoint) (times : List Nat) : Heeds Request.IsWork (summarize target times) := by
  refine (heeds_print _).bind fun _ => ?_
  cases times with
  | nil => exact heeds_pure ()
  | cons first rest => exact heeds_print _

theorem heeds_reach (host : String) (port : Nat) : Heeds Request.IsWork (reach host port) := by
  refine (heeds_print _).bind fun _ => Heeds.bind (heeds_asking trivial nofun heeds_pure) fun reply => ?_
  match reply with
  | .ok (address :: _) =>
    exact (heeds_print _).bind fun _ => (heeds_attempts _ _).bind fun _ => heeds_summarize _ _
  | .ok [] | .error _ => exact (heeds_print _).bind fun _ => heeds_fail nofun

theorem heeds_run (targets : List String) : Heeds Request.IsWork (run targets) := by
  unfold run
  split
  · exact heeds_reach _ _
  · exact heeds_fail nofun

end Ping

namespace Cd

theorem heeds_toDirectory (candidate : Path) : Heeds (fun _ => True) (toDirectory candidate) := by
  refine (heeds_tryFiles _).free.bind fun reply => ?_
  cases reply with
  | ok found =>
    refine heeds_ite _ ((heeds_askOr _ _).free.bind fun canonical => ?_) (heeds_fail nofun)
    exact Program.heeds_ask trivial nofun heeds_pure
  | error f => exact heeds_ite _ (heeds_fail nofun) (heeds_fail nofun)

theorem heeds_run (path : String) : ∀ targets, Heeds (fun _ => True) (run path targets)
  | [] => Program.heeds_ask trivial nofun heeds_pure
  | [_] => heeds_ite _ (Program.heeds_ask trivial nofun heeds_pure) (heeds_toDirectory _)
  | _ :: _ :: _ => heeds_fail nofun

end Cd

/-! ## All builtins -/

namespace Builtin

/-- **Every builtin but `cd`** heeds stops and leaves its own path alone. -/
theorem heeds_run_or_eq_cd {b : Builtin} (hb : b ∈ all) :
    (∀ path operands, Heeds Request.IsWork (b.run path operands)) ∨ b = Cd.builtin := by
  simp only [all, List.mem_cons, List.not_mem_nil, or_false] at hb
  rcases hb with rfl | rfl | rfl | rfl | rfl | rfl | rfl | rfl | rfl | rfl | rfl | rfl | rfl
  · exact .inl fun path _ => Pwd.heeds_run path
  · exact .inr rfl
  · exact .inl fun path _ => Ls.heeds_run path _ _
  · exact .inl fun path _ => Cat.heeds_run path _
  · exact .inl fun path _ => Cp.heeds_run path _
  · exact .inl fun path _ => Mv.heeds_run path _
  · exact .inl fun path _ => Mkdir.heeds_run path _
  · exact .inl fun path _ => Rm.heeds_run path _ _
  · exact .inl fun path _ => Find.heeds_run path _
  · exact .inl fun _ _ => Ping.heeds_run _
  · exact .inl fun _ _ => Echo.heeds_run _ _
  · exact .inl fun path _ => Wc.heeds_run path _
  · exact .inl fun path _ => Grep.heeds_run path _ _ _ _

variable {may : Request → Prop}

theorem heeds_work_of_run (hmay : ∀ q, q.IsWork → may q) {b : Builtin}
    (hb : ∀ path operands, Heeds may (b.run path operands)) (call : Call) : Heeds may (b.work call) := by
  unfold work
  split
  · exact hb call.path _
  · exact (heeds_print _).mono hmay
  · exact heeds_fail nofun

theorem heeds_work {b : Builtin} (hb : b ∈ all) (call : Call) : Heeds (fun _ => True) (b.work call) := by
  refine heeds_work_of_run (fun _ _ => trivial) (fun path operands => ?_) call
  rcases heeds_run_or_eq_cd hb with hwork | rfl
  · exact (hwork path operands).free
  · exact Cd.heeds_run path _

/-- **Every builtin heeds stops.** -/
theorem heeds_execute {b : Builtin} (hb : b ∈ all) (call : Call) :
    Program.Heeds (fun _ => True) (.failed .stopped) (b.command.execute call) := by
  have haction : Heeds (fun _ => True) (b.action call) := by
    refine Heeds.bind (Program.heeds_ask trivial nofun heeds_pure) fun _ => ?_
    exact (heeds_work hb call).bind fun _ => heeds_flush.free
  refine Program.Heeds.bind haction rfl fun result hr => ?_
  match result with
  | .ok _ => exact nofun
  | .error e => exact fun he => hr (congrArg Except.error (Outcome.failed.inj he))

/-- **No builtin swallows a stop.**  Whatever its requests are answered with, a run has ended as stopped exactly when
one of the replies took a request to stop, and nothing is asked after that reply.  So a bench is left as it was when
the request was taken. -/
theorem stop_is_final {b : Builtin} (hb : b ∈ all) (call : Call) :
    (∀ es p, (b.command.execute call).Proceeds es p →
      (p = .done (.failed .stopped) ↔ ∃ e ∈ es, e.TakesStop) ∧
      ∀ (before : List Exchange) (e : Exchange) (after : List Exchange),
        es = before ++ e :: after → e.TakesStop → after = []) ∧
    ∀ bench bench', (∃ fuel, Bench.run fuel (b.command.execute call) bench = some (.failed .stopped, bench')) ↔
      ∃ before e p, (b.command.execute call).Proceeds (before ++ [e]) p ∧ bench.Serves (before ++ [e]) bench' ∧
        e.TakesStop := by
  have hheeds := heeds_execute hb call
  have hiff : ∀ es p, (b.command.execute call).Proceeds es p →
      (p = .done (.failed .stopped) ↔ ∃ e ∈ es, e.TakesStop) :=
    fun es p hp => hheeds.eq_done_iff (fun _ _ => trivial) hp
  have hlast : ∀ es p, (b.command.execute call).Proceeds es p → ∀ before e after,
      es = before ++ e :: after → e.TakesStop → after = [] :=
    fun es p hp => hheeds.after_eq_nil (fun _ _ => trivial) hp
  refine ⟨fun es p hp => ⟨hiff es p hp, hlast es p hp⟩, fun bench bench' => ?_⟩
  rw [Bench.run_eq_some_iff]
  constructor
  · rintro ⟨es, hp, hb⟩
    obtain ⟨e, he, htakes⟩ := (hiff es _ hp).1 rfl
    obtain ⟨before, after, rfl⟩ := List.append_of_mem he
    obtain rfl := hlast _ _ hp before e after rfl htakes
    exact ⟨before, e, _, hp, hb, htakes⟩
  · rintro ⟨before, e, p, hp, hb, htakes⟩
    have hstopped := (hiff _ p hp).2 ⟨e, List.mem_append_right before List.mem_cons_self, htakes⟩
    exact ⟨before ++ [e], hstopped ▸ hp, hb⟩

/-- A stop that comes with the second read keeps `cat` from writing what it read. -/
theorem stop_is_final_cat :
    let bench : Bench :=
      { reader := ⟨[.data (Bytes.ofString "ab"), .stop, .data (Bytes.ofString "cd"), .data (Bytes.ofString "ef")]⟩,
        files := .blank }
    let stopped : Bench :=
      { reader := ⟨[.data (Bytes.ofString "ef")]⟩, writer := { writes := 1, accepted := ⟨[Bytes.ofString "ab"]⟩ },
        path := "/", files := .blank }
    ∃ before e p, (Cat.builtin.command.execute { path := "/" }).Proceeds (before ++ [e]) p ∧
      bench.Serves (before ++ [e]) stopped ∧ e.TakesStop ∧ p = .done (.failed .stopped) := by
  intro bench stopped
  have hcat : Cat.builtin ∈ all := by simp [all]
  have hrun : Bench.run 20 (Cat.builtin.command.execute { path := "/" }) bench = some (.failed .stopped, stopped) := by
    rfl
  obtain ⟨before, e, p, hp, hb, htakes⟩ := ((stop_is_final hcat { path := "/" }).2 bench stopped).1 ⟨20, hrun⟩
  refine ⟨before, e, p, hp, hb, htakes, ?_⟩
  exact (((stop_is_final hcat { path := "/" }).1 _ p hp).1).2 ⟨e, by simp, htakes⟩

end Builtin
end LineShell
