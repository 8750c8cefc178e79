import LineShell.Builtin.Catalogue
import LineShell.Files.Tree
import LineShell.Proofs.Command.Pending
/-!
# Pending — builtins that were asked to stop before they began

With a request to stop waiting a builtin does no more than look things up before it takes the request: what it would
change comes behind a checked point (`Builtin.spares_run_or_eq_cp`).  The exception is `cp`, which comes to its first
checked point in the copying and has made or emptied its target by then (`Cp.pends_run`).  So a call of any other builtin
leaves all files as they are, and one of `cp` leaves at most its target empty (`Builtin.files_of_pending`).
-/
namespace LineShell

open LineShell.Action (Spares Yields Pends spares_pure spares_fail spares_ite spares_tryFiles spares_ask spares_askOr
  spares_request spares_flush yields_check yields_print yields_copy yields_readAll)

namespace Action

/-! ## Operands -/

theorem spares_eachOperand {f : String → Action (Option String)} (hf : ∀ operand, Spares (f operand)) :
    ∀ operands, Spares (eachOperand f operands)
  | [] => spares_pure []
  | operand :: rest => (hf operand).bind fun _ => (spares_eachOperand hf rest).bind fun _ => spares_pure _

theorem spares_report : ∀ reports, Spares (report reports)
  | [] => spares_pure ()
  | _ :: _ => spares_fail _

theorem spares_forOperands {f : String → Action (Option String)} (hf : ∀ operand, Spares (f operand))
    (operands : List String) : Spares (forOperands operands f) :=
  (spares_eachOperand hf operands).bind spares_report

theorem spares_readFile (path name : String) : Spares (readFile path name) :=
  (spares_ask rfl).bind fun _ => ((yields_copy _ _).bind _).spares

theorem spares_withFile (path name label : String) {f : Bytes → Action Unit} (hf : ∀ data, Spares (f data)) :
    Spares (withFile path name label f) := by
  refine (spares_readFile path name).attempt_bind rfl fun result => ?_
  match result with
  | .ok data => exact (hf data).bind fun _ => spares_pure none
  | .error .stopped => exact spares_fail _
  | .error (.usage _) | .error (.fault _) | .error (.other _) => exact spares_pure _

/-- The paths that a copy or a move comes to belong to its two operands, and looking them up spares the files. -/
def Located (path : String) (files : List String) (fs : Files) (result : Except Failure (Path × Path)) (fs' : Files) :
    Prop :=
  fs' = fs ∧ ∀ places, result = .ok places →
    ∃ source target, files = [source, target] ∧ places = (resolve path source, resolve path target)

theorem pends_sourceAndTarget (path : String) (files : List String) (fs : Files) :
    Pends (Located path files fs) (sourceAndTarget path files) fs := by
  have hfail : ∀ e : Failure, Pends (Located path files fs) (fail e) fs := fun e => ⟨rfl, nofun⟩
  unfold sourceAndTarget
  split
  · rename_i source target
    dsimp only
    split
    · exact hfail _
    refine Pends.bind (spares_tryFiles rfl fs) (fun reply fs' hfs => ?_) (fun e fs' hfs => ⟨hfs, nofun⟩)
    subst hfs
    cases reply with
    | ok found =>
      dsimp only
      split
      · exact hfail _
      · exact ⟨rfl, fun places hplaces => ⟨source, target, rfl, (Except.ok.inj hplaces).symm⟩⟩
    | error f =>
      dsimp only
      split
      · exact hfail _
      · exact hfail _
  · exact hfail _

end Action

/-! ## Each builtin -/

theorem Pwd.spares_run (path : String) : Spares (Pwd.run path) := (yields_print path).spares

theorem Echo.spares_run (bare : Bool) (words : List String) : Spares (Echo.run bare words) := (yields_print _).spares

namespace Cd

theorem spares_toDirectory (candidate : Path) : Spares (toDirectory candidate) := by
  refine (spares_tryFiles rfl).bind fun reply => ?_
  cases reply with
  | ok found =>
    refine spares_ite _ ((spares_askOr rfl _).bind fun canonical => ?_) (spares_fail _)
    exact spares_request nofun nofun
  | error f => exact spares_ite _ (spares_fail _) (spares_fail _)

theorem spares_run (path : String) : ∀ targets, Spares (run path targets)
  | [] => spares_request nofun nofun
  | [_] => spares_ite _ (spares_request nofun nofun) (spares_toDirectory _)
  | _ :: _ :: _ => spares_fail _

end Cd

namespace Ls

theorem spares_lookUp (dir : NodeId) : ∀ entries, Spares (lookUp dir entries)
  | [] => spares_pure []
  | _ :: _ => (yields_check.bind _).spares

theorem spares_printEach : ∀ texts, Spares (printEach texts)
  | [] => spares_pure ()
  | text :: _ => ((yields_print text).bind _).spares

theorem spares_run (path : String) (long : Bool) (dir : Option String) : Spares (run path long dir) := by
  have hentries : ∀ dir, Spares (entries dir) := fun dir =>
    (spares_askOr rfl _).bind fun ⟨id, names⟩ => (spares_lookUp id names).bind fun _ => spares_pure _
  exact (hentries _).bind fun _ => spares_printEach _

end Ls

namespace Cat

theorem spares_printOne (path name : String) : Spares (printOne path name) := by
  refine (spares_tryFiles rfl).bind fun reply => ?_
  cases reply with
  | error f => exact spares_ite _ (spares_pure _) (spares_pure _)
  | ok id =>
    refine (yields_copy _ _).spares.attempt_bind rfl fun result => ?_
    match result with
    | .ok _ => exact spares_pure none
    | .error .stopped => exact spares_fail _
    | .error (.usage _) | .error (.fault _) | .error (.other _) => exact spares_pure _

theorem spares_run (path : String) : ∀ files, Spares (run path files)
  | [] => ((yields_copy _ _).bind _).spares
  | _ :: _ => Action.spares_forOperands (spares_printOne path) _

end Cat

theorem Wc.spares_run (path : String) : ∀ files, Spares (Wc.run path files)
  | [] => (yields_readAll.bind _).spares
  | _ :: _ => Action.spares_forOperands (fun name => Action.spares_withFile path name _ fun _ => (yields_print _).spares) _

namespace Grep

theorem spares_printLines (label : String) : ∀ lines, Spares (printLines label lines)
  | [] => spares_pure ()
  | _ :: _ => ((yields_print _).bind _).spares

theorem spares_run (path : String) (wholeWords ignoreCase : Bool) (pattern : String) (files : List String) :
    Spares (run path wholeWords ignoreCase pattern files) := by
  unfold run
  split
  · cases files with
    | nil => exact (yields_readAll.bind _).spares
    | cons =>
      exact Action.spares_forOperands
        (fun name => Action.spares_withFile path name _ fun _ => spares_printLines _ _) _
  · exact spares_fail _

end Grep

theorem Mv.spares_run (path : String) (files : List String) : Spares (Mv.run path files) := by
  have hlocated : Spares (Action.sourceAndTarget path files) :=
    fun fs => Program.Pends.mono (Action.pends_sourceAndTarget path files fs) fun _ _ h => h.1
  exact hlocated.bind fun ⟨_, _⟩ => (yields_check.bind _).spares

theorem Mkdir.spares_run (path : String) (names : List String) : Spares (Mkdir.run path names) :=
  spares_ite _ (spares_fail _) (Action.spares_forOperands (fun _ => (yields_check.bind _).spares) names)

theorem Rm.spares_run (path : String) (recursive : Bool) (names : List String) : Spares (Rm.run path recursive names) :=
  spares_ite _ (spares_fail _) (Action.spares_forOperands (fun _ => (yields_check.bind _).spares) names)

theorem Find.spares_run (path : String) (names : List String) : Spares (Find.run path names) :=
  spares_ite _ (spares_fail _) (Action.spares_forOperands (fun _ => (yields_check.bind _).spares) names)

theorem Ping.spares_run (targets : List String) : Spares (Ping.run targets) := by
  unfold Ping.run
  split
  · exact ((yields_print _).bind _).spares
  · exact spares_fail _

namespace Cp

/-- All files are as they were, or the target of two operands was made or emptied. -/
def Touches (path : String) (files : List String) (fs fs' : Files) : Prop :=
  fs' = fs ∨ ∃ source target, files = [source, target] ∧ fs' = (fs.create (Action.resolve path target)).2

/-- **A copy comes to its first checked point** when it has made or emptied its target. -/
theorem pends_run (path : String) (files : List String) (fs : Files) :
    Pends (fun _ fs' => Touches path files fs fs') (run path files) fs := by
  refine Pends.bind (Action.pends_sourceAndTarget path files fs) ?_ (fun e fs' h => .inl h.1)
  rintro places fs' ⟨rfl, hplaces⟩
  obtain ⟨source, target, rfl, rfl⟩ := hplaces places rfl
  refine Pends.bind (spares_askOr rfl _ fs') ?_ (fun e fs'' hfs => .inl hfs)
  rintro input fs'' rfl
  have htried : Pends (fun _ left => left = (fs''.create (Action.resolve path target)).2)
      (Action.tryFiles (.create (Action.resolve path target))) fs'' := by
    show (fs''.serve (.create (Action.resolve path target))).2 = _
    rfl
  have hcreate : Pends (fun _ left => left = (fs''.create (Action.resolve path target)).2)
      (Action.askOr (.create (Action.resolve path target)) ("cannot create " ++ (Action.resolve path target).render))
      fs'' := by
    refine htried.bind (fun reply left hleft => ?_) (fun _ _ hleft => hleft)
    cases reply with
    | ok id => exact hleft
    | error f => exact hleft
  have htouched : ∀ left, left = (fs''.create (Action.resolve path target)).2 →
      Touches path [source, target] fs'' left := fun left hleft => .inr ⟨source, target, rfl, hleft⟩
  refine Pends.bind hcreate ?_ (fun e left hleft => htouched left hleft)
  intro output left hleft
  have hcopied : Spares (do
      let _ ← Action.copy (.file input 0) (.file output 0)
      pure ()) := ((yields_copy _ _).bind _).spares
  refine Program.Pends.mono (hcopied left) fun _ left' hsame => ?_
  exact htouched left' (hsame.trans hleft)

end Cp

/-! ## All builtins -/

namespace Builtin

/-- **Every builtin but `cp`** looks for a request to stop before it changes anything. -/
theorem spares_run_or_eq_cp {b : Builtin} (hb : b ∈ all) :
    (∀ path operands, Spares (b.run path operands)) ∨ b = Cp.builtin := by
  simp only [all, List.mem_cons, List.not_mem_nil, or_false] at hb
  rcases hb with rfl | rfl | rfl | rfl | rfl | rfl | rfl | rfl | rfl | rfl | rfl | rfl | rfl
  · exact .inl fun path _ => Pwd.spares_run path
  · exact .inl fun path _ => Cd.spares_run path _
  · exact .inl fun path _ => Ls.spares_run path _ _
  · exact .inl fun path _ => Cat.spares_run path _
  · exact .inr rfl
  · exact .inl fun path _ => Mv.spares_run path _
  · exact .inl fun path _ => Mkdir.spares_run path _
  · exact .inl fun path _ => Rm.spares_run path _ _
  · exact .inl fun path _ => Find.spares_run path _
  · exact .inl fun _ _ => Ping.spares_run _
  · exact .inl fun _ _ => Echo.spares_run _ _
  · exact .inl fun path _ => Wc.spares_run path _
  · exact .inl fun path _ => Grep.spares_run path _ _ _ _

/-- What a call may leave of some files: all of them, or for `cp` all but its target. -/
def Leaves (b : Builtin) (call : Call) (fs fs' : Files) : Prop :=
  fs' = fs ∨ b = Cp.builtin ∧ ∃ operands, b.usage.read call.words = .ok operands ∧
    Cp.Touches call.path (operands.wordsOf "files") fs fs'

theorem pends_work {b : Builtin} (hb : b ∈ all) (call : Call) (fs : Files) :
    Pends (fun _ fs' => b.Leaves call fs fs') (b.work call) fs := by
  unfold work
  split
  · rename_i operands hread
    rcases spares_run_or_eq_cp hb with hspares | rfl
    · exact Program.Pends.mono (hspares call.path operands fs) fun _ _ hsame => .inl hsame
    · exact Program.Pends.mono (Cp.pends_run call.path (operands.wordsOf "files") fs)
        fun _ _ htouches => .inr ⟨rfl, operands, hread, htouches⟩
  · exact Program.Pends.mono ((yields_print _).spares fs) fun _ _ hsame => .inl hsame
  · exact .inl rfl

theorem pends_execute {b : Builtin} (hb : b ∈ all) (call : Call) (fs : Files) :
    Program.Pends (.failed .stopped) (fun _ fs' => b.Leaves call fs fs') (b.command.execute call) fs := by
  have haction : Pends (fun _ fs' => b.Leaves call fs fs') (b.action call) fs := by
    have hmove : Spares (Action.request (.moveTo call.path)) := spares_request nofun nofun
    refine Pends.bind (hmove fs) ?_ (fun _ _ hsame => .inl hsame)
    rintro _ fs' rfl
    refine Pends.bind (pends_work hb call fs') ?_ (fun _ _ hleaves => hleaves)
    intro _ left hleaves
    exact Program.Pends.mono (spares_flush left) fun _ _ hsame => hsame ▸ hleaves
  exact Program.Pends.bind haction rfl fun _ _ hleaves => hleaves

/-- **A builtin that was asked to stop before it began** ends and leaves all files as they are, whatever it results in;
only `cp`, called with two operands, may have made or emptied its target. -/
theorem files_of_pending {b : Builtin} (hb : b ∈ all) (call : Call) (bench : Bench) (hslot : bench.slot = .full) :
    ∃ outcome left, Bench.Settles (b.command.execute call) bench outcome left ∧
      (left.files = bench.files ∨ b = Cp.builtin ∧ ∃ operands source target,
        b.usage.read call.words = .ok operands ∧ operands.wordsOf "files" = [source, target] ∧
        left.files = (bench.files.create (Action.resolve call.path target)).2) := by
  obtain ⟨outcome, left, hsettles, hleaves⟩ := (pends_execute hb call bench.files).settles hslot
  refine ⟨outcome, left, hsettles, ?_⟩
  rcases hleaves with hsame | ⟨hcp, operands, hread, htouches⟩
  · exact .inl hsame
  rcases htouches with hsame | ⟨source, target, hoperands, hcreated⟩
  · exact .inl hsame
  · exact .inr ⟨hcp, operands, source, target, hread, hoperands, hcreated⟩

/-- `rm` does not remove what it was to remove. -/
theorem files_of_pending_rm :
    let bench : Bench := { slot := .full, files := Files.blank.plant (Path.ofString "/a") (.file (Bytes.ofString "A")) }
    ∃ outcome left, Bench.Settles (Rm.builtin.command.execute { path := "/", arguments := ["a"] }) bench outcome left ∧
      left.files = bench.files := by
  intro bench
  have hrm : Rm.builtin ∈ all := by simp [all]
  have hname : Rm.builtin ≠ Cp.builtin := fun h => absurd (congrArg Builtin.name h) (by decide)
  obtain ⟨outcome, left, hsettles, hfiles⟩ :=
    files_of_pending hrm { path := "/", arguments := ["a"] } bench rfl
  exact ⟨outcome, left, hsettles, hfiles.resolve_right fun h => hname h.1⟩

/-- **A request to stop that is pending does not keep all files as they are**: `cp` empties its target. -/
theorem not_files_of_pending : ¬ ∀ b ∈ all, ∀ (call : Call) (bench : Bench), bench.slot = .full →
    ∀ fuel outcome left, Bench.run fuel (b.command.execute call) bench = some (outcome, left) →
      left.files = bench.files := by
  intro h
  have hcp : Cp.builtin ∈ all := by simp [all]
  let bench : Bench :=
    { slot := .full
      files := (Files.blank.plant (Path.ofString "/a") (.file (Bytes.ofString "A"))).plant (Path.ofString "/b")
        (.file (Bytes.ofString "B")) }
  have hrun : (Bench.run 20 (Cp.builtin.command.execute { path := "/", arguments := ["a", "b"] }) bench).map
      (fun r => r.2.files.data? 2) = some (some []) := by
    decide +kernel
  have hbefore : bench.files.data? 2 = some (Bytes.ofString "B") := by decide +kernel
  obtain ⟨⟨outcome, left⟩, hsome, hempty⟩ := Option.map_eq_some_iff.1 hrun
  have hsame := h Cp.builtin hcp { path := "/", arguments := ["a", "b"] } bench rfl 20 outcome left hsome
  rw [hsame, hbefore] at hempty
  exact absurd hempty (by decide +kernel)

end Builtin
end LineShell
