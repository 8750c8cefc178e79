import LineShell.Builtin.Copying
import LineShell.Files.Tree
import LineShell.Proofs.Command.Leading
import LineShell.Proofs.Command.Worlds
import LineShell.Proofs.Files.Lookups
import LineShell.Proofs.Flow.Textual
/-!
# Copied — a file under two names

Many paths may lead to one file, and `cp` and `mv` compare no more than how the two they are given are spelled.  Where two
spellings lead to one file, `cp` empties it and reports success; where the target is another file, it gets what the source
holds, and the source keeps it (`Cp.holds_of_ok`).  `mv` does to the tree what `rename` does, which changes what no file
holds (`rename_spares`), but may take a file its last name.
-/
namespace LineShell
namespace Files

variable {fs fs' : Files} {i k : NodeId} {d : Bytes} {p q : Path}

def SameFile (fs : Files) (p q : Path) : Prop :=
  ∃ i d, fs.openRead p = .ok i ∧ fs.openRead q = .ok i ∧ fs.data? i = some d

def LeadsToDevice (fs : Files) (p : Path) : Prop :=
  ∃ i, fs.openRead p = .ok i ∧ (fs.node? i).map Node.content = some .device

theorem metadata_of_openRead (h : fs.openRead p = .ok i) (hd : fs.data? i = some d) :
    ∃ m, fs.metadata .follow p = .ok m ∧ m.kind = .file := by
  obtain ⟨n, hn, hc⟩ := node?_of_data? hd
  obtain ⟨trail, hcheck, hres, rfl⟩ := openRead_eq_ok_iff.1 h
  refine ⟨n.metadata, ?_, congrArg Content.kind hc⟩
  have htrail : fs.trailTo .follow p = .ok trail := by
    rw [trailTo, lookup_eq_ok_iff.2 ⟨hcheck, hres⟩]
    rfl
  rw [metadata, htrail]
  dsimp only [Bind.bind, Except.bind]
  rw [hn]

theorem Extends.openRead (h : Extends fs fs') (hopen : fs.openRead p = .ok i) : fs'.openRead p = .ok i := by
  obtain ⟨trail, hcheck, hres, hnode⟩ := openRead_eq_ok_iff.1 hopen
  rw [← h.cwd] at hres
  exact openRead_eq_ok_iff.2 ⟨trail, hcheck, h.reaches hres, hnode⟩

/-! ## What moving a name does -/

theorem data?_setContent_directory {entries entries' : List (Bytes × NodeId)} {removed removed' : Bool} {mode : Nat}
    {modified : Int} (h : fs.node? i = some ⟨.directory entries removed, mode, modified⟩) (k : NodeId) :
    (fs.setContent i (.directory entries' removed')).data? k = fs.data? k := by
  rw [setContent, h]
  dsimp only
  rw [data?, data?, node?_setNode]
  by_cases hk : i = k
  · subst hk
    rw [if_pos ⟨rfl, (Array.getElem?_eq_some_iff.1 h).1⟩, h]
  · rw [if_neg (fun h => hk h.1)]

theorem data?_enter (fs : Files) (dir : NodeId) (name : Bytes) (id k : NodeId) :
    (fs.enter dir name id).data? k = fs.data? k := by
  rw [enter]
  split
  · next hdir => exact data?_setContent_directory hdir k
  · rfl

theorem data?_leave (fs : Files) (dir : NodeId) (name : Bytes) (k : NodeId) :
    (fs.leave dir name).data? k = fs.data? k := by
  rw [leave]
  split
  · next hdir => exact data?_setContent_directory hdir k
  · rfl

/-- **Moving a name changes what no file holds**, and nothing at all where it fails. -/
theorem rename_spares (fs : Files) (p q : Path) : (∀ k, (fs.rename p q).2.data? k = fs.data? k) ∧
    ∀ f, (fs.rename p q).1 = .error f → (fs.rename p q).2 = fs := by
  have hsame : ∀ reply : Except Fault Unit, (∀ k, fs.data? k = fs.data? k) ∧ ∀ f, reply = .error f → fs = fs :=
    fun _ => ⟨fun _ => rfl, fun _ _ => rfl⟩
  unfold rename
  split
  · exact hsame _
  · exact hsame _
  · split
    · exact hsame _
    split
    · exact hsame _
    split
    · exact hsame _
    split
    · exact hsame _
    split
    · split
      · exact hsame _
      · exact ⟨fun k => by rw [data?_enter, data?_leave], nofun⟩
    · split
      · exact hsame _
      split
      · exact hsame _
      · exact ⟨fun k => by rw [data?_enter, data?_leave, data?_leave], nofun⟩
  · exact hsame _

end Files

namespace Bench

variable {α : Type} {n : Nat} {p p' : Program α} {b b' : Bench} {q : FileRequest}

def Replies (b : Bench) (q : Request) (reply : q.Reply) (b' : Bench) : Prop := b.answer q = (reply, b')

theorem leads_of_comes (h : Program.Comes Replies n p b p' b') : Leads p b p' b' := by
  induction h with
  | refl => exact .refl _ _
  | @ask _ _ next reply _ _ _ _ ha _ ih =>
    refine .ask ?_
    rw [show _ = (reply, _) from ha]
    exact ih
  | enter _ ih => exact .enter ih

theorem replies_poll (h : b.slot ≠ .full) : Replies b .poll false b := by
  obtain ⟨reader, writer, slot, path, files, network⟩ := b
  cases slot with
  | full => exact absurd rfl h
  | empty | gone => rfl

theorem answer_poll_full (h : b.slot = .full) : b.answer .poll = (true, { b with slot := .empty }) := by
  show (b.slot.take.1, { b with slot := b.slot.take.2 }) = _
  rw [h]
  rfl

theorem replies_files {reply : Except Fault q.Answer} {fs : Files} (h : b.files.serve q = (reply, fs)) :
    Replies b (.files q) reply { b with files := fs } := by
  show ((b.files.serve q).1, { b with files := (b.files.serve q).2 }) = _
  rw [h]
  rfl

theorem comes_askOr {answer : q.Answer} {fs : Files} (h : b.files.serve q = (.ok answer, fs)) (message : String) :
    Program.Comes Replies 1 (Action.askOr q message) b (.done (.ok answer)) { b with files := fs } :=
  .ask (replies_files h) (.refl _ _)

theorem comes_askOr_error {f : Fault} {fs : Files} (h : b.files.serve q = (.error f, fs)) (message : String) :
    Program.Comes Replies 1 (Action.askOr q message) b (.done (.error (.other message))) { b with files := fs } :=
  .ask (replies_files h) (.refl _ _)

end Bench

open Program (Comes comes_andThen comes_andThen_error comes_check comes_copy comes_copy_end)
open Bench (Leads Replies leads_of_comes)

variable {path source target : String} {b b' : Bench} {i j : NodeId} {d : Bytes} {fs : Files}

namespace Action

theorem sourceAndTarget_same (h : (resolve path source).components = (resolve path target).components) :
    sourceAndTarget path [source, target] = fail (.other "Source and target file are the same") := by
  rw [sourceAndTarget]
  exact if_pos h

theorem comes_sourceAndTarget (h : (resolve path source).components ≠ (resolve path target).components)
    (hopen : b.files.openRead (resolve path source) = .ok i) (hd : b.files.data? i = some d) :
    Comes Replies 1 (sourceAndTarget path [source, target]) b (.done (.ok (resolve path source, resolve path target)))
      b := by
  obtain ⟨m, hm, hkind⟩ := Files.metadata_of_openRead hopen hd
  have hserve : b.files.serve (.metadata true (resolve path source)) = (.ok m, b.files) :=
    congrArg (fun reply => (reply, b.files)) hm
  have hdir : m.kind ≠ .directory := by
    rw [hkind]
    nofun
  rw [show sourceAndTarget path [source, target] = _ from if_neg h]
  refine comes_andThen (m := 0) (Program.comes_tryFiles (Bench.replies_files hserve)) ?_
  show Comes Replies 0 (if m.kind = .directory then _ else _ : Action (Path × Path)) b _ b
  rw [if_neg hdir]
  exact .refl _ _

end Action

namespace Cp

theorem comes_opened (h : (Action.resolve path source).components ≠ (Action.resolve path target).components)
    (hopen : b.files.openRead (Action.resolve path source) = .ok i) (hd : b.files.data? i = some d)
    (hcreate : b.files.create (Action.resolve path target) = (.ok j, fs)) :
    Comes Replies 3 (run path [source, target]) b
      (Action.copy (.file i 0) (.file j 0) >>= fun _ => pure () : Action Unit) { b with files := fs } := by
  have hread : b.files.serve (.openRead (Action.resolve path source)) = (.ok i, b.files) :=
    congrArg (fun reply => (reply, b.files)) hopen
  have hmade : b.files.serve (.create (Action.resolve path target)) = (.ok j, fs) := hcreate
  refine comes_andThen (m := 2) (Action.comes_sourceAndTarget h hopen hd) ?_
  refine comes_andThen (m := 1) (Bench.comes_askOr hread _) ?_
  exact comes_andThen (m := 0) (Bench.comes_askOr hmade _) (.refl _ _)

theorem comes_not_created (h : (Action.resolve path source).components ≠ (Action.resolve path target).components)
    (hopen : b.files.openRead (Action.resolve path source) = .ok i) (hd : b.files.data? i = some d) {f : Fault}
    (hcreate : b.files.create (Action.resolve path target) = (.error f, fs)) :
    Comes Replies 3 (run path [source, target]) b
      (.done (.error (.other ("cannot create " ++ (Action.resolve path target).render)))) { b with files := fs } := by
  have hread : b.files.serve (.openRead (Action.resolve path source)) = (.ok i, b.files) :=
    congrArg (fun reply => (reply, b.files)) hopen
  have hmade : b.files.serve (.create (Action.resolve path target)) = (.error f, fs) := hcreate
  refine comes_andThen (m := 2) (Action.comes_sourceAndTarget h hopen hd) ?_
  refine comes_andThen (m := 1) (Bench.comes_askOr hread _) ?_
  exact comes_andThen_error (Bench.comes_askOr_error hmade _)

/-! ## The copying itself -/

theorem leads_stopped (h : b.slot = .full) : Leads
    (Action.copy (.file i 0) (.file j 0) >>= fun _ => pure () : Action Unit) b (.done (.error .stopped))
    { b with slot := .empty } := by
  refine .enter ?_
  rw [Program.enter_copy]
  refine .ask ?_
  rw [Bench.answer_poll_full h]
  exact .refl _ _

theorem comes_copied_nothing (hslot : b.slot ≠ .full) (hd : b.files.data? i = some []) : Comes Replies 4
    (Action.copy (.file i 0) (.file j 0) >>= fun _ => pure () : Action Unit) b (.done (.ok ())) b := by
  have hread : b.files.serve (.readAt i 0 chunkSize) = (.ok [], b.files) :=
    congrArg (fun reply => (reply, b.files)) (Files.readAt_of_data? hd 0 chunkSize)
  have hgives : Program.Gives Replies b chunkSize [] b (.file i 0) := Bench.replies_files hread
  have hcopy : Comes Replies 4 (Action.copy (.file i 0) (.file j 0)) b (.done (.ok (0, .file j 0))) b :=
    comes_copy_end (α := Except Failure (Nat × Sink)) Program.done (Bench.replies_poll hslot) hgives
  exact comes_andThen (m := 0) hcopy (.refl _ _)

/-- How a bench is when some data have been copied to a file. -/
structure HasCopied (fs : Files) (j : NodeId) (taken : Bytes) (b : Bench) : Prop where
  slot : b.slot ≠ .full
  files : Files.Patches j fs b.files
  target : b.files.data? j = some taken

/-- **Another file gets all that the source holds.** -/
theorem comes_copied (hslot : b.slot ≠ .full) (hd : b.files.data? i = some d) (hj : b.files.data? j = some [])
    (hne : i ≠ j) : ∃ n b', Comes Replies n
      (Action.copy (.file i 0) (.file j 0) >>= fun _ => pure () : Action Unit) b (.done (.ok ())) b' ∧
      HasCopied b.files j d b' := by
  have hread : ∀ taken rest w, d = taken ++ rest → HasCopied b.files j taken w →
      w.files.serve (.readAt i taken.length chunkSize) = (.ok (rest.take chunkSize), w.files) := by
    intro taken rest w hsplit hw
    have hheld := (hw.files.data?_ne hne).trans hd
    refine congrArg (fun reply => (reply, w.files)) ((Files.readAt_of_data? hheld taken.length chunkSize).trans ?_)
    rw [hsplit, List.drop_left]
    rfl
  obtain ⟨n, moved, b', hcomes, hcopied⟩ := comes_copy Replies (α := Except Failure (Nat × Sink)) Program.done
    (W := HasCopied b.files j) d (.file i) (.file j) (fun _ _ => rfl) (fun _ _ => rfl)
    (fun taken rest w hsplit _ hw => by
      have hpoll := Bench.replies_poll hw.slot
      obtain ⟨fs', hwrite, hpatches, hdata⟩ := Files.writeAt_end hw.target (rest.take chunkSize)
      exact ⟨w, { w with files := fs' }, hpoll, Bench.replies_files (hread taken rest w hsplit hw), hpoll,
        Bench.replies_files hwrite, hw.slot, hw.files.trans hpatches, hdata⟩)
    (fun w hw => ⟨w, Bench.replies_poll hw.slot,
      Bench.replies_files (hread d [] w (List.append_nil d).symm hw), hw⟩)
    [] d 0 b rfl ⟨hslot, .refl _ _, hj⟩
  exact ⟨n, b', comes_andThen (m := 0) hcomes (.refl _ _), hcopied⟩

theorem leads_apart (hslot : b.slot ≠ .full)
    (h : (Action.resolve path source).components ≠ (Action.resolve path target).components)
    (hopen : b.files.openRead (Action.resolve path source) = .ok i) (hd : b.files.data? i = some d)
    (hcreate : b.files.create (Action.resolve path target) = (.ok j, fs)) (hextends : Files.Extends b.files fs)
    (htarget : fs.openRead (Action.resolve path target) = .ok j) (hj : fs.data? j = some [])
    (hi : fs.data? i = some d) (hne : i ≠ j) : ∃ b', Leads (run path [source, target]) b (.done (.ok ())) b' ∧
      b'.files.Holds (Action.resolve path source) d ∧ b'.files.Holds (Action.resolve path target) d := by
  obtain ⟨n, b', hcomes, hcopied⟩ := comes_copied (b := { b with files := fs }) hslot hi hj hne
  have halike := hcopied.files.alike
  refine ⟨b', (leads_of_comes (comes_opened h hopen hd hcreate)).trans (leads_of_comes hcomes), ⟨i, ?_, ?_⟩, ⟨j, ?_, ?_⟩⟩
  · rw [halike.openRead]
    exact hextends.openRead hopen
  · rw [hcopied.files.data?_ne hne]
    exact hi
  · rw [halike.openRead]
    exact htarget
  · exact hcopied.target

/-- **A copy of a regular file to itself** empties it, and then there is nothing to copy. -/
theorem leads_onto_itself (h : (Action.resolve path source).components ≠ (Action.resolve path target).components)
    (hopen : b.files.openRead (Action.resolve path source) = .ok i)
    (htarget : b.files.openRead (Action.resolve path target) = .ok i) (hd : b.files.data? i = some d) :
    ∃ b', Leads (run path [source, target]) b (.done (if b.slot = .full then .error .stopped else .ok ())) b' ∧
      b'.files = b.files.setContent i (.file []) := by
  have hopened := leads_of_comes (comes_opened h hopen hd (Files.create_of_openRead htarget hd))
  by_cases hslot : b.slot = .full
  · rw [if_pos hslot]
    exact ⟨_, hopened.trans (leads_stopped hslot), rfl⟩
  · rw [if_neg hslot]
    exact ⟨_, hopened.trans (leads_of_comes (comes_copied_nothing hslot (Files.data?_setContent hd []))), rfl⟩

/-- **What a copy of a regular file to no device leaves**: its content in both, or nothing where they are one. -/
theorem holds_of_ok (hs : b.files.Holds (Action.resolve path source) d)
    (hdevice : ¬ b.files.LeadsToDevice (Action.resolve path target))
    (h : Leads (run path [source, target]) b (.done (.ok ())) b') :
    b.files.SameFile (Action.resolve path source) (Action.resolve path target) ∧
        b'.files.Holds (Action.resolve path source) [] ∧ b'.files.Holds (Action.resolve path target) [] ∨
      ¬ b.files.SameFile (Action.resolve path source) (Action.resolve path target) ∧
        b'.files.Holds (Action.resolve path source) d ∧ b'.files.Holds (Action.resolve path target) d := by
  obtain ⟨i, hopen, hd⟩ := hs
  by_cases hspelled : (Action.resolve path source).components = (Action.resolve path target).components
  · rw [run, Action.sourceAndTarget_same hspelled] at h
    cases h.of_done.1
  rcases hcreate : b.files.create (Action.resolve path target) with ⟨f | j, fs⟩
  · cases (leads_of_comes (comes_not_created hspelled hopen hd hcreate)).unique h |>.1
  have hslot : b.slot ≠ .full := by
    intro hfull
    have hstops := (leads_of_comes (comes_opened hspelled hopen hd hcreate)).trans (leads_stopped hfull)
    cases (hstops.unique h).1
  rcases Files.create_cases hcreate with ⟨old, htarget, hold, rfl⟩ | ⟨htarget, hcontent, -⟩ |
    ⟨hnone, hnew, hextends, htarget, hj, hkept⟩
  case inl =>
    -- The target was there: it is the source, or another file.
    have hpatches := Files.patches_setContent hold []
    have hj := Files.data?_setContent hold []
    by_cases hij : i = j
    case pos =>
      subst hij
      obtain ⟨b'', hleads, hfiles⟩ := leads_onto_itself hspelled hopen htarget hd
      rw [if_neg hslot] at hleads
      obtain ⟨-, rfl⟩ := h.unique hleads
      refine .inl ⟨⟨i, d, hopen, htarget, hd⟩, ⟨i, ?_, ?_⟩, ⟨i, ?_, ?_⟩⟩
      · rw [hfiles, hpatches.alike.openRead, hopen]
      · rw [hfiles, hj]
      · rw [hfiles, hpatches.alike.openRead, htarget]
      · rw [hfiles, hj]
    case neg =>
      have hi := (hpatches.data?_ne hij).trans hd
      obtain ⟨b'', hleads, hholds⟩ := leads_apart hslot hspelled hopen hd hcreate hpatches.alike.extends
        ((hpatches.alike.openRead _).trans htarget) hj hi hij
      obtain ⟨-, rfl⟩ := h.unique hleads
      refine .inr ⟨?_, hholds⟩
      rintro ⟨k, -, hk, hk', -⟩
      rw [hopen] at hk
      rw [htarget] at hk'
      cases hk
      cases hk'
      exact hij rfl
  case inr.inl => exact absurd ⟨j, htarget, hcontent⟩ hdevice
  case inr.inr =>
    have hij : i ≠ j := by
      rintro rfl
      obtain ⟨n, hn, -⟩ := Files.node?_of_data? hd
      rw [hnew] at hn
      cases hn
    obtain ⟨b'', hleads, hholds⟩ := leads_apart hslot hspelled hopen hd hcreate hextends htarget hj (hkept i d hd) hij
    obtain ⟨-, rfl⟩ := h.unique hleads
    refine .inr ⟨?_, hholds⟩
    rintro ⟨k, -, -, hk, -⟩
    exact hnone k hk

end Cp

namespace Mv

/-- **A move of a regular file** fails and changes nothing, or gives its name away as `rename` does. -/
theorem leads_moved (h : (Action.resolve path source).components ≠ (Action.resolve path target).components)
    (hopen : b.files.openRead (Action.resolve path source) = .ok i) (hd : b.files.data? i = some d) :
    ∃ result b', Leads (run path [source, target]) b (.done result) b' ∧
      ((∃ e, result = .error e) ∧ b'.files = b.files ∨
        result = .ok () ∧
          b.files.rename (Action.resolve path source) (Action.resolve path target) = (.ok (), b'.files)) := by
  have hlocated := Action.comes_sourceAndTarget h hopen hd
  by_cases hslot : b.slot = .full
  · refine ⟨.error .stopped, { b with slot := .empty }, ?_, .inl ⟨⟨_, rfl⟩, rfl⟩⟩
    refine (leads_of_comes (comes_andThen (m := 0) hlocated (.refl _ _))).trans (.ask ?_)
    rw [Bench.answer_poll_full hslot]
    exact .refl _ _
  have hcheck : Comes Replies 1 Action.check b (.done (.ok ())) b := comes_check (Bench.replies_poll hslot)
  rcases hrename : b.files.rename (Action.resolve path source) (Action.resolve path target) with ⟨f | ⟨⟩, fs⟩
  · have hserve : b.files.serve (.rename (Action.resolve path source) (Action.resolve path target)) = (.error f, fs) :=
      hrename
    have hfails := comes_andThen_error (f := fun _ => (pure () : Action Unit)) (Bench.comes_askOr_error hserve
      ("cannot move " ++ (Action.resolve path source).render ++ " to " ++ (Action.resolve path target).render))
    have hspared := (Files.rename_spares b.files (Action.resolve path source) (Action.resolve path target)).2 f
      (by rw [hrename])
    rw [hrename] at hspared
    exact ⟨_, _, leads_of_comes (comes_andThen hlocated (comes_andThen hcheck hfails)), .inl ⟨⟨_, rfl⟩, hspared⟩⟩
  · have hserve : b.files.serve (.rename (Action.resolve path source) (Action.resolve path target)) = (.ok (), fs) :=
      hrename
    have hmoves := comes_andThen (m := 0) (f := fun _ => (pure () : Action Unit)) (Bench.comes_askOr hserve
      ("cannot move " ++ (Action.resolve path source).render ++ " to " ++ (Action.resolve path target).render))
      (.refl _ _)
    exact ⟨_, _, leads_of_comes (comes_andThen hlocated (comes_andThen hcheck hmoves)), .inr ⟨rfl, rfl⟩⟩

end Mv

namespace Copying

def refusal : Failure := .other "Source and target file are the same"

/-- **What becomes of a source.**  Of two operands that lead to one regular file, those that are spelled alike are refused;
else `cp` empties the file, and `mv` fails or moves the name of the source.  Where `cp` succeeds with a target that is no
device, source and target hold what the source held if they are two files, and nothing if they are one. -/
theorem fate_of_source (path source target : String) (b : Bench) :
    let s := Action.resolve path source
    let t := Action.resolve path target
    (∀ i d, b.files.openRead s = .ok i → b.files.openRead t = .ok i → b.files.data? i = some d →
      (s.components = t.components →
        Leads (Cp.run path [source, target]) b (.done (.error refusal)) b ∧
        Leads (Mv.run path [source, target]) b (.done (.error refusal)) b) ∧
      (s.components ≠ t.components →
        (∃ b', Leads (Cp.run path [source, target]) b (.done (if b.slot = .full then .error .stopped else .ok ())) b' ∧
          b'.files = b.files.setContent i (.file [])) ∧
        ∃ result b', Leads (Mv.run path [source, target]) b (.done result) b' ∧
          (∀ k, b'.files.data? k = b.files.data? k) ∧
          ((∃ e, result = .error e) ∧ b'.files = b.files ∨
            result = .ok () ∧ b.files.rename s t = (.ok (), b'.files)))) ∧
    ∀ d b', b.files.Holds s d → ¬ b.files.LeadsToDevice t → Leads (Cp.run path [source, target]) b (.done (.ok ())) b' →
      b.files.SameFile s t ∧ b'.files.Holds s [] ∧ b'.files.Holds t [] ∨
      ¬ b.files.SameFile s t ∧ b'.files.Holds s d ∧ b'.files.Holds t d := by
  intro s t
  refine ⟨fun i d hs ht hd => ⟨fun hspelled => ?_, fun hspelled => ⟨Cp.leads_onto_itself hspelled hs ht hd, ?_⟩⟩,
    fun d b' => Cp.holds_of_ok⟩
  · rw [Cp.run, Mv.run, Action.sourceAndTarget_same hspelled]
    exact ⟨.refl _ _, .refl _ _⟩
  · obtain ⟨result, b', hleads, hmoved⟩ := Mv.leads_moved hspelled hs hd
    refine ⟨result, b', hleads, fun k => ?_, hmoved⟩
    rcases hmoved with ⟨-, hfiles⟩ | ⟨-, hrename⟩
    · rw [hfiles]
    · have hspared := (Files.rename_spares b.files s t).1 k
      rwa [hrename] at hspared

/-- A file `a` that holds `A`, and a link `l` to it. -/
def linked : Files :=
  (Files.blank.plant (Path.ofString "/a") (.file (Bytes.ofString "A"))).plant (Path.ofString "/l")
    (.link (Path.ofString "a"))

theorem linked_leads : linked.openRead (Action.resolve "/" "a") = .ok 1 ∧
    linked.openRead (Action.resolve "/" "l") = .ok 1 ∧ linked.data? 1 = some (Bytes.ofString "A") := ⟨rfl, rfl, rfl⟩

theorem fate_of_source_linked :
    (∃ b', Leads (Cp.run "/" ["a", "l"]) { files := linked } (.done (.ok ())) b' ∧ b'.files.data? 1 = some []) ∧
    ∃ b', Leads (Cp.run "/" ["a", "b"]) { files := linked } (.done (.ok ())) b' ∧
      b'.files.Holds (Action.resolve "/" "a") (Bytes.ofString "A") ∧
      b'.files.Holds (Action.resolve "/" "b") (Bytes.ofString "A") := by
  obtain ⟨ha, hl, hd⟩ := linked_leads
  constructor
  · have hspelled : (Action.resolve "/" "a").components ≠ (Action.resolve "/" "l").components := by decide +kernel
    obtain ⟨b', hleads, hfiles⟩ := (((fate_of_source "/" "a" "l" { files := linked }).1 1 _ ha hl hd).2 hspelled).1
    refine ⟨b', hleads, ?_⟩
    rw [hfiles]
    exact Files.data?_setContent hd []
  · have hmissing : linked.openRead (Action.resolve "/" "b") = .error (.system .notFound) := rfl
    have hrun : (Bench.run 60 (Cp.run "/" ["a", "b"]) { files := linked }).map Prod.fst = some (.ok ()) := rfl
    obtain ⟨⟨result, b'⟩, hsome, rfl⟩ := Option.map_eq_some_iff.1 hrun
    have hleads := Bench.leads_done_iff.2 ⟨_, hsome⟩
    have hdevice : ¬ linked.LeadsToDevice (Action.resolve "/" "b") := by
      rintro ⟨i, hi, -⟩
      rw [hmissing] at hi
      cases hi
    rcases (fate_of_source "/" "a" "b" { files := linked }).2 _ b' ⟨1, ha, hd⟩ hdevice hleads with h | h
    · obtain ⟨⟨i, d, -, hi, -⟩, -⟩ := h
      rw [hmissing] at hi
      cases hi
    · exact ⟨b', hleads, h.2⟩

/-- **Neither `cp` nor `mv` sees that two names lead to one file**: each destroys a source that is its target's file. -/
theorem not_source_kept :
    (¬ ∀ (path source target : String) (b : Bench),
      b.files.SameFile (Action.resolve path source) (Action.resolve path target) →
      ∀ result b', Leads (Cp.run path [source, target]) b (.done result) b' →
        (∃ e, result = .error e) ∧ b'.files = b.files) ∧
    ¬ ∀ (path source target : String) (b : Bench),
      b.files.SameFile (Action.resolve path source) (Action.resolve path target) →
      ∀ result b', Leads (Mv.run path [source, target]) b (.done result) b' →
        (∃ e, result = .error e) ∧ b'.files = b.files := by
  obtain ⟨ha, hl, hd⟩ := linked_leads
  constructor
  · intro h
    have hrun : (Bench.run 20 (Cp.run "/" ["a", "l"]) { files := linked }).map Prod.fst = some (.ok ()) := rfl
    obtain ⟨⟨result, b'⟩, hsome, rfl⟩ := Option.map_eq_some_iff.1 hrun
    obtain ⟨⟨e, herror⟩, -⟩ := h "/" "a" "l" { files := linked } ⟨1, _, ha, hl, hd⟩ _ _
      (Bench.leads_done_iff.2 ⟨_, hsome⟩)
    cases herror
  · intro h
    have hrun : (Bench.run 20 (Mv.run "/" ["l", "a"]) { files := linked }).map Prod.fst = some (.ok ()) := rfl
    obtain ⟨⟨result, b'⟩, hsome, rfl⟩ := Option.map_eq_some_iff.1 hrun
    obtain ⟨⟨e, herror⟩, -⟩ := h "/" "l" "a" { files := linked } ⟨1, _, hl, ha, hd⟩ _ _
      (Bench.leads_done_iff.2 ⟨_, hsome⟩)
    cases herror

end Copying
end LineShell
