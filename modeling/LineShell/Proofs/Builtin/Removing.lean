import LineShell.Proofs.Builtin.Copied
import LineShell.Proofs.Builtin.Turns
import LineShell.Proofs.Files.Naming
/-!
# Removing — what `rm` takes away

Each name that `rm` is given has its turn in the files as those before it have left them (`Rm.turn`, `Rm.leads_run`).  A
turn takes the entry that the name stands for, and with `-r` what is below it, if what the name leads to is of the right
kind (`Rm.Takes`); and nothing that a turn takes from the files that are left would not have been taken from the files at
first (`Rm.Takes.of_thins`).  So a run takes nothing but what one of its names takes (`Rm.takes_of_gone`).  Nothing is
removed through a link that a name ends in; but a slash behind a link makes the name stand for the directory that the link
leads to, and then with `-r` what is in that directory is removed (`Rm.slash_behind_link`).
-/
namespace LineShell
namespace Rm

open Bench (Leads leads_tryFiles)

variable {path name : String} {recursive : Bool} {names : List String} {b b' : Bench} {fs fs' : Files}
  {gone : NodeId → Bytes → Prop} {p : Path} {dir id : NodeId} {n : Bytes}

/-! ## Turns -/

/-- **What one name comes to**: what there is to report, and the files that are left. -/
def turn (recursive : Bool) (full : Path) (fs : Files) : Option String × Files :=
  match fs.metadata .follow full with
  | .error f =>
    (some (if f.isNotFound then full.render ++ " is not a valid name in the file system" else f.message), fs)
  | .ok found =>
    match removal recursive full found.kind with
    | .error message => (some message, fs)
    | .ok request =>
      match fs.serve request with
      | (.ok _, left) => (none, left)
      | (.error f, left) => (some (full.render ++ " - " ++ f.message), left)

def turns (path : String) (recursive : Bool) : List String → Files → List String × Files
  | [], fs => ([], fs)
  | name :: rest, fs =>
    let (report, left) := turn recursive (Action.resolve path name) fs
    let (reports, last) := turns path recursive rest left
    (report.toList ++ reports, last)

theorem leads_check {β : Type} {f : Unit → Action β} {p : Action β} (hslot : b.slot ≠ .full) (h : Leads (f ()) b p b') :
    Leads (Action.check >>= f : Action β) b p b' := by
  refine .ask ?_
  rw [show b.answer .poll = (false, b) from Bench.replies_poll hslot]
  exact h

/-- **A turn at a bench** where no request to stop waits. -/
theorem leads_removeOne (hslot : b.slot ≠ .full) (path : String) (recursive : Bool) (name : String) :
    Leads (removeOne path recursive name) b (.done (.ok (turn recursive (Action.resolve path name) b.files).1))
      { b with files := (turn recursive (Action.resolve path name) b.files).2 } := by
  refine leads_check hslot (leads_tryFiles ?_)
  have hserve : b.files.serve (.metadata true (Action.resolve path name)) =
      (b.files.metadata .follow (Action.resolve path name), b.files) := rfl
  rw [hserve, turn]
  cases b.files.metadata .follow (Action.resolve path name) with
  | error f =>
    dsimp only
    split
    · exact .refl _ _
    · exact .refl _ _
  | ok found =>
    dsimp only
    cases removal recursive (Action.resolve path name) found.kind with
    | error message => exact .refl _ _
    | ok request =>
      refine leads_tryFiles ?_
      dsimp only
      rcases b.files.serve request with ⟨_ | _, left⟩
      · exact .refl _ _
      · exact .refl _ _

theorem leads_removeOne_full (hslot : b.slot = .full) (path : String) (recursive : Bool) (name : String) :
    Leads (removeOne path recursive name) b (.done (.error .stopped)) { b with slot := .empty } := by
  refine .ask ?_
  rw [Bench.answer_poll_full hslot]
  exact .refl _ _

theorem leads_eachOperand (hslot : b.slot ≠ .full) (path : String) (recursive : Bool) (names : List String) :
    Leads (Action.eachOperand (removeOne path recursive) names) b (.done (.ok (turns path recursive names b.files).1))
      { b with files := (turns path recursive names b.files).2 } := by
  induction names generalizing b with
  | nil => exact .refl _ _
  | cons name rest ih =>
    refine ((leads_removeOne hslot path recursive name).bind _).trans ?_
    have hrest := ih (b := { b with files := (turn recursive (Action.resolve path name) b.files).2 }) hslot
    exact (hrest.bind _).trans (.refl _ _)

theorem leads_run (hslot : b.slot ≠ .full) (path : String) (recursive : Bool) (hne : names ≠ []) :
    Leads (run path recursive names) b (.done (reported (turns path recursive names b.files).1))
      { b with files := (turns path recursive names b.files).2 } := by
  obtain ⟨name, rest, rfl⟩ := List.exists_cons_of_ne_nil hne
  refine ((leads_eachOperand hslot path recursive (name :: rest)).bind _).trans ?_
  show Leads (Action.report _) _ _ _
  rw [Action.report_eq]
  exact .refl _ _

/-- **A run comes to its end** at any bench, with the files untouched or as the names have left them. -/
theorem exists_leads_run (path : String) (recursive : Bool) (names : List String) (b : Bench) : ∃ result b',
    Leads (run path recursive names) b (.done result) b' ∧
      (b'.files = b.files ∨ b'.files = (turns path recursive names b.files).2) := by
  by_cases hne : names = []
  · subst hne
    exact ⟨_, b, .refl _ _, .inl rfl⟩
  by_cases hslot : b.slot = .full
  · obtain ⟨name, rest, rfl⟩ := List.exists_cons_of_ne_nil hne
    refine ⟨.error .stopped, { b with slot := .empty }, .ask ?_, .inl rfl⟩
    rw [Bench.answer_poll_full hslot]
    exact .refl _ _
  · exact ⟨_, _, leads_run hslot path recursive hne, .inr rfl⟩

/-- **A turn that has something to report** has changed nothing, unless the removal itself has failed. -/
theorem files_of_report {report : String} (h : (turn recursive p fs).1 = some report) : (turn recursive p fs).2 = fs ∨
    ∃ m request f, fs.metadata .follow p = .ok m ∧ removal recursive p m.kind = .ok request ∧
      fs.serve request = (.error f, (turn recursive p fs).2) ∧ report = p.render ++ " - " ++ f.message := by
  unfold turn at h ⊢
  split at h
  · exact .inl rfl
  next found hfound =>
  split at h
  · exact .inl rfl
  next request hrequest =>
  split at h
  · cases h
  next f left hserve =>
  cases h
  exact .inr ⟨found, request, f, hfound, hrequest, hserve, rfl⟩

/-! ## What a turn takes -/

/-- **A directory is below what a path stands for**: below the entry that the path names, which is not followed; or, where
the path ends in no name, since a slash or a `.` or `..` is behind it, below the directory that it leads to. -/
inductive Beneath (fs : Files) (p : Path) (dir : NodeId) : Prop
  | entry {holder id : NodeId} {n : Bytes} : p.EndsIn n → fs.Names p holder n id → fs.Within id dir → Beneath fs p dir
  | directory {trail : Trail} : (∀ n, ¬ p.EndsIn n) → fs.trailTo .keep p = .ok trail → fs.Within trail.node dir →
      Beneath fs p dir

/-- **An entry that `rm` takes for a path.**  What the path leads to has to be a directory with `-r`, and must not be one
without.  Then it takes the entry that the path names, and with `-r` all entries below what the path stands for. -/
def Takes (fs : Files) (recursive : Bool) (p : Path) (dir : NodeId) (n : Bytes) : Prop :=
  (∃ m, fs.metadata .follow p = .ok m ∧ (m.kind = .directory ↔ recursive = true)) ∧
    ((∃ id, fs.Names p dir n id ∧ (recursive = false → fs.isDirectory id = false)) ∨ recursive = true ∧ Beneath fs p dir)

theorem thins_turn (recursive : Bool) (p : Path) (fs : Files) : fs.Thins (Takes fs recursive p) (turn recursive p fs).2 := by
  unfold turn
  split
  · exact .refl _ fs
  next found hfound =>
  split
  · exact .refl _ fs
  next request hrequest =>
  have hleft : fs.Thins (Takes fs recursive p) (fs.serve request).2 := by
    unfold removal at hrequest
    split at hrequest
    · next hkind =>
      cases hrequest
      have hleads : found.kind = .directory ↔ true = true := by simpa using hkind
      refine (fs.thins_removeTree p).mono fun dir n hgone => ⟨⟨found, hfound, hleads⟩, ?_⟩
      -- What is emptied is the entry that the path names, unless the path ends in no name.
      rcases hgone with ⟨id, hnames⟩ | ⟨trail, htrail, hwithin⟩
      · exact .inl ⟨id, hnames, nofun⟩
      · refine .inr ⟨rfl, ?_⟩
        by_cases hend : ∃ n, p.EndsIn n
        · obtain ⟨n, hend⟩ := hend
          exact .entry hend (Files.names_of_endsIn hend htrail) hwithin
        · exact .directory (not_exists.1 hend) htrail hwithin
    · next hkind =>
      cases hrequest
      have hleads : found.kind = .directory ↔ false = true := by simpa using hkind
      refine (fs.thins_unlink p).mono fun dir n hgone => ⟨⟨found, hfound, hleads⟩, .inl ?_⟩
      obtain ⟨id, hnames, hdir⟩ := hgone
      exact ⟨id, hnames, fun _ => hdir⟩
    · cases hrequest
    · cases hrequest
  split
  · next hserve => rwa [hserve] at hleft
  · next hserve => rwa [hserve] at hleft

/-- **What is taken from the files that are left** would have been taken from the files before. -/
theorem Takes.of_thins (hthins : fs.Thins gone fs') (h : Takes fs' recursive p dir n) : Takes fs recursive p dir n := by
  have hextends := hthins.extends
  obtain ⟨⟨m, hm, hkind⟩, htakes⟩ := h
  obtain ⟨trail, node', htrail, hnode', rfl⟩ := Files.metadata_eq_ok_iff.1 hm
  have hsame := hthins.kind trail.node
  rw [hnode', Option.map_some] at hsame
  obtain ⟨node, hnode, hnodekind⟩ := Option.map_eq_some_iff.1 hsame.symm
  refine ⟨⟨node.metadata, Files.metadata_eq_ok_iff.2 ⟨trail, node, hextends.trailTo htrail, hnode, rfl⟩, ?_⟩, ?_⟩
  · rw [← hkind]
    show node.content.kind = .directory ↔ node'.content.kind = .directory
    rw [hnodekind]
  rcases htakes with ⟨id, hnames, hdir⟩ | ⟨hrecursive, hbelow⟩
  · exact .inl ⟨id, hextends.names hnames, fun hplain => (hthins.isDirectory id).symm.trans (hdir hplain)⟩
  · refine .inr ⟨hrecursive, ?_⟩
    cases hbelow with
    | entry hend hnames hwithin => exact .entry hend (hextends.names hnames) (hthins.within hwithin)
    | directory hend htrail hwithin => exact .directory hend (hextends.trailTo htrail) (hthins.within hwithin)

theorem thins_turns (path : String) (recursive : Bool) (names : List String) (fs : Files) :
    fs.Thins (fun dir n => ∃ name ∈ names, Takes fs recursive (Action.resolve path name) dir n)
      (turns path recursive names fs).2 := by
  induction names generalizing fs with
  | nil => exact .refl _ fs
  | cons name rest ih =>
    have hfirst := thins_turn recursive (Action.resolve path name) fs
    refine (hfirst.mono fun dir n htakes => ⟨name, List.mem_cons_self, htakes⟩).trans ((ih _).mono fun dir n hgone => ?_)
    obtain ⟨name', hmem, htakes⟩ := hgone
    exact ⟨name', List.mem_cons_of_mem _ hmem, htakes.of_thins hfirst⟩

/-- Below an entry that leads to a link there is nothing, so a name that ends in it takes it alone. -/
theorem Takes.of_link {holder i : NodeId} {last : Bytes} {target : Path} (h : Takes fs recursive p dir n)
    (hend : p.EndsIn last) (hnames : fs.Names p holder last id) (hlink : fs.link? id = some target)
    (hchild : fs.child? dir n = some i) : dir = holder ∧ n = last := by
  rcases h.2 with ⟨id', hnames', -⟩ | ⟨-, hbelow⟩
  · obtain ⟨rfl, rfl, -⟩ := hnames'.unique hnames
    exact ⟨rfl, rfl⟩
  have hnone := Files.entries?_of_link? hlink
  cases hbelow with
  | entry _ hnames' hwithin =>
    obtain ⟨-, -, rfl⟩ := hnames'.unique hnames
    rw [hwithin.eq_top hnone, Files.child?, hnone] at hchild
    cases hchild
  | directory hends => exact absurd hend (hends last)

/-- **`rm` takes nothing that it was not told to.**  A run of any names at any bench comes to its end, and nothing has
happened to the files but that they have lost entries which its names take from the files as they were at first.  So every
entry that none of them takes is there still; without `-r` every entry that leads to a directory is; and a name that ends in
a link takes that entry alone, so that what the link leads to is kept.  With `-r` a name that leads to no directory takes
nothing.  A name that has anything to report other than that the removal itself failed has changed nothing. -/
theorem takes_of_gone (path : String) (recursive : Bool) (names : List String) (b : Bench) : ∃ result b',
    Leads (run path recursive names) b (.done result) b' ∧
    b.files.Thins (fun dir n => ∃ name ∈ names, Takes b.files recursive (Action.resolve path name) dir n) b'.files ∧
    (∀ dir n id, b.files.child? dir n = some id →
      (∀ name ∈ names, ¬ Takes b.files recursive (Action.resolve path name) dir n) →
      b'.files.child? dir n = some id ∧ (b.files.isDirectory id = false → b'.files.node? id = b.files.node? id)) ∧
    (recursive = false → ∀ dir n id, b.files.child? dir n = some id → b.files.isDirectory id = true →
      b'.files.child? dir n = some id) ∧
    (∀ name ∈ names, ∀ holder last id target, (Action.resolve path name).EndsIn last →
      b.files.Names (Action.resolve path name) holder last id → b.files.link? id = some target →
      ∀ dir n i, b.files.child? dir n = some i → Takes b.files recursive (Action.resolve path name) dir n →
        dir = holder ∧ n = last) ∧
    (recursive = true → ∀ name ∈ names, ∀ m, b.files.metadata .follow (Action.resolve path name) = .ok m →
      m.kind ≠ .directory → ∀ dir n, ¬ Takes b.files recursive (Action.resolve path name) dir n) ∧
    (∀ name (c c' : Bench) report, Leads (removeOne path recursive name) c (.done (.ok (some report))) c' →
      c'.files = c.files ∨ ∃ m request f, c.files.metadata .follow (Action.resolve path name) = .ok m ∧
        removal recursive (Action.resolve path name) m.kind = .ok request ∧
        c.files.serve request = (.error f, c'.files) ∧
        report = (Action.resolve path name).render ++ " - " ++ f.message) := by
  obtain ⟨result, b', hleads, hfiles⟩ := exists_leads_run path recursive names b
  have hthins : b.files.Thins (fun dir n => ∃ name ∈ names, Takes b.files recursive (Action.resolve path name) dir n)
      b'.files := by
    rcases hfiles with hfiles | hfiles
    · rw [hfiles]
      exact .refl _ _
    · rw [hfiles]
      exact thins_turns path recursive names b.files
  refine ⟨result, b', hleads, hthins, fun dir n id hchild hstays => ⟨hthins.child? hchild ?_, fun hdir => ?_⟩,
    fun hplain dir n id hchild hdir => hthins.child? hchild ?_,
    fun name _ holder last id target hend hnames hlink dir n i hchild htakes => htakes.of_link hend hnames hlink hchild,
    fun hrecursive name _ m hm hkind dir n htakes => ?_, fun name c c' report hreport => ?_⟩
  · rintro ⟨name, hmem, htakes⟩
    exact hstays name hmem htakes
  · exact hthins.others id (by simpa [Files.isDirectory] using hdir)
  · rintro ⟨name, -, -, ⟨id', ⟨trail, slash, -, -, hchild'⟩, hplain'⟩ | ⟨hrecursive, -⟩⟩
    · rw [hchild] at hchild'
      cases hchild'
      rw [hplain' hplain] at hdir
      cases hdir
    · rw [hplain] at hrecursive
      cases hrecursive
  · obtain ⟨⟨m', hm', hkind'⟩, -⟩ := htakes
    rw [hm] at hm'
    cases hm'
    exact hkind (hkind'.2 hrecursive)
  · by_cases hslot : c.slot = .full
    · cases (hreport.unique (leads_removeOne_full hslot path recursive name)).1
    · obtain ⟨hresult, rfl⟩ := hreport.unique (leads_removeOne hslot path recursive name)
      exact files_of_report (Except.ok.inj hresult).symm

/-- A directory `d` with a file `f` in it, and beside it a link `l` to `d`. -/
def linked : Files where
  nodes := #[
    ⟨.directory [(Path.ofString "d", 1), (Path.ofString "l", 3)] false, Files.directoryMode, 0⟩,
    ⟨.directory [(Path.ofString "f", 2)] false, Files.directoryMode, 0⟩,
    ⟨.file (Bytes.ofString "x"), Files.fileMode, 0⟩,
    ⟨.link (Path.ofString "d"), Files.linkMode, 0⟩]

/-- **A slash behind a link makes `rm -r` empty what the link leads to**: the link is the entry that `l/` names, with nothing
below it, and the file in the directory that it leads to is gone, although to remove a link as a tree removes the link
alone. -/
theorem slash_behind_link :
    (∀ (fs : Files) (p : Path) (trail : Trail) (target : Path), fs.trailTo .keep p = .ok trail →
      fs.link? trail.node = some target → fs.removeTree p = fs.unlink p) ∧
    ∃ result b', Leads (run "/" true ["l/"]) { files := linked } (.done result) b' ∧
      (Action.resolve "/" "l/").components.getLast? = some (.name (Path.ofString "l")) ∧
      linked.Names (Action.resolve "/" "l/") 0 (Path.ofString "l") 3 ∧
      (∀ holder n id, linked.Names (Action.resolve "/" "l/") holder n id →
        ¬ (holder = 1 ∧ n = Path.ofString "f") ∧ ¬ linked.Within id 1) ∧
      linked.child? 1 (Path.ofString "f") = some 2 ∧ b'.files.child? 1 (Path.ofString "f") = none := by
  have hnames : linked.Names (Action.resolve "/" "l/") 0 (Path.ofString "l") 3 := ⟨[], true, rfl, rfl, rfl⟩
  have hleads := leads_run (b := { files := linked }) (by decide) "/" true (List.cons_ne_nil "l/" [])
  refine ⟨fun fs p trail target => Files.removeTree_of_link, _, _, hleads, rfl, hnames, fun holder n id h => ?_, rfl, rfl⟩
  obtain ⟨rfl, rfl, rfl⟩ := hnames.unique h
  exact ⟨fun hsame => absurd hsame.1 (by decide), fun hwithin => absurd (hwithin.eq_top rfl) (by decide)⟩

end Rm
end LineShell
