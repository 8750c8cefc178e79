import LineShell.Builtin.Paths
import LineShell.Proofs.Builtin.Copied
import LineShell.Proofs.Files.Ways
import LineShell.Proofs.Text.Decoding
/-!
# Arriving — where `cd` leaves a command

`cd` of a target ends well exactly if the target leads to a directory whose trail can be spelled in a path that is not too
long, and the path is then what is read of that spelling (`Cd.leads_ok_iff`).  Where the spelling is a text, the path leads
to that very directory (`Cd.path_of_ok`), and `cd` of one target after another comes to the same path as `cd` of both in one
(`Cd.path_of_two`).  A name on the trail that is no text is shown with replacements, and then the path may lead nowhere
(`Cd.lost_behind_link`).
-/
namespace LineShell

open Bench (Leads leads_of_comes leads_tryFiles)

/-! ## Paths that are texts -/

namespace Trail

theorem isText_path {t : Trail} (h : ∀ n ∈ t.names, n.IsText) : t.path.IsText := by
  have hslash : Bytes.IsText [Bytes.slash] := ⟨"/", rfl⟩
  have hall : ∀ ns : List Bytes, (∀ n ∈ ns, n.IsText) → Bytes.IsText (ns.flatMap fun n => Bytes.slash :: n) := by
    intro ns
    induction ns with
    | nil => exact fun _ => Bytes.isText_nil
    | cons n ns ih =>
      intro hns
      rw [List.flatMap_cons]
      exact (hslash.append (hns n List.mem_cons_self)).append (ih fun n hn => hns n (List.mem_cons_of_mem _ hn))
  rw [path]
  split
  · exact hslash
  · have hspelled := hall t.names h
    rwa [Trail.names, List.flatMap_map] at hspelled

end Trail

namespace Path

theorem isText_ofString (s : String) : Bytes.IsText (ofString s) := ⟨s, rfl⟩

theorem isText_join {base name : Path} (hbase : Bytes.IsText base) (hname : Bytes.IsText name) :
    Bytes.IsText (join base name) := by
  unfold join
  split
  · exact hname
  · split
    · exact hname
    · split
      · exact hbase.append hname
      · have hslash : Bytes.IsText [Bytes.slash] := ⟨"/", rfl⟩
        exact hbase.append (hslash.append hname)

theorem ofString_render {p : Path} : ofString p.render = p ↔ Bytes.IsText p := Bytes.isText_iff.symm

theorem ofString_ne_nil {s : String} (h : s ≠ "") : ofString s ≠ [] := fun hnil => h (Bytes.ofString_inj hnil)

theorem isAbsolute_render {p : Path} (h : p.isAbsolute) : (ofString p.render).isAbsolute := by
  obtain ⟨b, rest, rfl⟩ : ∃ b rest, p = b :: rest := List.exists_cons_of_ne_nil (by rintro rfl; cases h)
  obtain rfl : b = Bytes.slash := by simpa [isAbsolute] using h
  have hread : Utf8.decode (Bytes.slash :: rest) = '/' :: Utf8.decode rest := Utf8.decode_of_lt (by decide) [] rest
  rw [render, Bytes.toText, hread, ofString, Bytes.ofString, String.toList_ofList]
  rfl

end Path

namespace Cd

variable {b b' b₁ b₂ b₃ : Bench} {path target first second : String} {fs : Files} {candidate : Path}

/-! ## Where a run ends -/

/-- **Where `cd` of a path leads to**: the trail of a directory whose spelling can be looked up. -/
def Arrives (fs : Files) (candidate : Path) (trail : Trail) : Prop :=
  fs.trailTo .follow candidate = .ok trail ∧ fs.isDirectory trail.node = true ∧ trail.path.length ≤ Path.maxPath

theorem isDirectory_iff {id : NodeId} {node : Node} (h : fs.node? id = some node) :
    fs.isDirectory id = true ↔ node.metadata.kind = .directory := by
  obtain ⟨content, mode, modified⟩ := node
  rw [Files.isDirectory, Files.entries?, h]
  cases content with
  | directory => exact iff_of_true rfl rfl
  | file | link | device => exact iff_of_false Bool.false_ne_true (by rintro ⟨⟩)

theorem Arrives.metadata {trail : Trail} (h : Arrives fs candidate trail) :
    ∃ found, fs.metadata .follow candidate = .ok found ∧ found.kind = .directory := by
  obtain ⟨htrail, hdir, -⟩ := h
  obtain ⟨entries, hes⟩ := Option.isSome_iff_exists.1 hdir
  obtain ⟨removed, mode, modified, hnode⟩ := Files.entries?_eq_some_iff.1 hes
  exact ⟨_, Files.metadata_eq_ok_iff.2 ⟨trail, _, htrail, hnode, rfl⟩, rfl⟩

theorem Arrives.canonical {trail : Trail} (h : Arrives fs candidate trail) :
    fs.canonical candidate = .ok trail.path :=
  Files.canonical_eq_ok_iff.2 ⟨trail, h.1, h.2.2, rfl⟩

theorem leads_of_no_metadata {f : Fault} (hm : b.files.metadata .follow candidate = .error f) :
    ∃ e, Leads (toDirectory candidate) b (.done (.error e)) b := by
  have hserve : b.files.serve (.metadata true candidate) = (.error f, b.files) := Prod.ext hm rfl
  by_cases hmissing : f.isNotFound = true
  · refine ⟨.other (candidate.render ++ " - path does not exist"), leads_tryFiles ?_⟩
    rw [hserve]
    dsimp only
    rw [if_pos hmissing]
    exact .refl _ _
  · refine ⟨.fault f, leads_tryFiles ?_⟩
    rw [hserve]
    dsimp only
    rw [if_neg hmissing]
    exact .refl _ _

theorem leads_of_no_directory {found : Metadata} (hm : b.files.metadata .follow candidate = .ok found)
    (hkind : found.kind ≠ .directory) : ∃ e, Leads (toDirectory candidate) b (.done (.error e)) b := by
  have hserve : b.files.serve (.metadata true candidate) = (.ok found, b.files) := Prod.ext hm rfl
  refine ⟨.other (candidate.render ++ " - path leads to file, not directory"), leads_tryFiles ?_⟩
  rw [hserve]
  dsimp only
  rw [if_neg hkind]
  exact .refl _ _

theorem leads_of_directory {found : Metadata} (hm : b.files.metadata .follow candidate = .ok found)
    (hkind : found.kind = .directory) :
    (∀ p, b.files.canonical candidate = .ok p →
      Leads (toDirectory candidate) b (.done (.ok ())) { b with path := p.render }) ∧
    (∀ f, b.files.canonical candidate = .error f →
      ∃ e, Leads (toDirectory candidate) b (.done (.error e)) b) := by
  have hserve : b.files.serve (.metadata true candidate) = (.ok found, b.files) := Prod.ext hm rfl
  refine ⟨fun p hp => leads_tryFiles ?_, fun f hf =>
    ⟨.other ("cd: can't canonicalize " ++ candidate.render), leads_tryFiles ?_⟩⟩
  · have hcanonical : b.files.serve (.canonical candidate) = (.ok p, b.files) := Prod.ext hp rfl
    rw [hserve]
    dsimp only
    rw [if_pos hkind]
    refine ((leads_of_comes (Bench.comes_askOr hcanonical _)).bind _).trans (.ask ?_)
    exact .refl _ _
  · have hcanonical : b.files.serve (.canonical candidate) = (.error f, b.files) := Prod.ext hf rfl
    rw [hserve]
    dsimp only
    rw [if_pos hkind]
    refine ((leads_of_comes (Bench.comes_askOr_error hcanonical _)).bind _).trans ?_
    exact .refl _ _

/-- **What a run comes to**: it moves to what is read of the spelling, or it fails and leaves the bench as it is. -/
theorem leads_toDirectory (candidate : Path) (b : Bench) :
    (∃ trail, Arrives b.files candidate trail ∧
      Leads (toDirectory candidate) b (.done (.ok ())) { b with path := trail.path.render }) ∨
    (∀ trail, ¬ Arrives b.files candidate trail) ∧ ∃ e, Leads (toDirectory candidate) b (.done (.error e)) b := by
  cases hm : b.files.metadata .follow candidate with
  | error f =>
    refine .inr ⟨fun trail harrives => ?_, leads_of_no_metadata hm⟩
    obtain ⟨found, hfound, -⟩ := harrives.metadata
    rw [hm] at hfound
    cases hfound
  | ok found =>
    by_cases hkind : found.kind = .directory
    · obtain ⟨hmoves, hfails⟩ := leads_of_directory hm hkind
      cases hc : b.files.canonical candidate with
      | error f =>
        refine .inr ⟨fun trail harrives => ?_, hfails f hc⟩
        rw [harrives.canonical] at hc
        cases hc
      | ok p =>
        obtain ⟨trail, htrail, hlong, rfl⟩ := Files.canonical_eq_ok_iff.1 hc
        obtain ⟨trail', node, htrail', hnode, rfl⟩ := Files.metadata_eq_ok_iff.1 hm
        obtain rfl := Except.ok.inj (htrail.symm.trans htrail')
        exact .inl ⟨trail, ⟨htrail, (isDirectory_iff hnode).2 hkind, hlong⟩, hmoves _ hc⟩
    · refine .inr ⟨fun trail harrives => ?_, leads_of_no_directory hm hkind⟩
      obtain ⟨found', hfound, hdir⟩ := harrives.metadata
      rw [hm] at hfound
      cases hfound
      exact hkind hdir

theorem run_of_ne (path : String) (h : target ≠ "") : run path [target] = toDirectory (Action.resolve path target) :=
  if_neg h

/-- **A run that ends well** has moved to what is read of the spelling of the directory, and nothing else has changed. -/
theorem leads_ok_iff (h : target ≠ "") : Leads (run path [target]) b (.done (.ok ())) b' ↔
    ∃ trail, Arrives b.files (Action.resolve path target) trail ∧ b' = { b with path := trail.path.render } := by
  rw [run_of_ne path h]
  constructor
  · intro hleads
    rcases leads_toDirectory (Action.resolve path target) b with ⟨trail, harrives, hdone⟩ | ⟨-, e, hfails⟩
    · exact ⟨trail, harrives, (hleads.unique hdone).2⟩
    · cases (hleads.unique hfails).1
  · rintro ⟨trail, harrives, rfl⟩
    rcases leads_toDirectory (Action.resolve path target) b with ⟨trail', harrives', hdone⟩ | ⟨hnowhere, -⟩
    · obtain rfl := Except.ok.inj (harrives.1.symm.trans harrives'.1)
      exact hdone
    · exact absurd harrives (hnowhere trail)

theorem exists_leads_run (path : String) (h : target ≠ "") (b : Bench) : ∃ result b',
    Leads (run path [target]) b (.done result) b' ∧ (result ≠ .ok () → b' = b) := by
  rw [run_of_ne path h]
  rcases leads_toDirectory (Action.resolve path target) b with ⟨trail, -, hdone⟩ | ⟨-, e, hfails⟩
  · exact ⟨_, _, hdone, fun hne => absurd rfl hne⟩
  · exact ⟨_, _, hfails, fun _ => rfl⟩

theorem isAbsolute_resolve (h : (Path.ofString path).isAbsolute) (target : String) :
    (Action.resolve path target).isAbsolute :=
  Path.isAbsolute_join h _

theorem Arrives.trailTo {trail : Trail} (h : Arrives fs candidate trail) (habs : candidate.isAbsolute)
    (htext : Bytes.IsText trail.path) (hnul : 0 ∉ trail.path) :
    fs.trailTo .follow (Path.ofString trail.path.render) = .ok trail := by
  have hstands := Files.stands_of_trailTo h.1 habs
  rw [Path.ofString_render.2 htext]
  exact hstands.trailTo (Files.checkPath_path hnul h.2.2)

/-- **Where a run that ends well leaves the path.**  It is read of the absolute path, without links, that spells the trail of
the directory which the target leads to.  It is that path itself exactly if that is a text, and then it leads to the very
directory, so that the next command finds it. -/
theorem path_of_ok (habs : (Path.ofString path).isAbsolute) (hne : target ≠ "")
    (h : Leads (run path [target]) b (.done (.ok ())) b') : ∃ trail : Trail,
    b.files.trailTo .follow (Action.resolve path target) = .ok trail ∧ b.files.isDirectory trail.node = true ∧
    b.files.Stands trail ∧ b'.files = b.files ∧ b'.path = trail.path.render ∧ (Path.ofString b'.path).isAbsolute ∧
    (Path.ofString b'.path = trail.path ↔ Bytes.IsText trail.path) ∧
    (Bytes.IsText trail.path → 0 ∉ trail.path → b'.files.trailTo .follow (Path.ofString b'.path) = .ok trail) := by
  obtain ⟨trail, harrives, rfl⟩ := (leads_ok_iff hne).1 h
  have hcandidate := isAbsolute_resolve habs target
  exact ⟨trail, harrives.1, harrives.2.1, Files.stands_of_trailTo harrives.1 hcandidate, rfl, rfl,
    Path.isAbsolute_render trail.isAbsolute_path, Path.ofString_render, harrives.trailTo hcandidate⟩

/-- A directory `d` with a directory `e` in it, and beside `d` a link `l` to `e`. -/
def nested : Files where
  nodes := #[
    ⟨.directory [(Path.ofString "d", 1), (Path.ofString "l", 3)] false, Files.directoryMode, 0⟩,
    ⟨.directory [(Path.ofString "e", 2)] false, Files.directoryMode, 0⟩,
    ⟨.directory [] false, Files.directoryMode, 0⟩,
    ⟨.link (Path.ofString "d/e"), Files.linkMode, 0⟩]

theorem everyName_nested : nested.EveryName Bytes.IsText := Files.everyName_of_nodes (by decide)

theorem path_of_ok_nested : ∃ trail, nested.trailTo .follow (Action.resolve "/" "l") = .ok trail ∧
    nested.trailTo .follow (Path.ofString "/d/e") = .ok trail := by
  have hleads : Leads (run "/" ["l"]) { files := nested } (.done (.ok ())) { files := nested, path := "/d/e" } :=
    (leads_ok_iff (by decide)).2 ⟨[(Path.ofString "e", 2), (Path.ofString "d", 1)], ⟨rfl, rfl, by decide⟩, rfl⟩
  obtain ⟨trail, htrail, -, -, -, -, -, -, hagain⟩ := path_of_ok (by decide) (by decide) hleads
  have hfound : nested.trailTo .follow (Action.resolve "/" "l") = .ok [(Path.ofString "e", 2), (Path.ofString "d", 1)] := rfl
  obtain rfl := Except.ok.inj (htrail.symm.trans hfound)
  exact ⟨_, htrail, hagain (by decide) (by decide)⟩

/-- A directory whose name is no text, and beside it a link `l` to it. -/
def unreadable : Files where
  nodes := #[
    ⟨.directory [([0xFF], 1), (Path.ofString "l", 2)] false, Files.directoryMode, 0⟩,
    ⟨.directory [] false, Files.directoryMode, 0⟩,
    ⟨.link [0xFF], Files.linkMode, 0⟩]

/-- **A path that is no text is lost.**  `cd` through a link ends well and shows the name that is no text with a replacement;
the path that is left leads nowhere. -/
theorem lost_behind_link :
    Leads (run "/" ["l"]) { files := unreadable } (.done (.ok ())) { files := unreadable, path := "/\uFFFD" } ∧
    unreadable.trailTo .follow (Action.resolve "/" "l") = .ok [([0xFF], 1)] ∧ unreadable.isDirectory 1 = true ∧
    unreadable.trailTo .follow (Path.ofString "/\uFFFD") = .error (.system .notFound) :=
  ⟨(leads_ok_iff (by decide)).2 ⟨[([0xFF], 1)], ⟨rfl, rfl, by decide⟩, rfl⟩, rfl, rfl, rfl⟩

/-! ## One target after another -/

theorem two_trails {base middle name : Path} {t t₂ t₃ : Trail} (hbase : base.isAbsolute) (hmiddle : middle ≠ [])
    (h : fs.trailTo .follow (base.join middle) = .ok t) (h₂ : fs.trailTo .follow (t.path.join name) = .ok t₂)
    (h₃ : fs.trailTo .follow (base.join (middle.join name)) = .ok t₃) : t₂ = t₃ := by
  by_cases hname : name.isAbsolute
  · rw [Path.join_of_isAbsolute hname] at h₂ h₃
    rw [Path.join_of_isAbsolute hname] at h₃
    exact Except.ok.inj (h₂.symm.trans h₃)
  have hstands := Files.stands_of_trailTo h (Path.isAbsolute_join hbase _)
  have hfront := Files.walks_of_trailTo h
  have hback := Files.walks_of_trailTo h₂
  have hwhole := Files.walks_of_trailTo h₃
  rw [Files.startOf_of_isAbsolute (Path.isAbsolute_join hbase _)] at hfront hwhole
  rw [Files.startOf_of_isAbsolute (Path.isAbsolute_join t.isAbsolute_path _), Path.names_join hname,
    hstands.names_path] at hback
  rw [Path.names_join_join hname hmiddle] at hwhole
  -- Both walks come by the trail that the first target leads to, and go on from there along the same names.
  obtain ⟨mid, hmid, hrest⟩ := Files.walks_append_iff.1 hback
  obtain ⟨mid', hmid', hrest'⟩ := Files.walks_append_iff.1 hwhole
  obtain rfl := hmid.unique hstands.walks
  obtain rfl := hmid'.unique hfront
  exact hrest.unique hrest'

theorem names_here : Path.names (Path.ofString ".") = [Path.here] := rfl

theorem walks_here {t t' : Trail} (h : fs.Walks t [Path.here] t') : t' = t := by
  obtain ⟨hops, h⟩ := h
  cases h with
  | stays _ _ h =>
    cases h with
    | arrives hp => cases hp; rfl
  | climbs _ hhere => exact absurd rfl hhere
  | missing _ hplain | held _ hplain | follows _ hplain | enters _ hplain => exact absurd rfl hplain.here

theorem length_join_here (p : Path) : (p.join (Path.ofString ".")).length ≤ p.length + 2 := by
  have hlength : (Path.ofString ".").length = 1 := rfl
  rw [Path.join, if_neg (by decide)]
  split
  · omega
  · split
    · rw [List.length_append]
      omega
    · rw [List.length_append, List.length_cons]
      omega

theorem not_isAbsolute_here : ¬ (Path.ofString ".").isAbsolute := by decide

theorem eq_of_trailTo_here {t t' : Trail} (hstands : fs.Stands t)
    (h : fs.trailTo .follow (t.path.join (Path.ofString ".")) = .ok t') : t' = t := by
  have hwalks := Files.walks_of_trailTo h
  rw [Files.startOf_of_isAbsolute (Path.isAbsolute_join t.isAbsolute_path _), Path.names_join not_isAbsolute_here,
    hstands.names_path] at hwalks
  obtain ⟨mid, hmid, hlast⟩ := Files.walks_append_iff.1 hwalks
  obtain rfl := hmid.unique hstands.walks
  exact walks_here hlast

theorem trailTo_here {t : Trail} (hstands : fs.Stands t) (hdir : fs.isDirectory t.node = true) (hnul : 0 ∉ t.path)
    (hroom : t.path.length + 2 ≤ Path.maxPath) : fs.trailTo .follow (t.path.join (Path.ofString ".")) = .ok t := by
  have hcheck : Files.checkPath (t.path.join (Path.ofString ".")) = .ok () :=
    Files.checkPath_join hnul (by decide) (by decide) (Nat.le_trans (length_join_here t.path) hroom)
  have hsteps : (t.path.join (Path.ofString ".")).steps = t.names ++ [Path.here] := by
    rw [Path.steps_eq, Path.slashed_join (by decide) (by decide), if_neg Bool.false_ne_true,
      Path.names_join not_isAbsolute_here, hstands.names_path, names_here]
  obtain ⟨entries, hes⟩ := Option.isSome_iff_exists.1 hdir
  have hstays : fs.Reaches .follow (.found t) Files.maxLinks t [Path.here] := .stays hes rfl (.arrives rfl)
  refine Files.trailTo_eq_ok_iff.2 ⟨hcheck, ?_⟩
  rw [Files.startOf_of_isAbsolute (Path.isAbsolute_join t.isAbsolute_path _), hsteps]
  exact (hstands.reaches.append hstays (by decide) (.inl rfl)).mono (by decide)

/-- **`cd .` from a path that spells a trail** leaves it as it is, and ends well unless the target cannot be looked up. -/
theorem exists_leads_here {trail : Trail} (hstands : b.files.Stands trail) (hdir : b.files.isDirectory trail.node = true)
    (hlong : trail.path.length ≤ Path.maxPath) (htext : Bytes.IsText trail.path)
    (hpath : b.path = trail.path.render) : ∃ result b', Leads (run b.path ["."]) b (.done result) b' ∧ b'.path = b.path ∧
      (0 ∉ trail.path → trail.path.length + 2 ≤ Path.maxPath → result = .ok ()) := by
  have hresolve : Action.resolve b.path "." = trail.path.join (Path.ofString ".") := by
    rw [Action.resolve, hpath, Path.ofString_render.2 htext]
  obtain ⟨result, b', hleads, hfails⟩ := exists_leads_run b.path (show "." ≠ "" by decide) b
  refine ⟨result, b', hleads, ?_, fun hnul hroom => ?_⟩
  · by_cases hok : result = .ok ()
    · subst hok
      obtain ⟨t', ⟨ht', -⟩, rfl⟩ := (leads_ok_iff (by decide)).1 hleads
      rw [hresolve] at ht'
      rw [eq_of_trailTo_here hstands ht', hpath]
    · rw [hfails hok]
  · have harrives : Arrives b.files (Action.resolve b.path ".") trail := by
      rw [hresolve]
      exact ⟨trailTo_here hstands hdir hnul hroom, hdir, hlong⟩
    exact (hleads.unique ((leads_ok_iff (by decide)).2 ⟨trail, harrives, rfl⟩)).1

/-- **One target after another is both in one.**  Where every name is a text, `cd` of a target and then of another from where
that has led comes to the same path as `cd` of both in one, if all of them end well.  The path spells the trail of a
directory: each of its names is a proper name in the directory before it, and leads to no link.  A further `cd .` leaves it
as it is, and ends well unless the two bytes that it adds make the path too long. -/
theorem path_of_two (habs : (Path.ofString path).isAbsolute) (hnames : b.files.EveryName Bytes.IsText)
    (hfirst : first ≠ "") (hsecond : second ≠ "") (h₁ : Leads (run path [first]) b (.done (.ok ())) b₁)
    (h₂ : Leads (run b₁.path [second]) b₁ (.done (.ok ())) b₂)
    (h₃ : Leads (run path [(Action.resolve first second).render]) b (.done (.ok ())) b₃) :
    b₂.path = b₃.path ∧ ∃ trail : Trail, Path.ofString b₂.path = trail.path ∧ trail.path.steps = trail.names ∧
      b.files.Stands trail ∧ b.files.isDirectory trail.node = true ∧
      ∃ result b₄, Leads (run b₂.path ["."]) b₂ (.done result) b₄ ∧ b₄.path = b₂.path ∧
        (0 ∉ trail.path → trail.path.length + 2 ≤ Path.maxPath → result = .ok ()) := by
  have htext : ∀ {trail}, b.files.Stands trail → Bytes.IsText trail.path := fun hstands =>
    Trail.isText_path (hstands.everyName hnames)
  have hboth : Path.ofString (Action.resolve first second).render = Action.resolve first second :=
    Path.ofString_render.2 (Path.isText_join (Path.isText_ofString _) (Path.isText_ofString _))
  have hne : (Action.resolve first second).render ≠ "" := by
    intro hempty
    rw [hempty] at hboth
    exact Path.join_ne_nil (Path.ofString_ne_nil hsecond) _ hboth.symm
  obtain ⟨t, ht, rfl⟩ := (leads_ok_iff hfirst).1 h₁
  obtain ⟨t₂, ht₂, rfl⟩ := (leads_ok_iff hsecond).1 h₂
  obtain ⟨t₃, ht₃, rfl⟩ := (leads_ok_iff hne).1 h₃
  have hstands := Files.stands_of_trailTo ht.1 (isAbsolute_resolve habs first)
  have hspelled : Path.ofString t.path.render = t.path := Path.ofString_render.2 (htext hstands)
  have hnext : b.files.trailTo .follow (t.path.join (Path.ofString second)) = .ok t₂ := by
    rw [← hspelled]
    exact ht₂.1
  have hwhole : b.files.trailTo .follow ((Path.ofString path).join (Action.resolve first second)) = .ok t₃ := by
    rw [← hboth]
    exact ht₃.1
  obtain rfl := two_trails habs (Path.ofString_ne_nil hfirst) ht.1 hnext hwhole
  have hstands₂ := Files.stands_of_trailTo hnext (Path.isAbsolute_join t.isAbsolute_path _)
  exact ⟨rfl, t₂, Path.ofString_render.2 (htext hstands₂), hstands₂.steps_path, hstands₂, ht₂.2.1,
    exists_leads_here (b := { b with path := t₂.path.render }) hstands₂ ht₂.2.1 ht₂.2.2 (htext hstands₂) rfl⟩

/-- `cd l` and then `cd ..` come to `/d`, where the link leads through and not where it stands; so does `cd l/..`. -/
theorem path_of_two_nested : ∃ b₂ b₃ : Bench, b₂.path = "/d" ∧ b₂.path = b₃.path ∧
    Leads (run "/" [(Action.resolve "l" "..").render]) { files := nested } (.done (.ok ())) b₃ := by
  have h₁ : Leads (run "/" ["l"]) { files := nested } (.done (.ok ())) { files := nested, path := "/d/e" } :=
    (leads_ok_iff (by decide)).2 ⟨[(Path.ofString "e", 2), (Path.ofString "d", 1)], ⟨rfl, rfl, by decide⟩, rfl⟩
  have h₂ : Leads (run "/d/e" [".."]) { files := nested, path := "/d/e" } (.done (.ok ())) { files := nested, path := "/d" } :=
    (leads_ok_iff (by decide)).2 ⟨[(Path.ofString "d", 1)], ⟨rfl, rfl, by decide⟩, rfl⟩
  have h₃ : Leads (run "/" [(Action.resolve "l" "..").render]) { files := nested } (.done (.ok ()))
      { files := nested, path := "/d" } :=
    (leads_ok_iff (by decide)).2 ⟨[(Path.ofString "d", 1)], ⟨rfl, rfl, by decide⟩, rfl⟩
  obtain ⟨hsame, -⟩ := path_of_two (by decide) everyName_nested (by decide) (by decide) h₁ h₂ h₃
  exact ⟨_, _, rfl, hsame, h₃⟩

end Cd
end LineShell
