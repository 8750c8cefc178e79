import LineShell.Proofs.Files.Thinning
/-!
# Naming — which entry a path names, and what removing it does

A path names an entry of the directory that the names before its last lead to (`Names`); the entry is not followed, even if
it leads to a link.  A path that ends in a name leads to the entry that it names (`names_of_endsIn`), and an entry can be
named from any path that leads to its directory (`parent_join`).  Removing a name takes the entry that it names
(`thins_unlink`), and removing a tree takes besides only what is below the directory that was found there
(`thins_removeTree`).
-/
namespace LineShell
namespace Files

variable {fs fs' : Files} {gone : NodeId → Bytes → Prop} {e : Ending} {id dir : NodeId} {name n : Bytes} {p : Path}
  {trail t : Trail} {last : LastName}

/-! ## The entry that a path names -/

/-- **A path names an entry** of a directory: what stands before its last name is looked up, and the entry is not followed
even if it leads to a link. -/
def Names (fs : Files) (p : Path) (dir : NodeId) (name : Bytes) (id : NodeId) : Prop :=
  ∃ trail slash, fs.parent p = .ok (trail, .name name slash) ∧ trail.node = dir ∧ fs.child? dir name = some id

def lastOf (p : Path) (n : Bytes) : LastName :=
  if n == Path.here then .here else if n == Path.up then .up else .name n p.slashed

theorem parent_eq (fs : Files) (p : Path) : fs.parent p = (do
    checkPath p
    match p.names.getLast? with
    | none => .ok (startOf fs.cwd p, .root)
    | some n =>
      match fs.resolve .follow maxLinks (startOf fs.cwd p) (p.names.dropLast ++ [[]]) with
      | .error f => .error (.system f)
      | .ok (.absent ..) => .error (.system .notFound)
      | .ok (.found dir) => .ok (dir, lastOf p n)) := by
  have hslash : (p.steps.length != p.names.length) = p.slashed := by
    rw [Path.steps_eq]
    cases p.slashed <;> simp
  simp only [parent, Path.filter_steps, hslash]
  rfl

/-- **The directory that holds the last name of a path** is what the names before it lead to. -/
theorem parent_eq_ok_iff : fs.parent p = .ok (trail, last) ↔ checkPath p = .ok () ∧
    (p.names = [] ∧ trail = startOf fs.cwd p ∧ last = .root ∨
      ∃ front n, p.names = front ++ [n] ∧ last = lastOf p n ∧
        fs.Reaches .follow (.found trail) maxLinks (startOf fs.cwd p) (front ++ [[]])) := by
  rw [parent_eq]
  cases checkPath p with
  | error f => simp [Bind.bind, Except.bind]
  | ok u =>
    show (match p.names.getLast? with | none => _ | some n => _) = _ ↔ _
    rcases List.eq_nil_or_concat p.names with hnames | ⟨front, n, hnames⟩
    · rw [hnames]
      have hnone : ∀ front n, ([] : List Bytes) ≠ front ++ [n] := by simp
      constructor
      · intro h
        cases h
        exact ⟨rfl, .inl ⟨rfl, rfl, rfl⟩⟩
      · rintro ⟨-, ⟨-, rfl, rfl⟩ | ⟨front, n, hnames, -⟩⟩
        · rfl
        · exact absurd hnames (hnone front n)
    · rw [List.concat_eq_append] at hnames
      have hsplit : ∀ front' n', front ++ [n] = front' ++ [n'] ↔ front = front' ∧ n = n' := by simp
      rw [hnames, List.getLast?_concat, List.dropLast_concat]
      simp only [List.append_eq_nil_iff, reduceCtorEq, and_false, false_and, false_or, hsplit, ← resolve_eq_ok_iff]
      constructor
      · intro h
        cases hres : fs.resolve .follow maxLinks (startOf fs.cwd p) (front ++ [[]]) with
        | error f =>
          rw [hres] at h
          cases h
        | ok place =>
          rw [hres] at h
          cases place with
          | absent => cases h
          | found dir =>
            cases h
            exact ⟨trivial, front, n, ⟨rfl, rfl⟩, rfl, hres⟩
      · rintro ⟨-, _, _, ⟨rfl, rfl⟩, rfl, hres⟩
        rw [hres]

theorem Thins.parent (h : Thins gone fs fs') (hp : fs.parent p = .ok (trail, last)) :
    fs'.parent p = .ok (trail, last) ∨ fs'.parent p = .error (.system .notFound) := by
  obtain ⟨hcheck, hroot | ⟨front, n, hnames, hlast, hreaches⟩⟩ := parent_eq_ok_iff.1 hp
  · refine .inl (parent_eq_ok_iff.2 ⟨hcheck, .inl ?_⟩)
    rwa [h.cwd]
  · rw [← h.cwd] at hreaches
    have hparent := parent_eq fs' p
    rw [hcheck, hnames, List.getLast?_concat, List.dropLast_concat] at hparent
    rcases h.resolve hreaches with hfound | hmissing | ⟨place, habsent, hplace⟩
    · exact .inl (parent_eq_ok_iff.2 ⟨hcheck, .inr ⟨front, n, hnames, hlast, reaches_of_resolve hfound⟩⟩)
    · refine .inr (hparent.trans ?_)
      rw [hmissing]
      rfl
    · refine .inr (hparent.trans ?_)
      cases place with
      | found trail => exact absurd rfl (hplace trail)
      | absent dir name =>
        rw [habsent]
        rfl

theorem Extends.parent (h : Extends fs fs') (hp : fs.parent p = .ok (trail, last)) : fs'.parent p = .ok (trail, last) := by
  obtain ⟨hcheck, hcase⟩ := parent_eq_ok_iff.1 hp
  refine parent_eq_ok_iff.2 ⟨hcheck, ?_⟩
  rw [h.cwd]
  rcases hcase with hroot | ⟨front, n, hnames, hlast, hreaches⟩
  · exact .inl hroot
  · exact .inr ⟨front, n, hnames, hlast, h.reaches hreaches⟩

theorem Extends.names (h : Extends fs fs') (hn : fs.Names p dir name id) : fs'.Names p dir name id := by
  obtain ⟨trail, slash, hparent, hnode, hchild⟩ := hn
  exact ⟨trail, slash, h.parent hparent, hnode, h.child? hchild⟩

theorem Names.unique {dir' id' : NodeId} {name' : Bytes} (h : fs.Names p dir name id) (h' : fs.Names p dir' name' id') :
    dir = dir' ∧ name = name' ∧ id = id' := by
  obtain ⟨trail, slash, hparent, rfl, hchild⟩ := h
  obtain ⟨trail', slash', hparent', rfl, hchild'⟩ := h'
  rw [hparent] at hparent'
  cases hparent'
  rw [hchild] at hchild'
  cases hchild'
  exact ⟨rfl, rfl, rfl⟩

/-! ## Paths that end in a name -/

theorem lastOf_of_endsIn (h : p.EndsIn n) : lastOf p n = .name n false := by
  rw [lastOf, if_neg (by simpa using h.here), if_neg (by simpa using h.up), h.slashed]

/-- **A path that ends in a name and is not followed** leads to the entry that it names. -/
theorem names_of_endsIn (hend : p.EndsIn n) (h : fs.trailTo .keep p = .ok trail) :
    fs.Names p (Trail.node trail.tail) n trail.node := by
  obtain ⟨hcheck, hreaches⟩ := trailTo_eq_ok_iff.1 h
  rw [hend.steps] at hreaches
  obtain ⟨dir, hops, -, hfront, hlast⟩ := hreaches.split (List.cons_ne_nil n [])
  have hhere : ¬ isHere n = true := by simp [isHere, hend.nonempty, hend.here]
  have hup : ¬ (n == Path.up) = true := by simp [hend.up]
  have hnames : ∀ entries id, fs.entries? dir.node = some entries → entries.lookup n = some id →
      fs.Names p dir.node n id := by
    intro entries id hes hid
    -- The directory is looked up with a slash behind it, which asks for a directory.
    have hstays : fs.Reaches .follow (.found dir) 0 dir [[]] := .stays hes rfl (.arrives rfl)
    have hparent : fs.parent p = .ok (dir, .name n false) := parent_eq_ok_iff.2 ⟨hcheck, .inr ⟨_, n, hend.last,
      (lastOf_of_endsIn hend).symm, hfront.append hstays (by decide) (.inl rfl)⟩⟩
    exact ⟨dir, false, hparent, rfl, child?_of_lookup hes hid⟩
  cases hlast with
  | stays _ h => exact absurd h hhere
  | climbs _ _ h => exact absurd h hup
  | missing _ _ _ hp => cases hp
  | held hes _ hid _ _ hp =>
    cases hp
    exact hnames _ _ hes hid
  | follows _ _ _ _ hkeep => exact absurd rfl hkeep
  | enters hes _ hid _ h =>
    cases h with
    | arrives hp =>
      cases hp
      exact hnames _ _ hes hid

theorem not_isAbsolute_of_isName (h : Path.IsName n) : ¬ Path.isAbsolute n := by
  obtain ⟨b, rest, rfl⟩ := List.exists_cons_of_ne_nil h.nonempty
  have hb : b ≠ Bytes.slash := fun hb => h.slash (hb ▸ List.mem_cons_self)
  simpa [Path.isAbsolute] using hb

theorem endsIn_join (h : Path.IsName n) (p : Path) : (p.join n).EndsIn n where
  last := by
    rw [Path.names_join (not_isAbsolute_of_isName h), (Path.names_of_not_mem h.slash h.nonempty).1, List.dropLast_concat]
  slashed := Path.slashed_join h.slash h.nonempty p
  here := h.here
  up := h.up

theorem steps_join (h : Path.IsName n) (p : Path) : (p.join n).steps = p.names ++ [n] := by
  rw [(endsIn_join h p).steps, Path.names_join (not_isAbsolute_of_isName h),
    (Path.names_of_not_mem h.slash h.nonempty).1, List.dropLast_concat]

theorem startOf_join_of_trailTo (h : Path.IsName n) (ht : fs.trailTo .follow p = .ok t) (dir : Trail) :
    startOf dir (p.join n) = startOf dir p :=
  startOf_join (not_isAbsolute_of_isName h) (checkPath_eq_ok_iff.1 (trailTo_eq_ok_iff.1 ht).1).2.1 dir

theorem parent_join (hname : Path.IsName n) (ht : fs.trailTo .follow p = .ok t) (hdir : fs.isDirectory t.node = true)
    (hcheck : checkPath (p.join n) = .ok ()) : fs.parent (p.join n) = .ok (t, .name n false) := by
  obtain ⟨entries, hes⟩ := Option.isSome_iff_exists.1 hdir
  have hend := endsIn_join hname p
  have hstays : fs.Reaches .follow (.found t) 0 t [[]] := .stays hes rfl (.arrives rfl)
  refine parent_eq_ok_iff.2 ⟨hcheck, .inr ⟨p.names, n, ?_, (lastOf_of_endsIn hend).symm, ?_⟩⟩
  · rw [Path.names_join (not_isAbsolute_of_isName hname), (Path.names_of_not_mem hname.slash hname.nonempty).1]
  · rw [startOf_join_of_trailTo hname ht]
    exact (reaches_names ht).append hstays (by decide) (.inl rfl)

theorem trailTo_join (he : e ≠ .make) (hname : Path.IsName n) (ht : fs.trailTo .follow p = .ok t)
    (hchild : fs.child? t.node n = some id) (hlink : fs.link? id = none ∨ e = .keep)
    (hcheck : checkPath (p.join n) = .ok ()) : fs.trailTo e (p.join n) = .ok ((n, id) :: t) := by
  obtain ⟨entries, hes, hid⟩ := Option.bind_eq_some_iff.1 hchild
  have hplain : Plain e n [] := plain_of_isName hname he
  have hlast : fs.Reaches e (.found ((n, id) :: t)) 0 t [n] := by
    cases hl : fs.link? id with
    | none => exact .enters hes hplain hid hl (.arrives rfl)
    | some target =>
      rcases hlink with hnone | rfl
      · rw [hl] at hnone
        cases hnone
      · exact .held hes hplain hid hl rfl rfl
  refine trailTo_eq_ok_iff.2 ⟨hcheck, ?_⟩
  rw [steps_join hname, startOf_join_of_trailTo hname ht]
  exact (reaches_names ht).append hlast he (.inr (List.cons_ne_nil n []))

/-! ## Removing what a path names -/

theorem unlink_cases (fs : Files) (p : Path) : (∃ f, fs.unlink p = (.error f, fs)) ∨
    ∃ trail n slash id, fs.parent p = .ok (trail, .name n slash) ∧ fs.child? trail.node n = some id ∧
      fs.isDirectory id = false ∧ fs.unlink p = (.ok (), fs.leave trail.node n) := by
  unfold unlink
  split
  · exact .inl ⟨_, rfl⟩
  · next trail n slash hparent =>
    split
    · exact .inl ⟨_, rfl⟩
    split
    · exact .inl ⟨_, rfl⟩
    next id hchild =>
    split
    · exact .inl ⟨_, rfl⟩
    next hdir =>
    split
    · exact .inl ⟨_, rfl⟩
    · exact .inr ⟨trail, n, slash, id, hparent, hchild, by simpa using hdir, rfl⟩
  · exact .inl ⟨_, rfl⟩

theorem removeDirectory_cases (fs : Files) (p : Path) : (∃ f, fs.removeDirectory p = (.error f, fs)) ∨
    ∃ trail n slash id, fs.parent p = .ok (trail, .name n slash) ∧ fs.child? trail.node n = some id ∧
      fs.entries? id = some [] ∧
      fs.removeDirectory p = (.ok (), (fs.setContent id (.directory [] true)).leave trail.node n) := by
  unfold removeDirectory
  split
  · exact .inl ⟨_, rfl⟩
  · exact .inl ⟨_, rfl⟩
  · exact .inl ⟨_, rfl⟩
  · exact .inl ⟨_, rfl⟩
  · next trail n slash hparent =>
    split
    · exact .inl ⟨_, rfl⟩
    next id hchild =>
    split
    · exact .inl ⟨_, rfl⟩
    · exact .inl ⟨_, rfl⟩
    · next hes => exact .inr ⟨trail, n, slash, id, hparent, hchild, hes, rfl⟩

/-- **Removing a name** takes the entry that it names, which leads to no directory. -/
theorem thins_unlink (fs : Files) (p : Path) :
    Thins (fun dir n => ∃ id, fs.Names p dir n id ∧ fs.isDirectory id = false) fs (fs.unlink p).2 := by
  rcases fs.unlink_cases p with ⟨f, h⟩ | ⟨trail, n, slash, id, hparent, hchild, hdir, h⟩
  · rw [h]
    exact .refl _ fs
  · rw [h]
    exact (Thins.refl _ fs).leave ⟨id, ⟨trail, slash, hparent, rfl, hchild⟩, hdir⟩

theorem thins_removeDirectory (fs : Files) (p : Path) :
    Thins (fun dir n => ∃ id, fs.Names p dir n id) fs (fs.removeDirectory p).2 := by
  rcases fs.removeDirectory_cases p with ⟨f, h⟩ | ⟨trail, n, slash, id, hparent, hchild, hes, h⟩
  · rw [h]
    exact .refl _ fs
  · obtain ⟨removed, mode, modified, hn⟩ := entries?_eq_some_iff.1 hes
    rw [h]
    have hnames : fs.Names p trail.node n id := ⟨trail, slash, hparent, rfl, hchild⟩
    exact ((Thins.refl _ fs).mark hn (lists_of_child? hchild) ⟨id, hnames⟩ true).leave ⟨id, hnames⟩

/-- **Removing a tree** takes the entry that the path names, and what is below the directory that it leads to. -/
theorem thins_removeTree (fs : Files) (p : Path) :
    Thins (fun dir n => (∃ id, fs.Names p dir n id) ∨ ∃ trail, fs.trailTo .keep p = .ok trail ∧ fs.Within trail.node dir)
      fs (fs.removeTree p).2 := by
  unfold removeTree
  split
  · exact .refl _ fs
  next trail htrail =>
  split
  · refine (fs.thins_unlink p).mono fun dir n hgone => .inl ?_
    obtain ⟨id, hnames, -⟩ := hgone
    exact ⟨id, hnames⟩
  · have hclear := thins_clear (fs.nodes.size + 1) fs trail.node
    have hremove := (fs.clear (fs.nodes.size + 1) trail.node).thins_removeDirectory p
    have hnamed : ∀ dir n, (∃ id, (fs.clear (fs.nodes.size + 1) trail.node).Names p dir n id) → ∃ id, fs.Names p dir n id :=
      fun dir n ⟨id, hn⟩ => ⟨id, hclear.extends.names hn⟩
    have hboth : Thins (fun dir n =>
        (∃ id, fs.Names p dir n id) ∨ ∃ trail, fs.trailTo .keep p = .ok trail ∧ fs.Within trail.node dir) fs _ :=
      (hclear.mono fun dir _ hdir => .inr ⟨trail, htrail, hdir⟩).trans (hremove.mono fun dir n hn => .inl (hnamed dir n hn))
    dsimp only
    split
    · next hfailed => rwa [hfailed] at hboth
    · exact hboth
  · exact .refl _ fs

theorem removeTree_of_link {target : Path} (h : fs.trailTo .keep p = .ok trail)
    (hlink : fs.link? trail.node = some target) : fs.removeTree p = fs.unlink p := by
  unfold link? at hlink
  rw [removeTree, h]
  dsimp only
  split at hlink
  · next hcontent => rw [hcontent]
  · cases hlink

theorem unlink_of_parent (hparent : fs.parent p = .ok (t, .name n false)) (hshort : n.length ≤ Path.maxName)
    (hchild : fs.child? t.node n = some id) (hdir : fs.isDirectory id = false) :
    fs.unlink p = (.ok (), fs.leave t.node n) := by
  simp only [unlink, hparent, if_neg (Nat.not_lt.2 hshort), hchild, hdir]
  rfl

theorem removeTree_of_entries? {entries : List (Bytes × NodeId)} (htrail : fs.trailTo .keep p = .ok trail)
    (hes : fs.entries? trail.node = some entries) :
    fs.removeTree p = match (fs.clear (fs.nodes.size + 1) trail.node).removeDirectory p with
      | (.error f, left) => (if f.isNotFound then .ok () else .error f, left)
      | removed => removed := by
  obtain ⟨removed, mode, modified, hn⟩ := entries?_eq_some_iff.1 hes
  rw [removeTree, htrail]
  dsimp only
  rw [hn]
  rfl

/-- **A directory is removed with all that is in it.**  The path is looked up once more when the directory is empty; if that
fails since the path leads through what was in it, the directory is left, and that is no failure. -/
theorem removeTree_of_directory {entries : List (Bytes × NodeId)} (htrail : fs.trailTo .keep p = .ok ((n, id) :: t))
    (hparent : fs.parent p = .ok (t, .name n false)) (hchild : fs.child? t.node n = some id)
    (hes : fs.entries? id = some entries) : ∃ left, fs.removeTree p = (.ok (), left) ∧
      (left.child? t.node n = none ∨ left.entries? id = some [] ∧ left.parent p = .error (.system .notFound) ∧
        Thins (fun dir _ => fs.Within id dir) fs left) := by
  have hthins := thins_clear (fs.nodes.size + 1) fs id
  have hempty := entries?_clear fs.nodes.size hes
  have hremove := removeTree_of_entries? htrail hes
  dsimp only [Trail.node] at hremove
  generalize fs.clear (fs.nodes.size + 1) id = cleared at hthins hempty hremove
  rw [hremove]
  rcases hthins.parent hparent with hleft | hmissing
  · cases hc : cleared.child? t.node n with
    | none =>
      have hgone : cleared.removeDirectory p = (.error (.system .notFound), cleared) := by
        simp only [removeDirectory, hleft, hc]
      rw [hgone]
      exact ⟨cleared, rfl, .inl hc⟩
    | some i =>
      have hi : i = id := Option.some.inj ((hthins.extends.child? hc).symm.trans hchild)
      have hdone : cleared.removeDirectory p =
          (.ok (), (cleared.setContent id (.directory [] true)).leave t.node n) := by
        simp only [removeDirectory, hleft, hc, hi, hempty]
      rw [hdone]
      exact ⟨_, rfl, .inl (child?_leave _ _ _)⟩
  · have hfailed : cleared.removeDirectory p = (.error (.system .notFound), cleared) := by
      simp only [removeDirectory, hmissing]
    rw [hfailed]
    exact ⟨cleared, rfl, .inr ⟨hempty, hmissing, hthins⟩⟩

end Files
end LineShell
