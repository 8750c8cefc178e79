import LineShell.Proofs.Files.Ways
/-!
# Thinning — trees that have lost some of their entries

`Thins gone fs fs'` says that nothing has happened to a tree but that directories have lost entries, and only such as `gone`
allows.  What is found in the tree that is left was found in the other (`Thins.extends`), and what was found in the other is
found there still or has an entry missing on the way (`Thins.trailTo`).  Emptying a directory takes only what is below it,
links not followed, however deep it goes (`thins_clear`).
-/
namespace LineShell
namespace Files

variable {fs fs' fs'' : Files} {gone gone' : NodeId → Bytes → Prop} {e : Ending} {id dir top : NodeId} {name : Bytes}
  {p : Path} {trail here : Trail} {entries : List (Bytes × NodeId)} {removed : Bool} {mode : Nat}
  {modified : Int}

def Lists (fs : Files) (dir : NodeId) (name : Bytes) (id : NodeId) : Prop :=
  ∃ entries, fs.entries? dir = some entries ∧ (name, id) ∈ entries

theorem lists_of_child? (h : fs.child? dir name = some id) : fs.Lists dir name id := by
  obtain ⟨entries, hes, hid⟩ := Option.bind_eq_some_iff.1 h
  obtain ⟨front, back, rfl, -⟩ := List.lookup_eq_some_iff.1 hid
  exact ⟨_, hes, List.mem_append_right front List.mem_cons_self⟩

/-- **One tree is another with fewer entries.**  `gone` allows names to be lost in a directory.  When a directory was
modified may change then, and whether it is marked as removed; it may too where an entry may be lost that leads to it. -/
structure Thins (gone : NodeId → Bytes → Prop) (fs fs' : Files) : Prop where
  cwd : fs'.cwd = fs.cwd
  others : ∀ id, fs.entries? id = none → fs'.node? id = fs.node? id
  untouched : ∀ id, (∀ name, ¬ gone id name) → (∀ dir name, fs.Lists dir name id → ¬ gone dir name) →
    fs'.node? id = fs.node? id
  directories : ∀ id entries removed mode modified, fs.node? id = some ⟨.directory entries removed, mode, modified⟩ →
    ∃ (keep : Bytes → Bool) (removed' : Bool) (modified' : Int),
      fs'.node? id = some ⟨.directory (entries.filter (fun e => keep e.1)) removed', mode, modified'⟩ ∧
        ∀ name, keep name = false → gone id name

theorem filter_all (entries : List (Bytes × NodeId)) : entries.filter (fun _ => true) = entries :=
  List.filter_eq_self.2 fun _ _ => rfl

theorem Thins.refl (gone : NodeId → Bytes → Prop) (fs : Files) : Thins gone fs fs where
  cwd := rfl
  others _ _ := rfl
  untouched _ _ _ := rfl
  directories id entries removed mode modified h := ⟨fun _ => true, removed, modified, by rwa [filter_all], nofun⟩

theorem Thins.mono (h : Thins gone fs fs') (hle : ∀ id name, gone id name → gone' id name) : Thins gone' fs fs' where
  cwd := h.cwd
  others := h.others
  untouched id hkeeps hled := h.untouched id (fun name hname => hkeeps name (hle id name hname))
    (fun dir name hlists hname => hled dir name hlists (hle dir name hname))
  directories id entries removed mode modified hn := by
    obtain ⟨keep, removed', modified', hn', hgone⟩ := h.directories id entries removed mode modified hn
    exact ⟨keep, removed', modified', hn', fun name hname => hle id name (hgone name hname)⟩

theorem Thins.entries?_eq_none (h : Thins gone fs fs') (hid : fs.entries? id = none) : fs'.entries? id = none := by
  rw [entries?, h.others id hid, ← entries?, hid]

theorem Thins.entries? (h : Thins gone fs fs') (hes : fs.entries? id = some entries) : ∃ keep : Bytes → Bool,
    fs'.entries? id = some (entries.filter (fun e => keep e.1)) ∧ ∀ name, keep name = false → gone id name := by
  obtain ⟨removed, mode, modified, hn⟩ := entries?_eq_some_iff.1 hes
  obtain ⟨keep, removed', modified', hn', hgone⟩ := h.directories _ _ _ _ _ hn
  exact ⟨keep, entries?_eq_some_iff.2 ⟨_, _, _, hn'⟩, hgone⟩

theorem Thins.lists (h : Thins gone fs fs') (hlists : fs'.Lists dir name id) : fs.Lists dir name id := by
  obtain ⟨entries', hes', hmem⟩ := hlists
  cases hes : fs.entries? dir with
  | none =>
    rw [h.entries?_eq_none hes] at hes'
    cases hes'
  | some entries =>
    obtain ⟨keep, hleft, -⟩ := h.entries? hes
    obtain rfl := Option.some.inj (hleft.symm.trans hes')
    exact ⟨entries, hes, (List.mem_filter.1 hmem).1⟩

theorem Thins.trans (h : Thins gone fs fs') (h' : Thins gone fs' fs'') : Thins gone fs fs'' where
  cwd := h'.cwd.trans h.cwd
  others id hid := (h'.others id (h.entries?_eq_none hid)).trans (h.others id hid)
  untouched id hkeeps hled :=
    (h'.untouched id hkeeps fun dir name hlists => hled dir name (h.lists hlists)).trans (h.untouched id hkeeps hled)
  directories id entries removed mode modified hn := by
    obtain ⟨keep, removed₁, modified₁, hn₁, hgone⟩ := h.directories id entries removed mode modified hn
    obtain ⟨keep', removed₂, modified₂, hn₂, hgone'⟩ := h'.directories id _ _ _ _ hn₁
    refine ⟨fun name => keep' name && keep name, removed₂, modified₂, ?_, fun name hname => ?_⟩
    · rw [hn₂, List.filter_filter]
    · rcases Bool.and_eq_false_iff.1 hname with hname | hname
      · exact hgone' name hname
      · exact hgone name hname

/-! ## What is left was there before -/

theorem lookup_filter (keep : Bytes → Bool) (entries : List (Bytes × NodeId)) (name : Bytes) :
    (entries.filter (fun e => keep e.1)).lookup name = if keep name then entries.lookup name else none := by
  induction entries with
  | nil => simp
  | cons e entries ih =>
    rw [List.filter_cons, List.lookup_cons]
    by_cases hname : name = e.1
    · subst hname
      by_cases hkeep : keep e.1 = true
      · rw [if_pos hkeep, if_pos hkeep, List.lookup_cons, beq_self_eq_true]
      · rw [if_neg hkeep, if_neg hkeep, ih, if_neg hkeep]
    · have hne : (name == e.1) = false := by simpa using hname
      by_cases hkeep : keep e.1 = true
      · rw [if_pos hkeep, List.lookup_cons, hne]
        exact ih
      · rw [if_neg hkeep, hne]
        exact ih

theorem Thins.isDirectory (h : Thins gone fs fs') (id : NodeId) : fs'.isDirectory id = fs.isDirectory id := by
  unfold Files.isDirectory
  cases hes : fs.entries? id with
  | none => rw [h.entries?_eq_none hes]
  | some entries =>
    obtain ⟨keep, hes', -⟩ := h.entries? hes
    rw [hes']
    rfl

theorem Thins.link? (h : Thins gone fs fs') (id : NodeId) : fs'.link? id = fs.link? id := by
  cases hes : fs.entries? id with
  | none => rw [Files.link?, h.others id hes, Files.link?]
  | some entries =>
    obtain ⟨removed, mode, modified, hn⟩ := entries?_eq_some_iff.1 hes
    obtain ⟨keep, removed', modified', hn', -⟩ := h.directories _ _ _ _ _ hn
    rw [Files.link?, hn', Files.link?, hn]
    rfl

/-- **The tree that was thinned has all that is left**, and maybe more. -/
theorem Thins.extends (h : Thins gone fs fs') : Extends fs' fs where
  cwd := h.cwd.symm
  links id := (h.link? id).symm
  entries id entries' hes' := by
    cases hes : fs.entries? id with
    | none =>
      rw [h.entries?_eq_none hes] at hes'
      cases hes'
    | some entries =>
      obtain ⟨keep, hleft, -⟩ := h.entries? hes
      obtain rfl := Option.some.inj (hleft.symm.trans hes')
      refine ⟨entries, rfl, fun name i hi => ?_⟩
      rw [lookup_filter] at hi
      split at hi
      · exact hi
      · cases hi

theorem Extends.child? (h : Extends fs fs') (hchild : fs.child? dir name = some id) : fs'.child? dir name = some id := by
  obtain ⟨entries, hes, hid⟩ := Option.bind_eq_some_iff.1 hchild
  obtain ⟨entries', hes', hlookup⟩ := h.entries dir entries hes
  rw [Files.child?, hes']
  exact hlookup name id hid

theorem Extends.trailTo (h : Extends fs fs') (hp : fs.trailTo e p = .ok trail) : fs'.trailTo e p = .ok trail := by
  obtain ⟨hcheck, hreaches⟩ := trailTo_eq_ok_iff.1 hp
  refine trailTo_eq_ok_iff.2 ⟨hcheck, ?_⟩
  rw [h.cwd]
  exact h.reaches hreaches

theorem Thins.child? (h : Thins gone fs fs') (hchild : fs.child? dir name = some id) (hstays : ¬ gone dir name) :
    fs'.child? dir name = some id := by
  obtain ⟨entries, hes, hid⟩ := Option.bind_eq_some_iff.1 hchild
  obtain ⟨keep, hes', hgone⟩ := h.entries? hes
  have hkeep : keep name = true := by
    cases hk : keep name with
    | true => rfl
    | false => exact absurd (hgone name hk) hstays
  rw [Files.child?, hes', Option.bind_some, lookup_filter, if_pos hkeep]
  exact hid

theorem Thins.kind (h : Thins gone fs fs') (id : NodeId) :
    (fs'.node? id).map (fun n => n.content.kind) = (fs.node? id).map (fun n => n.content.kind) := by
  cases hes : fs.entries? id with
  | none => rw [h.others id hes]
  | some entries =>
    obtain ⟨removed, mode, modified, hn⟩ := entries?_eq_some_iff.1 hes
    obtain ⟨keep, removed', modified', hn', -⟩ := h.directories _ _ _ _ _ hn
    rw [hn, hn']
    rfl

/-! ## Lookups in what is left -/

theorem Thins.lookup (h : Thins gone fs fs') (hes : fs.entries? dir = some entries) (hid : entries.lookup name = some id) :
    ∃ entries', fs'.entries? dir = some entries' ∧ (entries'.lookup name = some id ∨ entries'.lookup name = none) := by
  obtain ⟨keep, hes', -⟩ := h.entries? hes
  refine ⟨_, hes', ?_⟩
  rw [lookup_filter]
  split
  · exact .inl hid
  · exact .inr rfl

theorem resolve_of_missing {hops : Nat} {rest : List Bytes} (hes : fs.entries? here.node = some entries)
    (hplain : Plain .follow name rest) (hnone : entries.lookup name = none) :
    fs.resolve .follow hops here (name :: rest) = .error .notFound ∨
      ∃ place, fs.resolve .follow hops here (name :: rest) = .ok place ∧ ∀ trail, place ≠ .found trail := by
  simp only [resolve_cons, hes, if_neg hplain.here, if_neg hplain.up, if_neg hplain.short, if_neg hplain.last, hnone]
  cases rest with
  | nil => exact .inr ⟨.absent here name, rfl, nofun⟩
  | cons => exact .inl rfl

/-- **A walk among fewer entries** comes to the same end, or to where an entry is missing. -/
theorem Thins.resolve (h : Thins gone fs fs') {hops : Nat} {names : List Bytes}
    (hr : fs.Reaches .follow (.found trail) hops here names) :
    fs'.resolve .follow hops here names = .ok (.found trail) ∨
      fs'.resolve .follow hops here names = .error .notFound ∨
      ∃ place, fs'.resolve .follow hops here names = .ok place ∧ ∀ trail, place ≠ .found trail := by
  induction hr with
  | arrives hp =>
    cases hp
    exact .inl (Reaches.arrives rfl).resolve
  | stays hes hhere _ ih =>
    obtain ⟨keep, hes', -⟩ := h.entries? hes
    simp only [resolve_cons, hes', if_pos hhere]
    exact ih
  | climbs hes hhere hup _ ih =>
    obtain ⟨keep, hes', -⟩ := h.entries? hes
    simp only [resolve_cons, hes', if_neg hhere, if_pos hup]
    exact ih
  | missing _ _ _ hp => cases hp
  | held _ _ _ _ he => cases he
  | follows hes hplain hid hlink hkeep _ ih =>
    obtain ⟨entries', hes', hid' | hnone⟩ := h.lookup hes hid
    · simp only [resolve_cons, hes', if_neg hplain.here, if_neg hplain.up, if_neg hplain.short, if_neg hplain.last, hid',
        (h.link? _).trans hlink, if_neg hkeep]
      exact ih
    · exact .inr (resolve_of_missing hes' hplain hnone)
  | enters hes hplain hid hlink _ ih =>
    obtain ⟨entries', hes', hid' | hnone⟩ := h.lookup hes hid
    · simp only [resolve_cons, hes', if_neg hplain.here, if_neg hplain.up, if_neg hplain.short, if_neg hplain.last, hid',
        (h.link? _).trans hlink]
      exact ih
    · exact .inr (resolve_of_missing hes' hplain hnone)

/-- **A path that led somewhere** leads there still, or an entry on its way is missing. -/
theorem Thins.trailTo (h : Thins gone fs fs') (hp : fs.trailTo .follow p = .ok trail) :
    fs'.trailTo .follow p = .ok trail ∨ fs'.trailTo .follow p = .error (.system .notFound) := by
  obtain ⟨hcheck, hreaches⟩ := trailTo_eq_ok_iff.1 hp
  rw [← h.cwd] at hreaches
  rcases h.resolve hreaches with hfound | hmissing | ⟨place, habsent, hplace⟩
  · exact .inl (trailTo_eq_ok_iff.2 ⟨hcheck, reaches_of_resolve hfound⟩)
  · refine .inr ?_
    rw [Files.trailTo, Files.lookup, hcheck, hmissing]
    rfl
  · refine .inr ?_
    cases place with
    | found trail => exact absurd rfl (hplace trail)
    | absent dir name =>
      rw [Files.trailTo, Files.lookup, hcheck, habsent]
      rfl

/-! ## What is below a directory -/

/-- **Everything below a node**: itself, and what directories below it lead to.  Links are not followed. -/
inductive Within (fs : Files) (top : NodeId) : NodeId → Prop
  | top : Within fs top top
  | entry {dir id : NodeId} {entries : List (Bytes × NodeId)} {name : Bytes} : Within fs top dir →
      fs.entries? dir = some entries → (name, id) ∈ entries → Within fs top id

theorem Within.trans (h : fs.Within top dir) (h' : fs.Within dir id) : fs.Within top id := by
  induction h' with
  | top => exact h
  | entry _ hes hmem ih => exact .entry ih hes hmem

theorem Thins.within (h : Thins gone fs fs') (hw : fs'.Within top id) : fs.Within top id := by
  induction hw with
  | top => exact .top
  | entry _ hes' hmem ih =>
    obtain ⟨entries, hes, hmem⟩ := h.lists ⟨_, hes', hmem⟩
    exact .entry ih hes hmem

theorem Within.eq_top (h : fs.Within top id) (htop : fs.entries? top = none) : id = top := by
  induction h with
  | top => rfl
  | entry _ hes _ ih =>
    rw [ih, htop] at hes
    cases hes

/-! ## Taking entries away -/

theorem node?_setContent (h : fs.node? id = some ⟨.directory entries removed, mode, modified⟩) (content : Content)
    (i : NodeId) : (fs.setContent id content).node? i = if i = id then some ⟨content, mode, fs.now⟩ else fs.node? i := by
  rw [setContent, h]
  dsimp only
  rw [node?_setNode]
  by_cases hi : i = id
  · subst hi
    rw [if_pos ⟨rfl, (Array.getElem?_eq_some_iff.1 h).1⟩, if_pos rfl]
  · rw [if_neg (fun hk => hi hk.1.symm), if_neg hi]

theorem cwd_setContent (fs : Files) (id : NodeId) (content : Content) : (fs.setContent id content).cwd = fs.cwd := by
  unfold setContent
  split <;> rfl

/-- A directory may lose entries where that is allowed, and be marked, if it or an entry that led to it was to be
touched. -/
theorem Thins.setContent (h : Thins gone fs fs')
    (hn : fs'.node? id = some ⟨.directory entries removed, mode, modified⟩) (keep : Bytes → Bool) (removed' : Bool)
    (hgone : ∀ name, keep name = false → gone id name)
    (htouched : (∃ name, gone id name) ∨ ∃ dir name, fs.Lists dir name id ∧ gone dir name) :
    Thins gone fs (fs'.setContent id (.directory (entries.filter (fun e => keep e.1)) removed')) where
  cwd := (cwd_setContent fs' id _).trans h.cwd
  others i hi := by
    rw [node?_setContent hn, if_neg, h.others i hi]
    rintro rfl
    cases (entries?_eq_some_iff.2 ⟨_, _, _, hn⟩).symm.trans (h.entries?_eq_none hi)
  untouched i hkeeps hled := by
    rw [node?_setContent hn, if_neg, h.untouched i hkeeps hled]
    rintro rfl
    rcases htouched with ⟨name, hname⟩ | ⟨dir, name, hlists, hname⟩
    · exact hkeeps name hname
    · exact hled dir name hlists hname
  directories i entries' removed₀ mode' modified₀ hi := by
    obtain ⟨keep₁, removed₁, modified₁, hn₁, hgone₁⟩ := h.directories i entries' removed₀ mode' modified₀ hi
    rw [node?_setContent hn]
    by_cases hid : i = id
    · subst hid
      rw [hn] at hn₁
      cases hn₁
      refine ⟨fun name => keep name && keep₁ name, removed', fs'.now, ?_, fun name hname => ?_⟩
      · rw [if_pos rfl, List.filter_filter]
      · rcases Bool.and_eq_false_iff.1 hname with hname | hname
        · exact hgone name hname
        · exact hgone₁ name hname
    · exact ⟨keep₁, removed₁, modified₁, by rw [if_neg hid, hn₁], hgone₁⟩

theorem Thins.mark (h : Thins gone fs fs') (hn : fs'.node? id = some ⟨.directory entries removed, mode, modified⟩)
    (hlists : fs.Lists dir name id) (hgone : gone dir name) (removed' : Bool) :
    Thins gone fs (fs'.setContent id (.directory entries removed')) := by
  have hmarked := h.setContent hn (fun _ => true) removed' nofun (.inr ⟨dir, name, hlists, hgone⟩)
  rwa [filter_all] at hmarked

theorem Thins.empty (h : Thins gone fs fs') (hn : fs'.node? id = some ⟨.directory entries removed, mode, modified⟩)
    (hgone : ∀ name, gone id name) (removed' : Bool) :
    Thins gone fs (fs'.setContent id (.directory [] removed')) := by
  have hemptied := h.setContent hn (fun _ => false) removed' (fun name _ => hgone name) (.inl ⟨[], hgone []⟩)
  rwa [List.filter_eq_nil_iff.2 fun _ _ => Bool.false_ne_true] at hemptied

theorem Thins.leave (h : Thins gone fs fs') (hgone : gone dir name) : Thins gone fs (fs'.leave dir name) := by
  unfold Files.leave
  split
  · next hn =>
    refine h.setContent hn (fun n => n != name) _ (fun n hname => ?_) (.inl ⟨name, hgone⟩)
    obtain rfl : n = name := by simpa using hname
    exact hgone
  · exact h

theorem child?_leave (fs : Files) (dir : NodeId) (name : Bytes) : (fs.leave dir name).child? dir name = none := by
  cases hes : fs.entries? dir with
  | none =>
    have hthins : Thins (fun _ _ => True) fs (fs.leave dir name) := (Thins.refl _ fs).leave trivial
    rw [child?, hthins.entries?_eq_none hes, Option.bind_none]
  | some entries =>
    obtain ⟨removed, mode, modified, h⟩ := entries?_eq_some_iff.1 hes
    have hleft : (fs.leave dir name).entries? dir = some (entries.filter (fun e => e.1 != name)) := by
      refine entries?_eq_some_iff.2 ⟨removed, mode, fs.now, ?_⟩
      rw [leave, h]
      dsimp only
      rw [node?_setContent h, if_pos rfl]
    rw [child?, hleft, Option.bind_some, lookup_filter (fun n => n != name)]
    simp

/-- What emptying a directory does with its entries: each is emptied itself, and marked as removed. -/
def clearEach (fs : Files) (depth : Nat) (entries : List (Bytes × NodeId)) : Files :=
  entries.foldl (fun fs e =>
    let fs := clear fs depth e.2
    match fs.node? e.2 with
    | some ⟨.directory inner _, _, _⟩ => fs.setContent e.2 (.directory inner true)
    | _ => fs) fs

theorem clear_succ (depth : Nat) (h : fs.node? top = some ⟨.directory entries removed, mode, modified⟩) :
    fs.clear (depth + 1) top = (fs.clearEach depth entries).setContent top (.directory [] removed) := by
  rw [clear, h]
  rfl

theorem thins_clearEach {depth : Nat}
    (hclear : ∀ left id, Thins (fun dir _ => left.Within id dir) left (left.clear depth id))
    (hentries : ∀ e ∈ entries, fs.Lists top e.1 e.2) (hleft : Thins (fun dir _ => fs.Within top dir) fs fs') :
    Thins (fun dir _ => fs.Within top dir) fs (fs'.clearEach depth entries) := by
  -- Each entry is emptied in what those before it have left, where nothing is below it that was not so at first.
  induction entries generalizing fs' with
  | nil => exact hleft
  | cons e rest ih =>
    refine ih (fun e' he' => hentries e' (List.mem_cons_of_mem _ he')) ?_
    obtain ⟨held, hes, hmem⟩ := hentries e List.mem_cons_self
    have hbelow : fs.Within top e.2 := .entry .top hes hmem
    have hemptied := hleft.trans ((hclear fs' e.2).mono fun dir _ hdir => hbelow.trans (hleft.within hdir))
    dsimp only
    split
    · next hn => exact hemptied.mark hn ⟨held, hes, hmem⟩ .top true
    · exact hemptied

/-- **Emptying a directory to any depth** takes away nothing but what is below it. -/
theorem thins_clear (depth : Nat) (fs : Files) (top : NodeId) :
    Thins (fun dir _ => fs.Within top dir) fs (fs.clear depth top) := by
  induction depth generalizing fs top with
  | zero => exact .refl _ fs
  | succ depth ih =>
    cases hes : fs.entries? top with
    | none =>
      rw [clear]
      split
      · next h =>
        rw [entries?_eq_some_iff.2 ⟨_, _, _, h⟩] at hes
        cases hes
      · exact .refl _ fs
    | some entries =>
      obtain ⟨removed, mode, modified, h⟩ := entries?_eq_some_iff.1 hes
      rw [clear_succ depth h]
      have heach := thins_clearEach ih (fun e he => ⟨entries, hes, he⟩) (.refl _ fs)
      obtain ⟨keep, removed', modified', hn, -⟩ := heach.directories _ _ _ _ _ h
      exact heach.empty hn (fun _ => .top) removed

theorem entries?_clear (depth : Nat) (h : fs.entries? top = some entries) : (fs.clear (depth + 1) top).entries? top = some [] := by
  obtain ⟨removed, mode, modified, hn⟩ := entries?_eq_some_iff.1 h
  have heach := thins_clearEach (thins_clear depth) (fun e he => ⟨entries, h, he⟩) (.refl _ fs)
  obtain ⟨keep, removed', modified', hn', -⟩ := heach.directories _ _ _ _ _ hn
  rw [clear_succ depth hn, entries?, node?_setContent hn', if_pos rfl]

end Files
end LineShell
