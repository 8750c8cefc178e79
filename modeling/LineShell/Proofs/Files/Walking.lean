import LineShell.Proofs.Command.Halting
import LineShell.Proofs.Files.Naming
import LineShell.Proofs.Text.Ordering
/-!
# Walking — everything below a place, in order

A walk visits a place, then, if it is a directory, what is below each of its entries in the order of their names; a link
is visited and not followed.  It is described by the places that are still to be visited (`Visits`).  A walk visits
exactly what is below the places it sets out with (`Visits.mem_iff`), every directory before what is in it and all that
is below one entry before all that is below the next (`Visits.pairwise`); from one place there is only one such tour
(`Tour.unique`).  Every walk through directories that can be listed comes to its end, since paths get longer on the way
down (`exists_visits`).
-/
namespace LineShell

open Bytes (slash)

namespace Trail

/-- The name of what a trail leads to; that of the root is a slash. -/
def lastName : Trail → Bytes
  | [] => [slash]
  | (n, _) :: _ => n

/-- Two trails part in a directory, where the first goes on with a name that comes before that of the second. -/
def PartsBefore (a b : Trail) : Prop :=
  ∃ (dir : Trail) (x y : Bytes × NodeId) (front back : Trail), a = front ++ x :: dir ∧ b = back ++ y :: dir ∧
    x.1 ≠ y.1 ∧ Bytes.precedes x.1 y.1 = true

/-- **The order of a walk**: a directory comes before what is below it, and where two trails part the names decide. -/
def ComesBefore (a b : Trail) : Prop := (∃ below : Trail, below ≠ [] ∧ b = below ++ a) ∨ PartsBefore a b

variable {a b t : Trail} {n : Bytes} {id : NodeId}

theorem PartsBefore.below (h : PartsBefore a b) (front back : Trail) : PartsBefore (front ++ a) (back ++ b) := by
  obtain ⟨dir, x, y, front', back', rfl, rfl, hne, hle⟩ := h
  exact ⟨dir, x, y, front ++ front', back ++ back', (List.append_assoc ..).symm, (List.append_assoc ..).symm, hne, hle⟩

theorem step_unique {dir front back : Trail} {x y : Bytes × NodeId} (h : front ++ x :: dir = back ++ y :: dir) : x = y := by
  have hlength := congrArg List.length h
  simp only [List.length_append, List.length_cons] at hlength
  exact (List.cons.inj (List.append_inj h (by omega)).2).1

theorem not_partsBefore_append (below a : Trail) : ¬ PartsBefore (below ++ a) a := by
  rintro ⟨dir, x, y, front, back, h, rfl, hne, -⟩
  rw [← List.append_assoc] at h
  exact hne (congrArg Prod.fst (step_unique h)).symm

theorem suffix_of_parts {dir common front back : Trail} {x y : Bytes × NodeId} (hne : x ≠ y)
    (hx : common <:+ front ++ x :: dir) (hy : common <:+ back ++ y :: dir) : common <:+ dir := by
  have hdir : dir <:+ front ++ x :: dir := ⟨front ++ [x], by simp⟩
  rcases List.suffix_or_suffix_of_suffix hx hdir with h | ⟨more, rfl⟩
  · exact h
  rcases List.eq_nil_or_concat more with rfl | ⟨more, z, rfl⟩
  · exact List.suffix_refl dir
  · obtain ⟨front', hfront⟩ := hx
    obtain ⟨back', hback⟩ := hy
    rw [List.concat_append, ← List.append_assoc] at hfront hback
    exact absurd ((step_unique hfront).symm.trans (step_unique hback)) hne

theorem PartsBefore.asymm (h : PartsBefore a b) : ¬ PartsBefore b a := by
  obtain ⟨dir, x, y, front, back, ha, hb, hne, hle⟩ := h
  rintro ⟨dir', y', x', back', front', hb', ha', hne', hle'⟩
  have common : ∀ {dir front : Trail} {x : Bytes × NodeId} {t : Trail}, t = front ++ x :: dir → dir <:+ t := by
    rintro dir front x _ rfl
    exact ⟨front ++ [x], by simp⟩
  have hsuffix : dir <:+ dir' :=
    suffix_of_parts (fun h => hne' (congrArg Prod.fst h)) (hb' ▸ common hb) (ha' ▸ common ha)
  have hsuffix' : dir' <:+ dir :=
    suffix_of_parts (fun h => hne (congrArg Prod.fst h)) (ha ▸ common ha') (hb ▸ common hb')
  obtain rfl := hsuffix.eq_of_length (Nat.le_antisymm hsuffix.length_le hsuffix'.length_le)
  obtain rfl := step_unique (ha.symm.trans ha')
  obtain rfl := step_unique (hb.symm.trans hb')
  exact hne (Bytes.precedes_antisymm hle hle')

/-- **No trail comes before one that comes before it.** -/
theorem ComesBefore.asymm (h : ComesBefore a b) : ¬ ComesBefore b a := by
  rcases h with ⟨below, hne, rfl⟩ | h
  · rintro (⟨below', -, h⟩ | h)
    · have hlength := congrArg List.length h
      simp only [List.length_append] at hlength
      exact hne (List.length_eq_zero_iff.1 (by omega))
    · exact not_partsBefore_append below a h
  · rintro (⟨below, -, rfl⟩ | h')
    · exact not_partsBefore_append below b h
    · exact h.asymm h'

theorem flatMap_append_path (n : Bytes) (id : NodeId) (t : Trail) :
    path ((n, id) :: t) = t.reverse.flatMap (fun step => slash :: step.1) ++ slash :: n := by
  simp [path]

theorem path_cons (ht : ∀ n ∈ t.names, Path.IsName n) (hn : Path.IsName n) : path ((n, id) :: t) = Path.join t.path n := by
  rw [flatMap_append_path, Path.join, if_neg (Files.not_isAbsolute_of_isName hn)]
  cases t with
  | nil => rfl
  | cons step t =>
    -- The directory has a name, so that its path does not end with a slash.
    have hname : Path.IsName step.1 := ht step.1 (by rw [names_cons]; exact List.mem_append_right _ (List.mem_singleton_self _))
    obtain ⟨b, hlast⟩ : ∃ b, step.1.getLast? = some b := ⟨_, List.getLast?_eq_some_getLast hname.nonempty⟩
    have hb : b ≠ slash := fun hb => hname.slash (hb ▸ List.mem_of_getLast? hlast)
    have hpath : (path (step :: t)).getLast? = some b := by
      rw [flatMap_append_path, List.getLast?_append, List.getLast?_cons, hlast]
      rfl
    rw [hpath]
    dsimp only
    rw [if_neg hb, path, if_neg (by simp)]

theorem fileName_path (ht : ∀ n ∈ t.names, Path.IsName n) : Path.fileName t.path = t.lastName := by
  cases t with
  | nil => rfl
  | cons step t =>
    have hname : Path.IsName step.1 := ht step.1 (by rw [names_cons]; exact List.mem_append_right _ (List.mem_singleton_self _))
    have hpieces := pieces_path (List.cons_ne_nil step t) fun n hn => (ht n hn).slash
    have hlast : (Path.components (path (step :: t))).getLast? = some (.name step.1) := by
      rw [Path.components, if_pos (isAbsolute_path _), hpieces, names_cons]
      simp only [List.flatMap_cons, List.flatMap_append, List.flatMap_nil, List.isEmpty_iff, hname.nonempty, hname.here,
        hname.up, beq_iff_eq, Bool.or_eq_true, or_self, if_false, List.append_nil]
      rw [← List.append_assoc, ← List.cons_append, List.getLast?_concat]
    rw [Path.fileName, hlast]
    rfl

end Trail

namespace Files

def Distinct (fs : Files) : Prop := ∀ id entries, fs.entries? id = some entries → (entries.map Prod.fst).Nodup

theorem distinct_of_nodes {fs : Files} (h : ∀ node ∈ fs.nodes.toList, (listed node).Nodup) : fs.Distinct := by
  intro id entries hes
  obtain ⟨node, hnode, hlisted⟩ := exists_listed hes
  exact hlisted ▸ h node hnode

/-- **What is below a place**, the place itself included. -/
inductive Below (fs : Files) (root : Trail) : Trail → Prop
  | root : Below fs root root
  | entry {dir : Trail} {entries : List (Bytes × NodeId)} {e : Bytes × NodeId} (h : fs.Below root dir)
      (hes : fs.entries? dir.node = some entries) (he : e ∈ entries) : fs.Below root (e :: dir)

def ordered (entries : List (Bytes × NodeId)) : List (Bytes × NodeId) :=
  entries.mergeSort (fun a b => Bytes.precedes a.1 b.1)

/-- **A walk**, by the places that are still to be visited and those that are visited from there on: what is below the
entries of a directory comes before what is left. -/
inductive Visits (fs : Files) : (pending visited : List Trail) → Prop
  | done : Visits fs [] []
  | enters {pending visited : List Trail} {entries : List (Bytes × NodeId)} (t : Trail)
      (hes : fs.entries? t.node = some entries)
      (hrest : fs.Visits ((ordered entries).map (fun e => e :: t) ++ pending) visited) :
      fs.Visits (t :: pending) (t :: visited)
  | passes {pending visited : List Trail} (t : Trail) (hes : fs.entries? t.node = none)
      (hrest : fs.Visits pending visited) : fs.Visits (t :: pending) (t :: visited)

variable {fs : Files} {root t u v : Trail} {pending visited rest : List Trail} {entries : List (Bytes × NodeId)}

/-! ## What is visited -/

theorem Below.exists_append (h : fs.Below root t) : ∃ below, t = below ++ root := by
  induction h with
  | root => exact ⟨[], rfl⟩
  | @entry dir entries e _ _ _ ih =>
    obtain ⟨below, rfl⟩ := ih
    exact ⟨e :: below, rfl⟩

theorem Below.trans (h : fs.Below root t) (h' : fs.Below t u) : fs.Below root u := by
  induction h' with
  | root => exact h
  | entry _ hes he ih => exact .entry ih hes he

theorem below_iff : fs.Below t u ↔
    u = t ∨ ∃ entries e, fs.entries? t.node = some entries ∧ e ∈ entries ∧ fs.Below (e :: t) u := by
  constructor
  · intro h
    induction h with
    | root => exact .inl rfl
    | @entry dir entries e h hes he ih =>
      rcases ih with rfl | ⟨entries', e', hes', he', hbelow⟩
      · exact .inr ⟨entries, e, hes, he, .root⟩
      · exact .inr ⟨entries', e', hes', he', .entry hbelow hes he⟩
  · rintro (rfl | ⟨entries, e, hes, he, hbelow⟩)
    · exact .root
    · exact (Below.entry .root hes he).trans hbelow

theorem mem_ordered {e : Bytes × NodeId} : e ∈ ordered entries ↔ e ∈ entries := List.mem_mergeSort

/-- **A walk visits what is below** the places it sets out with, and nothing else. -/
theorem Visits.mem_iff (h : fs.Visits pending visited) : u ∈ visited ↔ ∃ t ∈ pending, fs.Below t u := by
  induction h with
  | done => simp
  | @enters pending visited entries t hes _ ih =>
    rw [List.mem_cons, ih]
    simp only [List.mem_append, List.mem_cons, List.mem_map, mem_ordered, or_and_right, exists_or, exists_eq_left]
    rw [below_iff (t := t), hes]
    simp [or_assoc]
  | @passes pending visited t hes _ ih =>
    rw [List.mem_cons, ih]
    simp only [List.mem_cons, or_and_right, exists_or, exists_eq_left]
    rw [below_iff (t := t), hes]
    simp

/-- **The order of a walk**, which sets out with places of which each parts before the later ones. -/
theorem Visits.pairwise (h : fs.Visits pending visited) (hdistinct : fs.Distinct)
    (hpending : pending.Pairwise Trail.PartsBefore) : visited.Pairwise Trail.ComesBefore := by
  -- What is visited later is below a place that was pending, and the place at hand parts before all of those.
  have later : ∀ {t : Trail} {pending visited : List Trail}, fs.Visits pending visited →
      (∀ p ∈ pending, Trail.PartsBefore t p) → ∀ u ∈ visited, Trail.PartsBefore t u := by
    intro t pending visited hvisits hparts u hu
    obtain ⟨p, hp, hbelow⟩ := hvisits.mem_iff.1 hu
    obtain ⟨below, rfl⟩ := hbelow.exists_append
    exact (hparts p hp).below [] below
  induction h with
  | done => exact .nil
  | @enters pending visited entries t hes hrest ih =>
    obtain ⟨hfirst, hothers⟩ := List.pairwise_cons.1 hpending
    refine List.pairwise_cons.2 ⟨fun u hu => ?_, ih ?_⟩
    · obtain ⟨p, hp, hbelow⟩ := hrest.mem_iff.1 hu
      obtain ⟨below, rfl⟩ := hbelow.exists_append
      rcases List.mem_append.1 hp with hp | hp
      · obtain ⟨e, -, rfl⟩ := List.mem_map.1 hp
        exact .inl ⟨below ++ [e], by simp, by simp⟩
      · exact .inr ((hfirst p hp).below [] below)
    · refine List.pairwise_append.2 ⟨?_, hothers, fun c hc p hp => ?_⟩
      · have hsorted : Bytes.InOrder Prod.fst (ordered entries) := Bytes.inOrder_mergeSort Prod.fst entries
        have hnames : ((ordered entries).map Prod.fst).Nodup :=
          (((List.mergeSort_perm entries _).map Prod.fst).nodup_iff).2 (hdistinct _ entries hes)
        refine List.pairwise_map.2 ((hsorted.and (List.pairwise_map.1 hnames)).imp ?_)
        rintro a b ⟨hle, hne⟩
        exact ⟨t, a, b, [], [], rfl, rfl, hne, hle⟩
      · obtain ⟨e, -, rfl⟩ := List.mem_map.1 hc
        exact (hfirst p hp).below [e] []
  | @passes pending visited t hes hrest ih =>
    obtain ⟨hfirst, hothers⟩ := List.pairwise_cons.1 hpending
    exact List.pairwise_cons.2 ⟨fun u hu => .inr (later hrest hfirst u hu), ih hothers⟩

/-- **A tour** of what is below a place: all of it, in the order of a walk. -/
structure Tour (fs : Files) (root : Trail) (places : List Trail) : Prop where
  mem_iff : ∀ t, t ∈ places ↔ fs.Below root t
  ordered : places.Pairwise Trail.ComesBefore

theorem Visits.tour (h : fs.Visits [root] visited) (hdistinct : fs.Distinct) : fs.Tour root visited where
  mem_iff t := by simpa using h.mem_iff (u := t)
  ordered := h.pairwise hdistinct (List.pairwise_singleton _ _)

theorem Tour.nodup (h : fs.Tour root visited) : visited.Nodup :=
  h.ordered.imp fun hlt heq => by
    subst heq
    exact hlt.asymm hlt

/-- **There is one tour of what is below a place.** -/
theorem Tour.unique (h : fs.Tour root visited) (h' : fs.Tour root rest) : visited = rest := by
  have hperm : visited.Perm rest :=
    (List.perm_ext_iff_of_nodup h.nodup h'.nodup).2 fun t => (h.mem_iff t).trans (h'.mem_iff t).symm
  exact List.Perm.eq_of_pairwise (fun _ _ _ _ hab hba => absurd hba hab.asymm) h.ordered h'.ordered hperm

/-! ## Directories that can be listed -/

def kindOf (fs : Files) (id : NodeId) : Kind := ((fs.node? id).map (fun n => n.content.kind)).getD .file

theorem kindOf_eq_directory_iff {id : NodeId} : fs.kindOf id = .directory ↔ ∃ entries, fs.entries? id = some entries := by
  simp only [kindOf, entries?_eq_some_iff]
  cases hnode : fs.node? id with
  | none => simp
  | some node =>
    obtain ⟨content, mode, modified⟩ := node
    cases content <;> simp [Content.kind]

/-- **Every directory below a place can be listed.** -/
def Clear (fs : Files) (root : Trail) : Prop :=
  ∀ t, fs.Below root t → fs.isDirectory t.node = true → ∃ listed, fs.listing t.path = .ok listed

/-- A tree of proper names, no two of them the same in a directory. -/
structure Proper (fs : Files) : Prop where
  isName : fs.EveryName Path.IsName
  distinct : fs.Distinct

variable (hfs : fs.Proper) (hroot : fs.Stands root)

include hfs hroot

theorem Below.stands (h : fs.Below root t) (hdir : fs.isDirectory t.node = true) : fs.Stands t := by
  induction h with
  | root => exact hroot
  | @entry dir entries e _ hes he ih =>
    refine ⟨ih (by rw [isDirectory, hes]; rfl), hfs.isName _ entries hes e he, ?_, ?_⟩
    · obtain ⟨front, back, rfl⟩ := List.append_of_mem he
      refine child?_of_lookup hes (List.lookup_eq_some_iff.2 ⟨front, back, rfl, fun p hp => ?_⟩)
      have hnames := hfs.distinct _ _ hes
      rw [List.map_append, List.map_cons, List.nodup_append] at hnames
      simpa using (hnames.2.2 p.1 (List.mem_map_of_mem hp) e.1 List.mem_cons_self).symm
    · cases hlink : fs.link? e.2 with
      | none => rfl
      | some target =>
        have hnone := entries?_of_link? hlink
        have hdir : fs.isDirectory e.2 = true := hdir
        rw [isDirectory, hnone] at hdir
        cases hdir

theorem Below.isName (h : fs.Below root t) : ∀ n ∈ t.names, Path.IsName n := by
  cases h with
  | root => exact hroot.isName
  | @entry dir entries e h hes he =>
    intro n hn
    rw [Trail.names_cons] at hn
    rcases List.mem_append.1 hn with hn | hn
    · exact (h.stands hfs hroot (by rw [isDirectory, hes]; rfl)).isName n hn
    · rw [List.mem_singleton.1 hn]
      exact hfs.isName _ entries hes e he

theorem Below.path_entry (h : fs.Below root t) (hes : fs.entries? t.node = some entries) {e : Bytes × NodeId}
    (he : e ∈ entries) : Trail.path (e :: t) = Path.join t.path e.1 :=
  Trail.path_cons (h.isName hfs hroot) (hfs.isName _ entries hes e he)

omit hfs hroot in
theorem Below.checkPath (h : fs.Below root t) (hclear : fs.Clear root) (hdir : fs.isDirectory t.node = true) :
    checkPath t.path = .ok () := by
  obtain ⟨listed, hlisted⟩ := hclear t h hdir
  rw [Files.listing] at hlisted
  cases htrail : fs.trailTo .follow t.path with
  | error f =>
    rw [htrail] at hlisted
    cases hlisted
  | ok trail => exact (trailTo_eq_ok_iff.1 htrail).1

theorem Below.listing (h : fs.Below root t) (hclear : fs.Clear root) (hes : fs.entries? t.node = some entries) :
    fs.listing t.path = .ok (t.node, entries.map fun e => (e.1, fs.kindOf e.2)) ∧ t.path.length ≤ Path.maxPath := by
  have hdir : fs.isDirectory t.node = true := by rw [isDirectory, hes]; rfl
  have hcheck := h.checkPath hclear hdir
  refine ⟨?_, (checkPath_eq_ok_iff.1 hcheck).2.2⟩
  rw [Files.listing, (h.stands hfs hroot hdir).trailTo hcheck]
  simp only [bind, Except.bind, hes]
  rfl

/-- **Every walk comes to its end** where directories can be listed: paths get longer on the way down. -/
theorem exists_visits (hclear : fs.Clear root) : ∀ (room : Nat) (pending : List Trail) {rest visited : List Trail},
    (∀ t ∈ pending, fs.Below root t ∧ Path.maxPath + 1 - t.path.length < room) → fs.Visits rest visited →
      ∃ all, fs.Visits (pending ++ rest) all
  | _, [], _, _, _, hrest => ⟨_, hrest⟩
  | 0, t :: _, _, _, hpending, _ => absurd (hpending t List.mem_cons_self).2 (Nat.not_lt_zero _)
  | room + 1, t :: pending, rest, visited, hpending, hrest => by
    obtain ⟨⟨hbelow, hroom⟩, hothers⟩ := List.forall_mem_cons.1 hpending
    obtain ⟨others, hvisits⟩ := exists_visits hclear (room + 1) pending hothers hrest
    cases hes : fs.entries? t.node with
    | none => exact ⟨_, .passes t hes hvisits⟩
    | some entries =>
      have hshort := (hbelow.listing hfs hroot hclear hes).2
      have hentries : ∀ c ∈ (ordered entries).map fun e => e :: t,
          fs.Below root c ∧ Path.maxPath + 1 - (Trail.path c).length < room := by
        intro c hc
        obtain ⟨e, he, rfl⟩ := List.mem_map.1 hc
        have hmem := mem_ordered.1 he
        have hname := hfs.isName _ entries hes e hmem
        have hlonger := Path.length_lt_join t.path hname.nonempty hname.slash
        rw [← hbelow.path_entry hfs hroot hes hmem] at hlonger
        exact ⟨.entry hbelow hes hmem, by omega⟩
      obtain ⟨all, hall⟩ := exists_visits hclear room _ hentries hvisits
      exact ⟨_, .enters t hes hall⟩
termination_by room pending => (room, pending.length)

theorem exists_walk (hclear : fs.Clear root) : ∃ walk, fs.Visits [root] walk := by
  have hone : ∀ t ∈ [root], fs.Below root t ∧ Path.maxPath + 1 - t.path.length < Path.maxPath + 2 :=
    List.forall_mem_singleton.2 ⟨.root, by omega⟩
  exact exists_visits hfs hroot hclear _ [root] hone .done

end Files
end LineShell
