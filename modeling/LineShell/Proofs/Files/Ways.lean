import LineShell.Proofs.Files.Lookups
/-!
# Ways — the names of a path, walked one after the other

A path is walked along its names (`Path.names`), which are the pieces between its slashes that are not empty; a path that
is read from another has the names of both (`Path.names_join`).  A walk along two rows of names is a walk along the one and
then along the other, whatever links are on the way (`walks_append_iff`).  A trail that a walk has come to `Stands`: each of
its names is an entry of the directory before it and leads to no link.  So the path that spells the trail leads to it, and
follows no link (`Stands.trailTo`).
-/
namespace LineShell

open Bytes (slash)

namespace Path

variable {p base name : Path}

/-- What one byte does to the piece that is read, last byte first, and to those behind it. -/
def cut (read : Bytes × List Bytes) (b : UInt8) : Bytes × List Bytes :=
  if b = slash then ([], List.reverse read.1 :: read.2) else (b :: read.1, read.2)

theorem foldl_cut (p current : Bytes) (done : List Bytes) :
    ((p.foldl cut (current, done)).1.reverse :: (p.foldl cut (current, done)).2).reverse =
      done.reverse ++ p.splitOnPPrepend (· == slash) current := by
  induction p generalizing current done with
  | nil => simp
  | cons b p ih =>
    rw [List.foldl_cons, List.splitOnPPrepend_cons_eq_if]
    by_cases hb : b = slash
    · rw [cut, if_pos hb, if_pos (beq_iff_eq.2 hb), ih]
      simp
    · rw [cut, if_neg hb, if_neg (mt beq_iff_eq.1 hb)]
      exact ih (b :: current) done

theorem pieces_eq_splitOn (p : Path) : pieces p = p.splitOn slash := foldl_cut p [] []

/-- The names that a path is walked along: its pieces that are not empty. -/
def names (p : Path) : List Bytes := (pieces p).filter (fun n => !n.isEmpty)

def slashed (p : Path) : Bool := !(names p).isEmpty && ((pieces p).getLast?.getD []).isEmpty

theorem steps_eq (p : Path) : steps p = if slashed p then names p ++ [[]] else names p := rfl

theorem filter_steps (p : Path) : (steps p).filter (fun n => !n.isEmpty) = names p := by
  rw [steps_eq, apply_ite (List.filter _), List.filter_append, names, List.filter_filter]
  simp

theorem names_of_not_mem (h : slash ∉ p) (hne : p ≠ []) : names p = [p] ∧ slashed p = false := by
  have hpieces : pieces p = [p] := (pieces_eq_splitOn p).trans (List.splitOn_eq_singleton h)
  simp [slashed, names, hpieces, hne]

theorem slash_not_mem_pieces (p : Path) : ∀ n ∈ pieces p, slash ∉ n := by
  rw [pieces_eq_splitOn]
  induction p with
  | nil => simp
  | cons b p ih =>
    rw [List.splitOn_cons_eq_if_modifyHead]
    obtain ⟨first, rest, hsplit⟩ := List.exists_cons_of_ne_nil (List.splitOn_ne_nil slash p)
    rw [hsplit] at ih ⊢
    simp only [List.mem_cons, forall_eq_or_imp] at ih
    by_cases hb : b = slash
    · simpa [hb, ih.1] using ih.2
    · rw [if_neg (by simp [hb])]
      simpa [Ne.symm hb, ih.1] using ih.2

theorem slash_not_mem_steps (p : Path) : ∀ n ∈ steps p, slash ∉ n := by
  intro n hn
  have hnames : ∀ n ∈ names p, slash ∉ n := fun n hn => slash_not_mem_pieces p n (List.mem_filter.1 hn).1
  rw [steps_eq] at hn
  split at hn
  · rcases List.mem_append.1 hn with hn | hn
    · exact hnames n hn
    · rw [List.mem_singleton.1 hn]
      simp
  · exact hnames n hn

theorem names_append_slash (p q : Path) : names (p ++ slash :: q) = names p ++ names q := by
  simp only [names, pieces_eq_splitOn, List.splitOn_append_cons_self, List.filter_append]

theorem join_of_isAbsolute (h : name.isAbsolute) (base : Path) : join base name = name := if_pos h

theorem join_ne_nil (hne : name ≠ []) (base : Path) : join base name ≠ [] := by
  unfold join
  split
  · exact hne
  · split
    · exact hne
    · split <;> simp [hne]

theorem mem_join {b : UInt8} (h : b ∈ join base name) : b ∈ base ∨ b = slash ∨ b ∈ name := by
  unfold join at h
  split at h
  · exact .inr (.inr h)
  · split at h
    · exact .inr (.inr h)
    · split at h
      · exact (List.mem_append.1 h).imp_right .inr
      · simpa using h

theorem isAbsolute_join_of_relative (h : ¬ name.isAbsolute) (hne : base ≠ []) :
    (join base name).isAbsolute = base.isAbsolute := by
  obtain ⟨b, rest, rfl⟩ := List.exists_cons_of_ne_nil hne
  rw [join, if_neg h]
  split
  · next hlast => simp at hlast
  · split <;> rfl

theorem isAbsolute_join (h : base.isAbsolute) (name : Path) : (join base name).isAbsolute := by
  by_cases hname : name.isAbsolute
  · rwa [join_of_isAbsolute hname]
  · rwa [isAbsolute_join_of_relative hname]
    rintro rfl
    cases h

/-- **A name read from a path** has the names of the path before its own, unless it is absolute. -/
theorem names_join (h : ¬ name.isAbsolute) (base : Path) : names (join base name) = names base ++ names name := by
  rw [join, if_neg h]
  split
  · next hlast =>
    rw [List.getLast?_eq_none_iff.1 hlast]
    rfl
  · next b hlast =>
    split
    · next hb =>
      obtain ⟨front, rfl⟩ := List.getLast?_eq_some_iff.1 (hb ▸ hlast)
      rw [List.append_assoc, List.singleton_append, names_append_slash, names_append_slash]
      simp [names, pieces_eq_splitOn]
    · exact names_append_slash base name

theorem names_join_join (h : ¬ name.isAbsolute) {middle : Path} (hne : middle ≠ []) (base : Path) :
    names (join base (join middle name)) = names (join base middle) ++ names name := by
  by_cases hmiddle : middle.isAbsolute
  · rw [join_of_isAbsolute hmiddle, join_of_isAbsolute (isAbsolute_join hmiddle name), names_join h]
  · have hboth : ¬ (join middle name).isAbsolute := by rwa [isAbsolute_join_of_relative h hne]
    rw [names_join hboth, names_join hmiddle, names_join h, List.append_assoc]

theorem slashed_join (h : slash ∉ name) (hne : name ≠ []) (base : Path) : slashed (join base name) = false := by
  have hlast : ∀ front : Path, slashed (front ++ slash :: name) = false := by
    intro front
    simp [slashed, pieces_eq_splitOn, List.splitOn_append_cons_self, List.splitOn_eq_singleton h, hne]
  unfold join
  split
  · exact (names_of_not_mem h hne).2
  · split
    · exact (names_of_not_mem h hne).2
    · next b hb =>
      split
      · next hslash =>
        obtain ⟨front, rfl⟩ := List.getLast?_eq_some_iff.1 (hslash ▸ hb)
        rw [List.append_assoc]
        exact hlast front
      · exact hlast base

/-- **A path ends in a name**: it is neither `.` nor `..`, and no slash stands behind it. -/
structure EndsIn (p : Path) (n : Bytes) : Prop where
  last : names p = (names p).dropLast ++ [n]
  slashed : slashed p = false
  here : n ≠ Path.here
  up : n ≠ Path.up

theorem EndsIn.steps {n : Bytes} (h : EndsIn p n) : steps p = (names p).dropLast ++ [n] := by
  rw [steps_eq, h.slashed, if_neg Bool.false_ne_true]
  exact h.last

theorem EndsIn.nonempty {n : Bytes} (h : EndsIn p n) : n ≠ [] := by
  have hmem : n ∈ names p := h.last ▸ List.mem_append_right _ (List.mem_singleton_self n)
  simpa using (List.mem_filter.1 hmem).2

structure IsName (n : Bytes) : Prop where
  nonempty : n ≠ []
  slash : slash ∉ n
  here : n ≠ Path.here
  up : n ≠ Path.up
  short : n.length ≤ maxName

instance {n : Bytes} : Decidable (IsName n) :=
  decidable_of_iff (n ≠ [] ∧ slash ∉ n ∧ n ≠ here ∧ n ≠ up ∧ n.length ≤ maxName)
    ⟨fun ⟨nonempty, slash, here, up, short⟩ => ⟨nonempty, slash, here, up, short⟩,
      fun h => ⟨h.nonempty, h.slash, h.here, h.up, h.short⟩⟩

end Path

/-! ## The path that spells a trail -/

namespace Trail

def names (t : Trail) : List Bytes := t.reverse.map Prod.fst

theorem names_cons (n : Bytes) (id : NodeId) (t : Trail) : names ((n, id) :: t) = names t ++ [n] := by
  simp [names]

theorem isAbsolute_path (t : Trail) : t.path.isAbsolute := by
  unfold path
  split
  · rfl
  · next h =>
    have hne : t.reverse ≠ [] := by simpa using h
    obtain ⟨step, rest, hsteps⟩ := List.exists_cons_of_ne_nil hne
    rw [hsteps]
    rfl

theorem flatMap_slash (ns : List Bytes) : ns.flatMap (fun n => slash :: n) = [slash].intercalate ([] :: ns) := by
  induction ns with
  | nil => rfl
  | cons n ns ih =>
    rw [List.flatMap_cons, ih, List.intercalate_cons_cons]
    cases ns with
    | nil => simp
    | cons m ns => simp [List.intercalate_cons_cons]

theorem pieces_path {t : Trail} (ht : t ≠ []) (h : ∀ n ∈ t.names, slash ∉ n) : t.path.pieces = [] :: t.names := by
  have hpath : t.path = [slash].intercalate ([] :: t.names) := by
    rw [path, if_neg (by simpa using ht), ← flatMap_slash, names, List.flatMap_map]
  rw [Path.pieces_eq_splitOn, hpath]
  refine List.splitOn_intercalate slash ?_ (List.cons_ne_nil _ _)
  simpa using h

theorem steps_path {t : Trail} (h : ∀ n ∈ t.names, n ≠ [] ∧ slash ∉ n) : t.path.steps = t.names := by
  by_cases ht : t = []
  · subst ht
    rfl
  have hpieces := pieces_path ht fun n hn => (h n hn).2
  have hnames : t.path.names = t.names := by
    rw [Path.names, hpieces, List.filter_cons_of_neg (by simp), List.filter_eq_self]
    simpa using fun n hn => (h n hn).1
  have hslashed : t.path.slashed = false := by
    have hne : t.names ≠ [] := by simpa [names] using ht
    have hlast := List.getLast?_eq_some_getLast hne
    rw [Path.slashed, hpieces, List.getLast?_cons, hlast]
    simp [(h _ (List.getLast_mem hne)).1]
  rw [Path.steps_eq, hslashed, hnames]
  rfl

end Trail

namespace Files

variable {fs : Files} {e : Ending} {here dir mid t t' : Trail} {name : Path} {names xs ys rest : List Bytes} {id : NodeId}
  {p : Path} {hops hops' : Nat} {place : Place}

theorem trailTo_eq_ok_iff : fs.trailTo e p = .ok t ↔
    checkPath p = .ok () ∧ fs.Reaches e (.found t) maxLinks (startOf fs.cwd p) p.steps := by
  rw [← lookup_eq_ok_iff, trailTo]
  cases fs.lookup e p with
  | error f => simp [Bind.bind, Except.bind]
  | ok place => cases place <;> simp [Bind.bind, Except.bind]

theorem checkPath_eq_ok_iff : checkPath p = .ok () ↔ 0 ∉ p ∧ p ≠ [] ∧ p.length ≤ Path.maxPath := by
  unfold checkPath
  by_cases hnul : 0 ∈ p
  · simp [hnul]
  by_cases hempty : p = []
  · simp [hempty]
  by_cases hlong : Path.maxPath < p.length
  · simp [hnul, hempty, hlong]
  · simp [hnul, hempty, hlong, Nat.le_of_not_lt hlong]

theorem checkPath_join (hp : 0 ∉ p) (hname : 0 ∉ name) (hne : name ≠ []) (hlong : (p.join name).length ≤ Path.maxPath) :
    checkPath (p.join name) = .ok () := by
  refine checkPath_eq_ok_iff.2 ⟨fun hmem => ?_, Path.join_ne_nil hne p, hlong⟩
  rcases Path.mem_join hmem with hmem | hmem | hmem
  · exact hp hmem
  · cases hmem
  · exact hname hmem

theorem metadata_eq_ok_iff {m : Metadata} : fs.metadata e p = .ok m ↔
    ∃ trail node, fs.trailTo e p = .ok trail ∧ fs.node? trail.node = some node ∧ node.metadata = m := by
  unfold metadata
  cases fs.trailTo e p with
  | error f => simp [Bind.bind, Except.bind]
  | ok trail =>
    dsimp only [Bind.bind, Except.bind]
    cases hnode : fs.node? trail.node with
    | none => simp [hnode]
    | some node => simp [hnode]

theorem canonical_eq_ok_iff {q : Path} : fs.canonical p = .ok q ↔
    ∃ trail, fs.trailTo .follow p = .ok trail ∧ trail.path.length ≤ Path.maxPath ∧ trail.path = q := by
  unfold canonical
  cases fs.trailTo .follow p with
  | error f => simp [Bind.bind, Except.bind]
  | ok trail =>
    show (if Path.maxPath < trail.path.length then Except.error _ else .ok trail.path) = _ ↔ _
    split
    · next hlong => simp [Nat.not_le.2 hlong]
    · next hshort => simp [Nat.le_of_not_lt hshort]

theorem entries?_eq_some_iff {entries : List (Bytes × NodeId)} : fs.entries? id = some entries ↔
    ∃ removed mode modified, fs.node? id = some ⟨.directory entries removed, mode, modified⟩ := by
  unfold entries?
  split
  · next h => simp [h]
  · next h =>
    refine ⟨nofun, ?_⟩
    rintro ⟨removed, mode, modified, hn⟩
    exact absurd hn (h _ _ _ _)

theorem entries?_of_link? {target : Path} (h : fs.link? id = some target) : fs.entries? id = none := by
  unfold link? at h
  unfold entries?
  split
  · next hn =>
    rw [hn] at h
    cases h
  · rfl

/-! ## Walks in two parts -/

theorem Reaches.mono (h : fs.Reaches e place hops here names) (hle : hops ≤ hops') :
    fs.Reaches e place hops' here names := by
  induction h generalizing hops' with
  | arrives hp => exact .arrives hp
  | stays hes hhere _ ih => exact .stays hes hhere (ih hle)
  | climbs hes hhere hup _ ih => exact .climbs hes hhere hup (ih hle)
  | missing hes hplain hnone hp => exact .missing hes hplain hnone hp
  | held hes hplain hid hlink he hp => exact .held hes hplain hid hlink he hp
  | follows hes hplain hid hlink hkeep _ ih =>
    obtain ⟨hops', rfl⟩ := Nat.exists_eq_add_of_le' (Nat.lt_of_lt_of_le (Nat.succ_pos _) hle)
    exact .follows hes hplain hid hlink hkeep (ih (Nat.le_of_succ_le_succ hle))
  | enters hes hplain hid hlink _ ih => exact .enters hes hplain hid hlink (ih hle)

theorem Plain.of_ne_make {e' : Ending} {rest' : List Bytes} (h : Plain e name rest) (he : e' ≠ .make) :
    Plain e' name rest' :=
  ⟨h.here, h.up, h.short, fun hlast => he hlast.1⟩

/-- **A walk that has arrived goes on** from where it is; a link at the end of the first part is followed. -/
theorem Reaches.append (h : fs.Reaches .follow (.found mid) hops here names)
    (h' : fs.Reaches e place hops' mid rest) (he : e ≠ .make) (hrest : e = .follow ∨ rest ≠ []) :
    fs.Reaches e place (hops + hops') here (names ++ rest) := by
  induction h with
  | arrives hp =>
    cases hp
    exact h'.mono (Nat.le_add_left _ _)
  | stays hes hhere _ ih => exact .stays hes hhere ih
  | climbs hes hhere hup _ ih => exact .climbs hes hhere hup ih
  | missing _ _ _ hp => cases hp
  | held _ _ _ _ he => cases he
  | @follows hops here name names entries id target hes hplain hid hlink _ _ ih =>
    rw [Nat.add_right_comm]
    -- A link that the first part ends in is followed in the whole too, since names come behind it or the end is followed.
    refine .follows hes (hplain.of_ne_make he) hid hlink ?_ (by rwa [List.append_assoc] at ih)
    rcases hrest with rfl | hne
    · simp
    · simp [hne]
  | enters hes hplain hid hlink _ ih => exact .enters hes (hplain.of_ne_make he) hid hlink ih

/-- **A walk comes by the end of its first part**, and a link there is followed. -/
theorem Reaches.split (h : fs.Reaches e place hops here (names ++ rest)) (hrest : rest ≠ []) :
    ∃ mid hops', hops' ≤ hops ∧ fs.Reaches .follow (.found mid) hops here names ∧ fs.Reaches e place hops' mid rest := by
  have hfollow : Ending.follow ≠ .make := by decide
  -- By induction on the walk: where the first part has no names left, the walk is at `mid`.
  generalize hall : names ++ rest = all at h
  induction h generalizing names with
  | @arrives hops here hp => simp [hrest] at hall
  | @stays hops here name tail entries hes hhere h ih =>
    rcases List.append_eq_cons_iff.1 hall with ⟨rfl, rfl⟩ | ⟨names, rfl, rfl⟩
    · exact ⟨here, hops, Nat.le_refl _, .arrives rfl, .stays hes hhere h⟩
    · obtain ⟨mid, hops', hle, hfront, hback⟩ := ih rfl
      exact ⟨mid, hops', hle, .stays hes hhere hfront, hback⟩
  | @climbs hops here name tail entries hes hhere hup h ih =>
    rcases List.append_eq_cons_iff.1 hall with ⟨rfl, rfl⟩ | ⟨names, rfl, rfl⟩
    · exact ⟨here, hops, Nat.le_refl _, .arrives rfl, .climbs hes hhere hup h⟩
    · obtain ⟨mid, hops', hle, hfront, hback⟩ := ih rfl
      exact ⟨mid, hops', hle, .climbs hes hhere hup hfront, hback⟩
  | @missing hops here name entries hes hplain hnone hp =>
    rcases List.append_eq_cons_iff.1 hall with ⟨rfl, rfl⟩ | ⟨names, rfl, hnil⟩
    · exact ⟨here, hops, Nat.le_refl _, .arrives rfl, .missing hes hplain hnone hp⟩
    · simp [hrest] at hnil
  | @held hops here name entries id target hes hplain hid hlink hkeep hp =>
    rcases List.append_eq_cons_iff.1 hall with ⟨rfl, rfl⟩ | ⟨names, rfl, hnil⟩
    · exact ⟨here, hops, Nat.le_refl _, .arrives rfl, .held hes hplain hid hlink hkeep hp⟩
    · simp [hrest] at hnil
  | @follows hops here name tail entries id target hes hplain hid hlink hkeep h ih =>
    rcases List.append_eq_cons_iff.1 hall with ⟨rfl, rfl⟩ | ⟨names, rfl, rfl⟩
    · exact ⟨here, hops + 1, Nat.le_refl _, .arrives rfl, .follows hes hplain hid hlink hkeep h⟩
    · obtain ⟨mid, hops', hle, hfront, hback⟩ := ih (List.append_assoc _ _ _)
      exact ⟨mid, hops', Nat.le_succ_of_le hle, .follows hes (hplain.of_ne_make hfollow) hid hlink (by simp) hfront, hback⟩
  | @enters hops here name tail entries id hes hplain hid hlink h ih =>
    rcases List.append_eq_cons_iff.1 hall with ⟨rfl, rfl⟩ | ⟨names, rfl, rfl⟩
    · exact ⟨here, hops, Nat.le_refl _, .arrives rfl, .enters hes hplain hid hlink h⟩
    · obtain ⟨mid, hops', hle, hfront, hback⟩ := ih rfl
      exact ⟨mid, hops', hle, .enters hes (hplain.of_ne_make hfollow) hid hlink hfront, hback⟩

/-- **Names lead from one trail to another**, however many links are followed. -/
def Walks (fs : Files) (here : Trail) (names : List Bytes) (t : Trail) : Prop :=
  ∃ hops, fs.Reaches .follow (.found t) hops here names

theorem Walks.unique (h : fs.Walks here names t) (h' : fs.Walks here names t') : t = t' := by
  obtain ⟨hops, h⟩ := h
  obtain ⟨hops', h'⟩ := h'
  cases (h.mono (Nat.le_add_right hops hops')).unique (h'.mono (Nat.le_add_left hops' hops))
  rfl

/-- **A walk along two rows of names** is one along the first and then one along the second. -/
theorem walks_append_iff : fs.Walks here (xs ++ ys) t ↔ ∃ mid, fs.Walks here xs mid ∧ fs.Walks mid ys t := by
  constructor
  · rintro ⟨hops, h⟩
    by_cases hys : ys = []
    · subst hys
      rw [List.append_nil] at h
      exact ⟨t, ⟨hops, h⟩, 0, .arrives rfl⟩
    · obtain ⟨mid, hops', -, hfront, hback⟩ := h.split hys
      exact ⟨mid, ⟨hops, hfront⟩, hops', hback⟩
  · rintro ⟨mid, ⟨hops, hfront⟩, hops', hback⟩
    exact ⟨hops + hops', hfront.append hback (by decide) (.inl rfl)⟩

theorem walks_steps_iff : fs.Walks here p.steps t ↔
    fs.Walks here p.names t ∧ (p.slashed = true → fs.isDirectory t.node = true) := by
  have hempty : ∀ {mid : Trail}, fs.Walks mid [[]] t ↔ mid = t ∧ fs.isDirectory t.node = true := by
    intro mid
    constructor
    · rintro ⟨hops, h⟩
      cases h with
      | stays hes _ h =>
        cases h with
        | arrives hp =>
          cases hp
          exact ⟨rfl, by rw [isDirectory, hes]; rfl⟩
      | climbs _ hhere _ _ => exact absurd rfl hhere
      | missing _ hplain | held _ hplain | follows _ hplain | enters _ hplain => exact absurd rfl hplain.here
    · rintro ⟨rfl, hdir⟩
      obtain ⟨entries, hes⟩ := Option.isSome_iff_exists.1 hdir
      exact ⟨0, .stays hes rfl (.arrives rfl)⟩
  rw [Path.steps_eq]
  by_cases hslashed : p.slashed = true
  · rw [if_pos hslashed, walks_append_iff]
    constructor
    · rintro ⟨mid, hwalks, hmid⟩
      obtain ⟨rfl, hdir⟩ := hempty.1 hmid
      exact ⟨hwalks, fun _ => hdir⟩
    · rintro ⟨hwalks, hdir⟩
      exact ⟨t, hwalks, hempty.2 ⟨rfl, hdir hslashed⟩⟩
  · simp [hslashed]

theorem walks_of_trailTo (h : fs.trailTo .follow p = .ok t) : fs.Walks (startOf fs.cwd p) p.names t :=
  (walks_steps_iff.1 ⟨_, (trailTo_eq_ok_iff.1 h).2⟩).1

theorem reaches_names (h : fs.trailTo .follow p = .ok t) :
    fs.Reaches .follow (.found t) maxLinks (startOf fs.cwd p) p.names := by
  have hreaches := (trailTo_eq_ok_iff.1 h).2
  rw [Path.steps_eq] at hreaches
  split at hreaches
  · obtain ⟨mid, hops, -, hfront, -⟩ := hreaches.split (List.cons_ne_nil [] [])
    rwa [← Walks.unique ⟨_, hfront⟩ (walks_of_trailTo h)]
  · exact hreaches

theorem startOf_join (h : ¬ name.isAbsolute) (hne : p ≠ []) (dir : Trail) : startOf dir (p.join name) = startOf dir p := by
  rw [startOf, Path.isAbsolute_join_of_relative h hne, startOf]

theorem startOf_of_isAbsolute (h : p.isAbsolute) (dir : Trail) : startOf dir p = [] := if_pos h

/-! ## Trails without links -/

/-- **A trail stands in a tree**: each name is an entry of the directory before it, and leads to no link. -/
def Stands (fs : Files) : Trail → Prop
  | [] => True
  | (name, id) :: dir =>
    fs.Stands dir ∧ Path.IsName name ∧ fs.child? (Trail.node dir) name = some id ∧ fs.link? id = none

theorem Stands.tail (h : fs.Stands t) : fs.Stands t.tail := by
  cases t with
  | nil => exact h
  | cons => exact h.1

theorem Stands.isName (h : fs.Stands t) : ∀ n ∈ t.names, Path.IsName n := by
  induction t with
  | nil => simp [Trail.names]
  | cons step t ih =>
    intro n hn
    rw [Trail.names_cons] at hn
    rcases List.mem_append.1 hn with hn | hn
    · exact ih h.1 n hn
    · rw [List.mem_singleton.1 hn]
      exact h.2.1

theorem child?_of_lookup {entries : List (Bytes × NodeId)} (hes : fs.entries? dir.node = some entries)
    (hid : entries.lookup name = some id) : fs.child? dir.node name = some id := by
  rw [child?, hes]
  exact hid

theorem Plain.isName (h : Plain e name rest) (hslash : slash ∉ name) : Path.IsName name where
  nonempty := by
    rintro rfl
    exact h.here rfl
  slash := hslash
  here := by
    rintro rfl
    exact h.here rfl
  up := by
    rintro rfl
    exact h.up rfl
  short := Nat.le_of_not_lt h.short

theorem plain_of_isName (h : Path.IsName name) (he : e ≠ .make) : Plain e name rest where
  here := by simp [isHere, h.nonempty, h.here]
  up := by simp [h.up]
  short := Nat.not_lt.2 h.short
  last := fun hlast => he hlast.1

/-- **What a walk comes to stands**, if it set out from a trail that does. -/
theorem Reaches.stands (h : fs.Reaches .follow (.found t) hops here names) (hhere : fs.Stands here)
    (hslash : ∀ n ∈ names, slash ∉ n) : fs.Stands t := by
  induction h with
  | arrives hp =>
    cases hp
    exact hhere
  | stays _ _ _ ih => exact ih hhere fun n hn => hslash n (List.mem_cons_of_mem _ hn)
  | climbs _ _ _ _ ih => exact ih hhere.tail fun n hn => hslash n (List.mem_cons_of_mem _ hn)
  | missing _ _ _ hp => cases hp
  | held _ _ _ _ he => cases he
  | follows _ _ _ _ _ _ ih =>
    refine ih ?_ fun n hn => ?_
    · unfold startOf
      split
      · trivial
      · exact hhere
    · rcases List.mem_append.1 hn with hn | hn
      · exact Path.slash_not_mem_steps _ n hn
      · exact hslash n (List.mem_cons_of_mem _ hn)
  | enters hes hplain hid hlink _ ih =>
    have hname := hplain.isName (hslash _ List.mem_cons_self)
    exact ih ⟨hhere, hname, child?_of_lookup hes hid, hlink⟩ fun n hn => hslash n (List.mem_cons_of_mem _ hn)

theorem Stands.reaches (h : fs.Stands t) : fs.Reaches .follow (.found t) 0 [] t.names := by
  induction t with
  | nil => exact .arrives rfl
  | cons step t ih =>
    obtain ⟨ht, hname, hchild, hlink⟩ := h
    obtain ⟨entries, hes, hid⟩ := Option.bind_eq_some_iff.1 hchild
    rw [Trail.names_cons]
    have hlast : fs.Reaches .follow (.found (step :: t)) 0 t [step.1] :=
      .enters hes (plain_of_isName hname (by decide)) hid hlink (.arrives rfl)
    exact (ih ht).append hlast (by decide) (.inl rfl)

theorem Stands.steps_path (h : fs.Stands t) : t.path.steps = t.names :=
  Trail.steps_path fun n hn => ⟨(h.isName n hn).nonempty, (h.isName n hn).slash⟩

theorem checkPath_path (hnul : 0 ∉ t.path) (hlong : t.path.length ≤ Path.maxPath) : checkPath t.path = .ok () := by
  refine checkPath_eq_ok_iff.2 ⟨hnul, fun hnil => ?_, hlong⟩
  have habs := t.isAbsolute_path
  rw [hnil] at habs
  cases habs

/-- **The path that spells a trail leads to it**, if it can be looked up at all. -/
theorem Stands.trailTo (h : fs.Stands t) (hcheck : checkPath t.path = .ok ()) : fs.trailTo .follow t.path = .ok t := by
  refine trailTo_eq_ok_iff.2 ⟨hcheck, ?_⟩
  rw [startOf_of_isAbsolute t.isAbsolute_path, h.steps_path]
  exact h.reaches.mono (Nat.zero_le _)

theorem Stands.trailTo_keep (h : fs.Stands t) (hcheck : checkPath t.path = .ok ()) : fs.trailTo .keep t.path = .ok t := by
  refine trailTo_eq_ok_iff.2 ⟨hcheck, ?_⟩
  rw [startOf_of_isAbsolute t.isAbsolute_path, h.steps_path]
  cases t with
  | nil => exact .arrives rfl
  | cons step t =>
    obtain ⟨ht, hname, hchild, hlink⟩ := h
    obtain ⟨entries, hes, hid⟩ := Option.bind_eq_some_iff.1 hchild
    rw [Trail.names_cons]
    have hlast : fs.Reaches .keep (.found (step :: t)) 0 t [step.1] :=
      .enters hes (plain_of_isName hname (by decide)) hid hlink (.arrives rfl)
    exact (ht.reaches.append hlast (by decide) (.inr (List.cons_ne_nil _ _))).mono (Nat.zero_le _)

theorem Stands.names_path (h : fs.Stands t) : t.path.names = t.names := by
  rw [← Path.filter_steps, h.steps_path, List.filter_eq_self]
  simpa using fun n hn => (h.isName n hn).nonempty

theorem Stands.walks (h : fs.Stands t) : fs.Walks [] t.names t := ⟨0, h.reaches⟩

theorem stands_of_trailTo (h : fs.trailTo .follow p = .ok t) (hp : p.isAbsolute) : fs.Stands t := by
  have hreaches := (trailTo_eq_ok_iff.1 h).2
  rw [startOf_of_isAbsolute hp] at hreaches
  exact hreaches.stands trivial (Path.slash_not_mem_steps p)

/-! ## What all names of a tree have in common -/

def EveryName (fs : Files) (P : Bytes → Prop) : Prop :=
  ∀ id entries, fs.entries? id = some entries → ∀ e ∈ entries, P e.1

variable {P : Bytes → Prop}

def listed (node : Node) : List Bytes :=
  match node.content with
  | .directory entries _ => entries.map Prod.fst
  | _ => []

theorem exists_listed {entries : List (Bytes × NodeId)} (hes : fs.entries? id = some entries) :
    ∃ node ∈ fs.nodes.toList, listed node = entries.map Prod.fst := by
  unfold entries? at hes
  split at hes
  · next hn =>
    cases hes
    exact ⟨_, Array.mem_toList_iff.2 (Array.mem_of_getElem? hn), rfl⟩
  · cases hes

theorem everyName_of_nodes (h : ∀ node ∈ fs.nodes.toList, ∀ n ∈ listed node, P n) : fs.EveryName P := by
  intro id entries hes e he
  obtain ⟨node, hnode, hlisted⟩ := exists_listed hes
  exact h node hnode e.1 (hlisted ▸ List.mem_map_of_mem he)

theorem Stands.everyName (h : fs.Stands t) (hP : fs.EveryName P) : ∀ n ∈ t.names, P n := by
  induction t with
  | nil => simp [Trail.names]
  | cons step t ih =>
    obtain ⟨ht, -, hchild, -⟩ := h
    obtain ⟨entries, hes, hid⟩ := Option.bind_eq_some_iff.1 hchild
    obtain ⟨front, back, hsplit, -⟩ := List.lookup_eq_some_iff.1 hid
    intro n hn
    rw [Trail.names_cons] at hn
    rcases List.mem_append.1 hn with hn | hn
    · exact ih ht n hn
    · rw [List.mem_singleton.1 hn]
      refine hP _ entries hes step ?_
      rw [hsplit]
      exact List.mem_append_right _ List.mem_cons_self

end Files
end LineShell
