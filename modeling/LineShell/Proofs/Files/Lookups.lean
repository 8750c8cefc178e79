import LineShell.Files.Change
/-!
# Lookups — where paths lead when files change

A lookup that ends at a place is a derivation (`Reaches`), one rule for each thing that a name can be.  What a path leads
to depends on directories and links alone: so paths lead to the same places in trees that are `Alike`, whatever their files
hold; and in a tree that has more entries (`Extends`) a path that led somewhere leads there still, and one that led to where
a name is missing leads to what is entered there.  A file that is to be made or emptied is found where it would be found for
reading (`create_cases`).
-/
namespace LineShell
namespace Files

variable {fs fs' fs'' : Files} {e : Ending} {here dir trail : Trail} {name : Bytes} {names rest : List Bytes} {id : NodeId}
  {target : Path} {p : Path} {hops : Nat} {place : Place}

def link? (fs : Files) (id : NodeId) : Option Path :=
  match (fs.node? id).map Node.content with
  | some (.link target) => some target
  | _ => none

def isHere (name : Bytes) : Bool := name.isEmpty || name == Path.here

theorem advance_cons (fs : Files) (e : Ending) (here : Trail) (name : Bytes) (rest : List Bytes) :
    fs.advance e here (name :: rest) =
      match fs.entries? here.node with
      | none => .failed .notDirectory
      | some entries =>
        if isHere name then fs.advance e here rest
        else if name == Path.up then fs.advance e here.tail rest
        else if Path.maxName < name.length then .failed .nameTooLong
        else if e = .make ∧ rest ≠ [] ∧ rest.all List.isEmpty then .failed .isDirectory
        else
          match entries.lookup name with
          | none => if rest.isEmpty then .arrived (.absent here name) else .failed .notFound
          | some id =>
            match fs.link? id with
            | some target =>
              if rest.isEmpty && e == .keep then .arrived (.found ((name, id) :: here)) else .link here target rest
            | none => fs.advance e ((name, id) :: here) rest := by
  rw [advance]
  cases fs.entries? here.node with
  | none => rfl
  | some entries =>
    dsimp only
    cases entries.lookup name with
    | none => rfl
    | some id =>
      rcases hc : (fs.node? id).map Node.content with _ | ⟨_ | _ | _ | _⟩ <;> simp only [hc, link?, isHere]

/-! ## Lookups as derivations -/

/-- A name that is looked up among the entries of a directory. -/
structure Plain (e : Ending) (name : Bytes) (rest : List Bytes) : Prop where
  here : ¬ isHere name = true
  up : ¬ (name == Path.up) = true
  short : ¬ Path.maxName < name.length
  last : ¬ (e = .make ∧ rest ≠ [] ∧ rest.all List.isEmpty)

/-- **A lookup that ends at a place**, with the links that it may still follow. -/
inductive Reaches (fs : Files) (e : Ending) (place : Place) : Nat → Trail → List Bytes → Prop
  | arrives {hops : Nat} {here : Trail} : place = .found here → Reaches fs e place hops here []
  | stays {hops : Nat} {here : Trail} {name : Bytes} {rest : List Bytes} {entries : List (Bytes × NodeId)} :
      fs.entries? here.node = some entries → isHere name = true → Reaches fs e place hops here rest →
      Reaches fs e place hops here (name :: rest)
  | climbs {hops : Nat} {here : Trail} {name : Bytes} {rest : List Bytes} {entries : List (Bytes × NodeId)} :
      fs.entries? here.node = some entries → ¬ isHere name = true → (name == Path.up) = true →
      Reaches fs e place hops here.tail rest → Reaches fs e place hops here (name :: rest)
  | missing {hops : Nat} {here : Trail} {name : Bytes} {entries : List (Bytes × NodeId)} :
      fs.entries? here.node = some entries → Plain e name [] → entries.lookup name = none →
      place = .absent here name → Reaches fs e place hops here [name]
  | held {hops : Nat} {here : Trail} {name : Bytes} {entries : List (Bytes × NodeId)} {id : NodeId} {target : Path} :
      fs.entries? here.node = some entries → Plain e name [] → entries.lookup name = some id →
      fs.link? id = some target → e = .keep → place = .found ((name, id) :: here) → Reaches fs e place hops here [name]
  | follows {hops : Nat} {here : Trail} {name : Bytes} {rest : List Bytes} {entries : List (Bytes × NodeId)}
      {id : NodeId} {target : Path} :
      fs.entries? here.node = some entries → Plain e name rest → entries.lookup name = some id →
      fs.link? id = some target → ¬ (rest.isEmpty && e == .keep) = true →
      Reaches fs e place hops (startOf here target) (target.steps ++ rest) →
      Reaches fs e place (hops + 1) here (name :: rest)
  | enters {hops : Nat} {here : Trail} {name : Bytes} {rest : List Bytes} {entries : List (Bytes × NodeId)} {id : NodeId} :
      fs.entries? here.node = some entries → Plain e name rest → entries.lookup name = some id →
      fs.link? id = none → Reaches fs e place hops ((name, id) :: here) rest → Reaches fs e place hops here (name :: rest)

theorem resolve_cons (fs : Files) (e : Ending) (hops : Nat) (here : Trail) (name : Bytes) (rest : List Bytes) :
    fs.resolve e hops here (name :: rest) =
      match fs.entries? here.node with
      | none => .error .notDirectory
      | some entries =>
        if isHere name then fs.resolve e hops here rest
        else if name == Path.up then fs.resolve e hops here.tail rest
        else if Path.maxName < name.length then .error .nameTooLong
        else if e = .make ∧ rest ≠ [] ∧ rest.all List.isEmpty then .error .isDirectory
        else
          match entries.lookup name with
          | none => if rest.isEmpty then .ok (.absent here name) else .error .notFound
          | some id =>
            match fs.link? id with
            | some target =>
              if rest.isEmpty && e == .keep then .ok (.found ((name, id) :: here))
              else
                match hops with
                | 0 => .error .tooManyLinks
                | hops + 1 => fs.resolve e hops (startOf here target) (target.steps ++ rest)
            | none => fs.resolve e hops ((name, id) :: here) rest := by
  rw [Files.resolve, advance_cons]
  cases fs.entries? here.node with
  | none => rfl
  | some entries =>
    dsimp only
    by_cases hhere : isHere name = true
    · rw [if_pos hhere, if_pos hhere, Files.resolve]
    by_cases hup : (name == Path.up) = true
    · rw [if_neg hhere, if_neg hhere, if_pos hup, if_pos hup, Files.resolve]
    rw [if_neg hhere, if_neg hhere, if_neg hup, if_neg hup]
    by_cases hlong : Path.maxName < name.length
    · rw [if_pos hlong, if_pos hlong]
    by_cases hlast : e = .make ∧ rest ≠ [] ∧ rest.all List.isEmpty
    · rw [if_neg hlong, if_neg hlong, if_pos hlast, if_pos hlast]
    rw [if_neg hlong, if_neg hlong, if_neg hlast, if_neg hlast]
    cases entries.lookup name with
    | none => cases rest <;> rfl
    | some id =>
      dsimp only
      cases fs.link? id with
      | none => dsimp only; rw [Files.resolve]
      | some target => cases (rest.isEmpty && e == .keep) <;> rfl

theorem reaches_of_resolve (h : fs.resolve e hops here names = .ok place) : Reaches fs e place hops here names := by
  -- Between two links the names are walked along; behind a link there are fewer to follow.
  induction hops using Nat.strongRecOn generalizing here names with
  | ind hops ihops =>
  induction names generalizing here with
  | nil =>
    rw [Files.resolve] at h
    cases h
    exact .arrives rfl
  | cons name rest ih =>
    rw [resolve_cons] at h
    split at h
    · cases h
    next entries hes =>
    split at h
    · exact .stays hes ‹_› (ih h)
    split at h
    · exact .climbs hes ‹_› ‹_› (ih h)
    split at h
    · cases h
    split at h
    · cases h
    have hplain : Plain e name rest := ⟨‹_›, ‹_›, ‹_›, ‹_›⟩
    split at h
    · split at h
      · next hnone hrest =>
        rw [List.isEmpty_iff] at hrest
        subst hrest
        cases h
        exact .missing hes hplain hnone rfl
      · cases h
    next id hid =>
    split at h
    · next target hlink =>
      split at h
      · next hkeep =>
        rw [Bool.and_eq_true, List.isEmpty_iff] at hkeep
        obtain ⟨rfl, he⟩ := hkeep
        cases h
        exact .held hes hplain hid hlink (eq_of_beq he) rfl
      · cases hops with
        | zero => cases h
        | succ hops => exact .follows hes hplain hid hlink ‹_› (ihops hops (Nat.lt_succ_self _) h)
    · exact .enters hes hplain hid ‹_› (ih h)

theorem Reaches.resolve (h : Reaches fs e place hops here names) : fs.resolve e hops here names = .ok place := by
  induction h with
  | arrives hp =>
    rw [Files.resolve, hp]
    rfl
  | stays hes hhere _ ih =>
    rw [resolve_cons, hes]
    exact (if_pos hhere).trans ih
  | climbs hes hhere hup _ ih =>
    rw [resolve_cons, hes]
    exact (if_neg hhere).trans ((if_pos hup).trans ih)
  | missing hes hp hnone hplace =>
    simp only [resolve_cons, hes, if_neg hp.here, if_neg hp.up, if_neg hp.short, if_neg hp.last, hnone, hplace]
    rfl
  | held hes hp hid hlink he hplace =>
    simp only [resolve_cons, hes, if_neg hp.here, if_neg hp.up, if_neg hp.short, hid, hlink, he, hplace]
    rfl
  | follows hes hp hid hlink hkeep _ ih =>
    simp only [resolve_cons, hes, if_neg hp.here, if_neg hp.up, if_neg hp.short, if_neg hp.last, hid, hlink,
      if_neg hkeep]
    exact ih
  | enters hes hp hid hlink _ ih =>
    simp only [resolve_cons, hes, if_neg hp.here, if_neg hp.up, if_neg hp.short, if_neg hp.last, hid, hlink]
    exact ih

/-- **The rules of a lookup are those of `resolve`.** -/
theorem resolve_eq_ok_iff : fs.resolve e hops here names = .ok place ↔ Reaches fs e place hops here names :=
  ⟨reaches_of_resolve, Reaches.resolve⟩

theorem Reaches.unique {place' : Place} (h : Reaches fs e place hops here names)
    (h' : Reaches fs e place' hops here names) : place = place' :=
  Except.ok.inj ((resolve_eq_ok_iff.2 h).symm.trans (resolve_eq_ok_iff.2 h'))

/-! ## Trees with the same directories and links -/

/-- **Two trees differ in what files hold at most.** -/
structure Alike (fs fs' : Files) : Prop where
  cwd : fs'.cwd = fs.cwd
  entries : ∀ id, fs'.entries? id = fs.entries? id
  links : ∀ id, fs'.link? id = fs.link? id

theorem Alike.advance (h : Alike fs fs') (e : Ending) (names : List Bytes) :
    ∀ here, fs'.advance e here names = fs.advance e here names := by
  induction names with
  | nil => exact fun _ => rfl
  | cons name rest ih =>
    intro here
    simp only [advance_cons, h.entries, h.links, ih]

theorem Alike.resolve (h : Alike fs fs') (e : Ending) (hops : Nat) :
    ∀ here names, fs'.resolve e hops here names = fs.resolve e hops here names := by
  induction hops with
  | zero =>
    intro here names
    rw [Files.resolve, Files.resolve, h.advance]
  | succ hops ih =>
    intro here names
    rw [Files.resolve, Files.resolve, h.advance]
    simp only [ih]

/-- **What files hold makes no difference to where a path leads.** -/
theorem Alike.openRead (h : Alike fs fs') (p : Path) : fs'.openRead p = fs.openRead p := by
  simp only [Files.openRead, trailTo, lookup, h.cwd, h.resolve]

/-! ## Trees with more entries -/

/-- **A tree has all that another has**, and maybe more entries. -/
structure Extends (fs fs' : Files) : Prop where
  cwd : fs'.cwd = fs.cwd
  entries : ∀ id entries, fs.entries? id = some entries → ∃ entries', fs'.entries? id = some entries' ∧
    ∀ name i, entries.lookup name = some i → entries'.lookup name = some i
  links : ∀ id, fs'.link? id = fs.link? id

theorem Alike.extends (h : Alike fs fs') : Extends fs fs' where
  cwd := h.cwd
  entries id entries hes := ⟨entries, (h.entries id).trans hes, fun _ _ h => h⟩
  links := h.links

/-- **A path that led somewhere leads there still.** -/
theorem Extends.reaches (h : Extends fs fs') (hr : fs.Reaches e (.found trail) hops here names) :
    fs'.Reaches e (.found trail) hops here names := by
  induction hr with
  | arrives hp => exact .arrives hp
  | stays hes hhere _ ih =>
    obtain ⟨entries', hes', -⟩ := h.entries _ _ hes
    exact .stays hes' hhere ih
  | climbs hes hhere hup _ ih =>
    obtain ⟨entries', hes', -⟩ := h.entries _ _ hes
    exact .climbs hes' hhere hup ih
  | missing _ _ _ hp => cases hp
  | held hes hplain hid hlink he hp =>
    obtain ⟨entries', hes', hlook⟩ := h.entries _ _ hes
    exact .held hes' hplain (hlook _ _ hid) ((h.links _).trans hlink) he hp
  | follows hes hplain hid hlink hkeep _ ih =>
    obtain ⟨entries', hes', hlook⟩ := h.entries _ _ hes
    exact .follows hes' hplain (hlook _ _ hid) ((h.links _).trans hlink) hkeep ih
  | enters hes hplain hid hlink _ ih =>
    obtain ⟨entries', hes', hlook⟩ := h.entries _ _ hes
    exact .enters hes' hplain (hlook _ _ hid) ((h.links _).trans hlink) ih

/-! ## Where a file is made -/

theorem Reaches.absent (hr : fs.Reaches e (.absent dir name) hops here names) :
    ∃ entries, fs.entries? dir.node = some entries ∧ entries.lookup name = none := by
  induction hr with
  | stays _ _ _ ih | climbs _ _ _ _ ih | follows _ _ _ _ _ _ ih | enters _ _ _ _ _ ih => exact ih
  | arrives hp | held _ _ _ _ _ hp => cases hp
  | missing hes _ hnone hp =>
    cases hp
    exact ⟨_, hes, hnone⟩

/-- **A path that led to where a name is missing** leads to what is entered there. -/
theorem Extends.reaches_entered (h : Extends fs fs') (hin : fs'.child? dir.node name = some id)
    (hnew : fs'.link? id = none) (hr : fs.Reaches e (.absent dir name) hops here names) :
    fs'.Reaches e (.found ((name, id) :: dir)) hops here names := by
  induction hr with
  | arrives hp | held _ _ _ _ _ hp => cases hp
  | stays hes hhere _ ih =>
    obtain ⟨entries', hes', -⟩ := h.entries _ _ hes
    exact .stays hes' hhere ih
  | climbs hes hhere hup _ ih =>
    obtain ⟨entries', hes', -⟩ := h.entries _ _ hes
    exact .climbs hes' hhere hup ih
  | missing hes hplain _ hp =>
    cases hp
    obtain ⟨entries', hes', -⟩ := h.entries _ _ hes
    have hentry : entries'.lookup name = some id := by rwa [child?, hes', Option.bind_some] at hin
    exact .enters hes' hplain hentry hnew (.arrives rfl)
  | follows hes hplain hid hlink hkeep _ ih =>
    obtain ⟨entries', hes', hlook⟩ := h.entries _ _ hes
    exact .follows hes' hplain (hlook _ _ hid) ((h.links _).trans hlink) hkeep ih
  | enters hes hplain hid hlink _ ih =>
    obtain ⟨entries', hes', hlook⟩ := h.entries _ _ hes
    exact .enters hes' hplain (hlook _ _ hid) ((h.links _).trans hlink) ih

/-! ## Making and following -/

theorem Reaches.follow (hr : fs.Reaches .make place hops here names) : fs.Reaches .follow place hops here names := by
  have plain : ∀ {name rest}, Plain .make name rest → Plain .follow name rest := fun h =>
    ⟨h.here, h.up, h.short, fun hlast => Ending.noConfusion hlast.1⟩
  induction hr with
  | arrives hp => exact .arrives hp
  | stays hes hhere _ ih => exact .stays hes hhere ih
  | climbs hes hhere hup _ ih => exact .climbs hes hhere hup ih
  | missing hes hplain hnone hp => exact .missing hes (plain hplain) hnone hp
  | held _ _ _ _ he => cases he
  | follows hes hplain hid hlink _ _ ih => exact .follows hes (plain hplain) hid hlink (by simp) ih
  | enters hes hplain hid hlink _ ih => exact .enters hes (plain hplain) hid hlink ih

theorem Plain.getLast? (h : Plain e name rest) (hlast : (name :: rest).getLast? = some []) : rest.getLast? = some [] := by
  cases rest with
  | nil =>
    rw [List.getLast?_singleton, Option.some.injEq] at hlast
    subst hlast
    exact absurd rfl h.here
  | cons n rest => rwa [List.getLast?_cons_cons] at hlast

theorem Reaches.isDirectory (hr : fs.Reaches e (.found trail) hops here names) (hlast : names.getLast? = some []) :
    fs.isDirectory trail.node = true := by
  induction hr with
  | arrives => cases hlast
  | @stays _ here _ rest _ hes _ hr ih =>
    cases rest with
    | nil =>
      cases hr with
      | arrives hp =>
        cases hp
        simp [Files.isDirectory, hes]
    | cons n rest =>
      rw [List.getLast?_cons_cons] at hlast
      exact ih hlast
  | @climbs _ _ _ rest _ _ hhere _ _ ih =>
    cases rest with
    | nil =>
      rw [List.getLast?_singleton, Option.some.injEq] at hlast
      subst hlast
      exact absurd rfl hhere
    | cons n rest =>
      rw [List.getLast?_cons_cons] at hlast
      exact ih hlast
  | missing _ _ _ hp => cases hp
  | held _ hplain => cases hplain.getLast? hlast
  | follows _ hplain _ _ _ _ ih =>
    refine ih ?_
    rw [List.getLast?_append, hplain.getLast? hlast]
    rfl
  | enters _ hplain _ _ _ ih => exact ih (hplain.getLast? hlast)

theorem getLast?_of_blank (hne : rest ≠ []) (hall : rest.all List.isEmpty) : rest.getLast? = some [] := by
  have hmem := List.getLast_mem hne
  rw [List.all_eq_true] at hall
  rw [List.getLast?_eq_some_getLast hne, List.isEmpty_iff.1 (hall _ hmem)]

/-- What is no directory and is found for reading could be made there: where the two lookups part, nothing but blank names
is left. -/
theorem Reaches.make (hr : fs.Reaches .follow (.found trail) hops here names) (hdir : fs.isDirectory trail.node = false) :
    fs.Reaches .make (.found trail) hops here names := by
  induction hr with
  | arrives hp => exact .arrives hp
  | stays hes hhere _ ih => exact .stays hes hhere ih
  | climbs hes hhere hup _ ih => exact .climbs hes hhere hup ih
  | missing _ _ _ hp => cases hp
  | held _ _ _ _ he => cases he
  | follows hes hplain hid hlink _ hr ih =>
    refine .follows hes ⟨hplain.here, hplain.up, hplain.short, fun hlast => ?_⟩ hid hlink (by simp) ih
    refine absurd (hr.isDirectory ?_) (Bool.not_eq_true _ ▸ hdir)
    rw [List.getLast?_append, getLast?_of_blank hlast.2.1 hlast.2.2]
    rfl
  | enters hes hplain hid hlink hr ih =>
    refine .enters hes ⟨hplain.here, hplain.up, hplain.short, fun hlast => ?_⟩ hid hlink ih
    exact absurd (hr.isDirectory (getLast?_of_blank hlast.2.1 hlast.2.2)) (Bool.not_eq_true _ ▸ hdir)

/-! ## Changing what a file holds -/

variable {j k : NodeId} {d d' old : Bytes}

theorem node?_of_data? (h : fs.data? k = some d) : ∃ n, fs.node? k = some n ∧ n.content = .file d := by
  unfold data? at h
  split at h
  · next hn =>
    cases h
    exact ⟨_, hn, rfl⟩
  · cases h

theorem data?_of_node? {n : Node} (h : fs.node? k = some n) (hc : n.content = .file d) : fs.data? k = some d := by
  obtain ⟨content, mode, modified⟩ := n
  cases hc
  rw [data?, h]

theorem entries?_of_data? (h : fs.data? k = some d) : fs.entries? k = none := by
  obtain ⟨⟨content, _, _⟩, hn, rfl⟩ := node?_of_data? h
  rw [entries?, hn]

theorem link?_of_data? (h : fs.data? k = some d) : fs.link? k = none := by
  obtain ⟨⟨content, _, _⟩, hn, rfl⟩ := node?_of_data? h
  rw [link?, hn]
  rfl

/-- **One tree is another with a file's content changed**, or nothing changed at all. -/
structure Patches (k : NodeId) (fs fs' : Files) : Prop where
  cwd : fs'.cwd = fs.cwd
  others : ∀ id, id ≠ k → fs'.node? id = fs.node? id
  file : fs'.node? k = fs.node? k ∨ ∃ d d', fs.data? k = some d ∧ fs'.data? k = some d'

theorem Patches.refl (k : NodeId) (fs : Files) : Patches k fs fs := ⟨rfl, fun _ _ => rfl, .inl rfl⟩

theorem Patches.alike (h : Patches k fs fs') : Alike fs fs' where
  cwd := h.cwd
  entries id := by
    by_cases hid : id = k
    · subst hid
      rcases h.file with hn | ⟨d, d', hd, hd'⟩
      · rw [entries?, hn, entries?]
      · rw [entries?_of_data? hd, entries?_of_data? hd']
    · rw [entries?, h.others id hid, entries?]
  links id := by
    by_cases hid : id = k
    · subst hid
      rcases h.file with hn | ⟨d, d', hd, hd'⟩
      · rw [link?, hn, link?]
      · rw [link?_of_data? hd, link?_of_data? hd']
    · rw [link?, h.others id hid, link?]

theorem Patches.data?_ne (h : Patches k fs fs') (hj : j ≠ k) : fs'.data? j = fs.data? j := by
  rw [data?, h.others j hj, data?]

theorem Patches.trans (h : Patches k fs fs') (h' : Patches k fs' fs'') : Patches k fs fs'' where
  cwd := h'.cwd.trans h.cwd
  others id hid := (h'.others id hid).trans (h.others id hid)
  file := by
    rcases h.file with hn | ⟨d, d', hd, hd'⟩
    · rcases h'.file with hn' | ⟨d, d', hd, hd'⟩
      · exact .inl (hn'.trans hn)
      · exact .inr ⟨d, d', by rw [data?, ← hn]; exact hd, hd'⟩
    · rcases h'.file with hn' | ⟨-, d'', -, hd''⟩
      · exact .inr ⟨d, d', hd, by rw [data?, hn']; exact hd'⟩
      · exact .inr ⟨d, d'', hd, hd''⟩

theorem data?_setContent (h : fs.data? k = some old) (d : Bytes) : (fs.setContent k (.file d)).data? k = some d := by
  obtain ⟨n, hn, -⟩ := node?_of_data? h
  refine data?_of_node? (n := { n with content := .file d, modified := fs.now }) ?_ rfl
  rw [setContent, hn]
  dsimp only
  rw [node?_setNode, if_pos ⟨rfl, (Array.getElem?_eq_some_iff.1 hn).1⟩]

theorem patches_setContent (h : fs.data? k = some old) (d : Bytes) : Patches k fs (fs.setContent k (.file d)) where
  cwd := by
    rw [setContent]
    split <;> rfl
  others id hid := by
    rw [setContent]
    split
    · rw [node?_setNode, if_neg (fun hk => hid hk.1.symm)]
    · rfl
  file := .inr ⟨old, d, h, data?_setContent h d⟩

theorem overwrite_end (old new : Bytes) : overwrite old old.length new = old ++ new := by
  simp [overwrite, List.drop_eq_nil_of_le]

/-- **Writing at the end of a file** puts the data behind what it holds. -/
theorem writeAt_end (h : fs.data? k = some old) (new : Bytes) : ∃ fs', fs.writeAt k old.length new = (.ok new.length, fs') ∧
    Patches k fs fs' ∧ fs'.data? k = some (old ++ new) := by
  obtain ⟨n, hn, hc⟩ := node?_of_data? h
  refine ⟨fs.setContent k (.file (old ++ new)), ?_, patches_setContent h _, data?_setContent h _⟩
  rw [writeAt, hn, Option.map_some, hc]
  dsimp only
  rw [overwrite_end]

theorem writeAt_none (h : fs.data? k = none) (offset : Nat) (new : Bytes) :
    fs.writeAt k offset new = (.ok new.length, fs) := by
  rw [writeAt]
  split
  · next old hc =>
    obtain ⟨n, hn, hcontent⟩ := Option.map_eq_some_iff.1 hc
    rw [data?_of_node? hn hcontent] at h
    cases h
  · rfl

theorem readAt_none (h : fs.data? k = none) (limit : Nat) :
    fs.readAt k 0 limit = .ok [] ∨ fs.readAt k 0 limit = .error (.system .isDirectory) := by
  rw [readAt]
  split
  · next old hc =>
    obtain ⟨n, hn, hcontent⟩ := Option.map_eq_some_iff.1 hc
    rw [data?_of_node? hn hcontent] at h
    cases h
  · exact .inr rfl
  · exact .inl rfl

/-! ## Making a file -/

theorem openRead_eq_ok_iff : fs.openRead p = .ok k ↔ ∃ trail : Trail, checkPath p = .ok () ∧
    fs.Reaches .follow (.found trail) maxLinks (startOf fs.cwd p) p.steps ∧ trail.node = k := by
  simp only [← resolve_eq_ok_iff]
  unfold openRead trailTo lookup
  cases checkPath p with
  | error f => simp [Bind.bind, Except.bind]
  | ok u =>
    cases fs.resolve .follow maxLinks (startOf fs.cwd p) p.steps with
    | error f => simp [Bind.bind, Except.bind]
    | ok place => cases place <;> simp [Bind.bind, Except.bind]

theorem lookup_eq_ok_iff : fs.lookup e p = .ok place ↔
    checkPath p = .ok () ∧ fs.Reaches e place maxLinks (startOf fs.cwd p) p.steps := by
  rw [← resolve_eq_ok_iff]
  unfold lookup
  cases checkPath p with
  | error f => simp [Bind.bind, Except.bind]
  | ok u =>
    cases fs.resolve e maxLinks (startOf fs.cwd p) p.steps with
    | error f => simp [Bind.bind, Except.bind]
    | ok place => simp [Bind.bind, Except.bind]

theorem create_of_openRead (h : fs.openRead p = .ok k) (hd : fs.data? k = some d) :
    fs.create p = (.ok k, fs.setContent k (.file [])) := by
  obtain ⟨trail, hcheck, hres, rfl⟩ := openRead_eq_ok_iff.1 h
  have hdir : fs.isDirectory trail.node = false := by rw [isDirectory, entries?_of_data? hd]; rfl
  have hlookup := lookup_eq_ok_iff.2 ⟨hcheck, hres.make hdir⟩
  obtain ⟨n, hn, hc⟩ := node?_of_data? hd
  rw [create, hlookup]
  dsimp only
  rw [hn, Option.map_some, hc]

theorem node?_enter_addNode {entries : List (Bytes × NodeId)} {removed : Bool} {mode : Nat} {modified : Int}
    (hk : fs.node? k = some ⟨.directory entries removed, mode, modified⟩) (name : Bytes) (made : Node) (i : NodeId) :
    ((fs.addNode made).2.enter k name (fs.addNode made).1).node? i =
      if i = k then some ⟨.directory (entries ++ [(name, (fs.addNode made).1)]) removed, mode, (fs.addNode made).2.now⟩
      else if i = fs.nodes.size then some made else fs.node? i := by
  have hlt : k < fs.nodes.size := (Array.getElem?_eq_some_iff.1 hk).1
  have hdir : (fs.addNode made).2.node? k = some ⟨.directory entries removed, mode, modified⟩ := by
    rw [node?_addNode, if_neg (Nat.ne_of_lt hlt), hk]
  rw [enter, hdir]
  dsimp only
  rw [setContent, hdir]
  dsimp only
  rw [node?_setNode, node?_addNode]
  by_cases hi : i = k
  · subst hi
    rw [if_pos ⟨rfl, (Array.getElem?_eq_some_iff.1 hdir).1⟩, if_pos rfl]
  · rw [if_neg (fun h => hi h.1.symm), if_neg hi]

theorem cwd_enter (fs : Files) (dir : NodeId) (name : Bytes) (i : NodeId) : (fs.enter dir name i).cwd = fs.cwd := by
  unfold enter
  split
  · unfold setContent
    split <;> rfl
  · rfl

theorem enter_addNode {entries : List (Bytes × NodeId)} (hes : fs.entries? k = some entries)
    (hname : entries.lookup name = none) (mode : Nat) (modified : Int) :
    let made := fs.addNode ⟨.file [], mode, modified⟩
    Extends fs (made.2.enter k name made.1) ∧ (made.2.enter k name made.1).child? k name = some made.1 ∧
      (made.2.enter k name made.1).data? made.1 = some [] ∧
      ∀ i d, fs.data? i = some d → (made.2.enter k name made.1).data? i = some d := by
  intro made
  obtain ⟨removed, mode', modified', hk⟩ : ∃ removed mode modified,
      fs.node? k = some ⟨.directory entries removed, mode, modified⟩ := by
    unfold entries? at hes
    split at hes <;> cases hes
    exact ⟨_, _, _, ‹_›⟩
  have hlt : k < fs.nodes.size := (Array.getElem?_eq_some_iff.1 hk).1
  have hnode := node?_enter_addNode hk name ⟨.file [], mode, modified⟩
  have hentries : (made.2.enter k name made.1).entries? k = some (entries ++ [(name, made.1)]) := by
    rw [entries?, hnode, if_pos rfl]
  have hnew : (made.2.enter k name made.1).node? made.1 = some ⟨.file [], mode, modified⟩ := by
    have hne : made.1 ≠ k := Nat.ne_of_gt hlt
    rw [hnode, if_neg hne]
    exact if_pos rfl
  have hold : ∀ i n, i ≠ k → fs.node? i = some n → (made.2.enter k name made.1).node? i = some n := by
    intro i n hi hn
    rw [hnode, if_neg hi, if_neg (Nat.ne_of_lt (Array.getElem?_eq_some_iff.1 hn).1), hn]
  refine ⟨⟨cwd_enter _ _ _ _, fun i es hi => ?_, fun i => ?_⟩, ?_, data?_of_node? hnew rfl, fun i d hd => ?_⟩
  · by_cases hik : i = k
    · subst hik
      rw [hes] at hi
      cases hi
      refine ⟨_, hentries, fun n j hj => ?_⟩
      rw [List.lookup_append, hj]
      rfl
    · refine ⟨es, ?_, fun _ _ h => h⟩
      unfold entries? at hi
      split at hi <;> cases hi
      next hn => rw [entries?, hold i _ hik hn]
  · by_cases hik : i = k
    · subst hik
      rw [link?, link?, hnode, if_pos rfl, hk]
      rfl
    · rw [link?, link?, hnode, if_neg hik]
      by_cases hi : i = fs.nodes.size
      · rw [if_pos hi, hi, node?, Array.getElem?_eq_none (Nat.le_refl _)]
        rfl
      · rw [if_neg hi]
  · rw [child?, hentries, Option.bind_some, List.lookup_append, hname]
    simp
  · obtain ⟨n, hn, hc⟩ := node?_of_data? hd
    refine data?_of_node? (hold i n ?_ hn) hc
    rintro rfl
    rw [hk] at hn
    cases hn
    cases hc

/-- **What is made or emptied**: a file that is there, a device, or a new file where the path leads from then on. -/
theorem create_cases (h : fs.create p = (.ok j, fs')) :
    (∃ old, fs.openRead p = .ok j ∧ fs.data? j = some old ∧ fs' = fs.setContent j (.file [])) ∨
    (fs.openRead p = .ok j ∧ (fs.node? j).map Node.content = some .device ∧ fs' = fs) ∨
    ((∀ k, fs.openRead p ≠ .ok k) ∧ fs.node? j = none ∧ Extends fs fs' ∧ fs'.openRead p = .ok j ∧ fs'.data? j = some [] ∧
      ∀ i d, fs.data? i = some d → fs'.data? i = some d) := by
  unfold create at h
  split at h
  · cases h
  · next trail hlookup =>
    obtain ⟨hcheck, hres⟩ := lookup_eq_ok_iff.1 hlookup
    have hopen := openRead_eq_ok_iff.2 ⟨trail, hcheck, hres.follow, rfl⟩
    split at h
    · next old hc =>
      cases h
      obtain ⟨n, hn, hcontent⟩ := Option.map_eq_some_iff.1 hc
      exact .inl ⟨old, hopen, data?_of_node? hn hcontent, rfl⟩
    · next hc =>
      cases h
      exact .inr (.inl ⟨hopen, hc, rfl⟩)
    · cases h
    · cases h
  · next dir name hlookup =>
    obtain ⟨hcheck, hres⟩ := lookup_eq_ok_iff.1 hlookup
    split at h
    · cases h
    · obtain ⟨entries, hes, hname⟩ : ∃ entries, fs.entries? dir.node = some entries ∧ entries.lookup name = none :=
        hres.absent
      obtain ⟨hext, hin, hnew, hold⟩ := enter_addNode hes hname fileMode fs.now
      cases h
      refine .inr (.inr ⟨fun k hk => ?_, Array.getElem?_eq_none (Nat.le_refl _), hext, ?_, hnew, hold⟩)
      · obtain ⟨trail, -, hfound, -⟩ := openRead_eq_ok_iff.1 hk
        cases hres.follow.unique hfound
      · have hfound := hext.reaches_entered hin (link?_of_data? hnew) hres
        rw [← hext.cwd] at hfound
        exact openRead_eq_ok_iff.2 ⟨_, hcheck, hfound.follow, rfl⟩

end Files
end LineShell
