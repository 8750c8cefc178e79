import LineShell.Proofs.Command.Feeding
/-!
# Halting — programs that come to their end at a calm bench

`Program.Halts I p` says that `p` comes to its end at every calm bench whose files are as `I` says, and leaves them so.
It is closed under what programs are made of.  What moves data halts since a file has an end.  A walk halts since every
place that a directory adds to it has a longer path than the directory, and no path can be looked up that is longer than
`Path.maxPath` (`halts_search`); for that the names in directories have to be proper names (`Files.Named`), but the
directories themselves need not form a tree.
-/
namespace LineShell

/-- **The names in directories are proper names**: none is empty, and none has a slash in it. -/
def Files.Named (files : Files) : Prop :=
  ∀ id entries, files.entries? id = some entries → ∀ e ∈ entries, e.1 ≠ [] ∧ Bytes.slash ∉ e.1

namespace Program

variable {α β : Type} {I : Files → Prop} {files : Files} {p : Program α}

/-- **A program comes to its end** at every calm bench whose files are as `I` says, and leaves them so. -/
def Halts (I : Files → Prop) (p : Program α) : Prop :=
  ∀ b : Bench, b.Calm → I b.files → ∃ a b', Bench.Leads p b (.done a) b' ∧ I b'.files

theorem calmly_true : ∀ p : Program α, p.Calmly fun _ => True
  | done _ => trivial
  | ask _ next => fun reply _ => calmly_true (next reply)
  | loop _ _ next => fun result _ => calmly_true (next result)

theorem halts_done (a : α) : Halts I (done a) := fun b _ hI => ⟨a, b, .refl _ _, hI⟩

theorem Halts.bind {f : α → Program β} (hp : Halts I p) (hf : ∀ a, Halts I (f a)) : Halts I (p.bind f) := by
  intro b hb hI
  obtain ⟨a, b₁, hleads, hI₁⟩ := hp b hb hI
  have hb₁ : b₁.Calm := (hleads.calm hb (calmly_true p)).2
  obtain ⟨c, b₂, hrest, hI₂⟩ := hf a b₁ hb₁ hI₁
  exact ⟨c, b₂, Bench.leads_bind_iff.2 ⟨a, b₁, hleads, hrest⟩, hI₂⟩

theorem halts_loop {l : Loop} {state : l.State} {next : Except Failure l.Value → Program α}
    (h : Halts I (enter l state next)) : Halts I (loop l state next) := by
  intro b hb hI
  obtain ⟨a, b', hleads, hI'⟩ := h b hb hI
  exact ⟨a, b', .enter hleads, hI'⟩

theorem halts_poll {next : Bool → Program α} (h : Halts I (next false)) : Halts I (ask .poll next) := by
  intro b hb hI
  obtain ⟨a, b', hleads, hI'⟩ := h b hb hI
  refine ⟨a, b', .ask ?_, hI'⟩
  rw [Bench.answer_poll_freely hb.slot]
  exact hleads

theorem halts_files {q : FileRequest} {next : Except Fault q.Answer → Program α}
    (hq : ∀ files, I files → I (files.serve q).2) (h : ∀ files, I files → Halts I (next (files.serve q).1)) :
    Halts I (ask (.files q) next) := by
  intro b hb hI
  obtain ⟨a, b', hleads, hI'⟩ :=
    h b.files hI { b with files := (b.files.serve q).2 } ⟨hb.slot, hb.reader, hb.writer⟩ (hq b.files hI)
  exact ⟨a, b', .ask hleads, hI'⟩

theorem halts_reading {q : FileRequest} {next : Except Fault q.Answer → Program α} (hq : q.isReading = true)
    (h : Halts (· = files) (next (files.serve q).1)) : Halts (· = files) (ask (.files q) next) := by
  refine halts_files (fun files' hfiles => ?_) fun files' hfiles => hfiles ▸ h
  rw [Files.serve_of_isReading files' q hq]
  exact hfiles

theorem Halts.of_fixed (h : ∀ files, I files → Halts (· = files) p) : Halts I p := by
  intro b hb hI
  obtain ⟨a, b', hleads, hfiles⟩ := h b.files hI b hb rfl
  exact ⟨a, b', hleads, hfiles ▸ hI⟩

theorem Ends.halts {n : Nat} {out : Bytes} {Q : α → Option Bytes → Bytes → Prop} (h : Ends files n p none out Q) :
    Halts (· = files) p := by
  intro b hb hfiles
  obtain ⟨a, rest, out, b', told, hleads, -, hfiles', -⟩ := h.brings ⟨hb.slot, hb.writer, hfiles, nofun⟩
  exact ⟨a, b', hleads, hfiles'⟩

/-! ## Loops -/

variable {next : Except Failure Loop.copy.Value → Program α}

/-- **Copying what is no file** is over with the first read, which finds nothing or fails. -/
theorem halts_copy_none {id : NodeId} (hdata : files.data? id = none) (sink : Sink) (moved : Nat)
    (h : ∀ result, Halts (· = files) (next result)) : Halts (· = files) (loop .copy (.file id 0, sink, moved) next) := by
  have hread : files.readAt id 0 chunkSize = .ok [] ∨ files.readAt id 0 chunkSize = .error (.system .isDirectory) := by
    unfold Files.data? at hdata
    unfold Files.readAt
    cases hnode : files.node? id with
    | none => exact .inl rfl
    | some node =>
      obtain ⟨content, mode, modified⟩ := node
      cases content with
      | file data => rw [hnode] at hdata; cases hdata
      | directory entries removed => exact .inr rfl
      | link target => exact .inl rfl
      | device => exact .inl rfl
  refine halts_loop ?_
  rw [enter_copy]
  refine halts_poll (halts_loop (halts_reading rfl ?_))
  show Halts _ (Program.bind (Loop.takeReply (.file id 0) chunkSize (files.readAt id 0 chunkSize)) _)
  rcases hread with hread | hread <;> rw [hread] <;> exact h _

end Program

/-! ## Walks -/

def Visit.below (dir : Path) : Except Fault (NodeId × List (Bytes × Kind)) → List Visit
  | .ok (_, entries) => Action.visitsOf dir entries
  | .error f => [.fault dir f]

/-- How much longer than the path of a place a path may be before it is too long to be looked up. -/
def Visit.room : Visit → Nat
  | .entry path _ => Path.maxPath + 1 - path.length
  | .fault _ _ => 0

namespace Path

theorem length_lt_join (base : Path) {name : Bytes} (hne : name ≠ []) (hslash : Bytes.slash ∉ name) :
    base.length < (join base name).length := by
  have hrelative : isAbsolute name = false := by
    obtain ⟨b, name, rfl⟩ := List.exists_cons_of_ne_nil hne
    have hb : b ≠ Bytes.slash := fun hb => hslash (hb ▸ List.mem_cons_self)
    simp [isAbsolute, hb]
  have hpos : 0 < name.length := List.length_pos_iff.2 hne
  rw [join, hrelative, if_neg Bool.false_ne_true]
  split
  · next hlast => rw [List.getLast?_eq_none_iff.1 hlast]; exact hpos
  · split <;> simp only [List.length_append, List.length_cons] <;> omega

end Path

namespace Files

variable {files : Files} {p : Path}

theorem listing_of_long (files : Files) (h : Path.maxPath < p.length) : ∃ f, files.listing p = .error f := by
  have hcheck : ∃ f, checkPath p = .error f := by
    rw [checkPath, if_pos h]
    split
    · exact ⟨_, rfl⟩
    · split <;> exact ⟨_, rfl⟩
  obtain ⟨f, hf⟩ := hcheck
  refine ⟨f, ?_⟩
  rw [listing, trailTo, lookup, hf]
  rfl

theorem entries?_of_listing {dir : NodeId} {listed : List (Bytes × Kind)} (h : files.listing p = .ok (dir, listed)) :
    ∃ entries, files.entries? dir = some entries ∧ listed.map Prod.fst = entries.map Prod.fst := by
  unfold listing at h
  cases htrail : files.trailTo .follow p with
  | error f => rw [htrail] at h; cases h
  | ok trail =>
    rw [htrail] at h
    cases hentries : files.entries? trail.node with
    | none => simp only [hentries, bind, Except.bind] at h; cases h
    | some entries =>
      simp only [hentries, bind, Except.bind, Except.ok.injEq, Prod.mk.injEq] at h
      obtain ⟨rfl, rfl⟩ := h
      exact ⟨entries, hentries, by simp [Function.comp_def]⟩

end Files

/-- **What a directory adds to a walk** leaves less room than the directory, or tells that it cannot be listed. -/
theorem Visit.room_below {files : Files} (hfiles : files.Named) (dir : Path) (kind : Kind) :
    (∃ f, Visit.below dir (files.listing dir) = [.fault dir f]) ∨
      ∀ v ∈ Visit.below dir (files.listing dir), v.room < (Visit.entry dir kind).room := by
  by_cases hlong : Path.maxPath < dir.length
  · obtain ⟨f, hf⟩ := Files.listing_of_long files hlong
    exact .inl ⟨f, by rw [hf]; rfl⟩
  cases hlisting : files.listing dir with
  | error f => exact .inl ⟨f, rfl⟩
  | ok listing =>
    obtain ⟨id, listed⟩ := listing
    refine .inr fun v hv => ?_
    obtain ⟨entry, hentry, rfl⟩ := List.mem_map.1 hv
    obtain ⟨entries, hentries, hnames⟩ := Files.entries?_of_listing hlisting
    have hname : entry.1 ∈ listed.map Prod.fst := List.mem_map_of_mem (List.mem_mergeSort.1 hentry)
    rw [hnames] at hname
    obtain ⟨e, he, hsame⟩ := List.mem_map.1 hname
    obtain ⟨hne, hslash⟩ := hsame ▸ hfiles id entries hentries e he
    have hlonger := Path.length_lt_join dir hne hslash
    show Path.maxPath + 1 - (Path.join dir entry.1).length < Path.maxPath + 1 - dir.length
    omega

namespace Program

variable {α : Type} {files : Files} {next : Except Failure Loop.search.Value → Program α}

/-- What is left of the turn of a walk at a place when it is known what lies below. -/
def visited (name : String) (path : Path) (left : List Visit)
    (f : Except Failure (Turn (String × List Visit) Finding) → Program α) : Program α :=
  ask .poll (fun
    | true => f (.error .stopped)
    | false => f (.ok (if Bytes.toText path.fileName = name then .finished (.found path) else .again (name, left))))

theorem visited_eq (name : String) (path : Path) (left : List Visit)
    (f : Except Failure (Turn (String × List Visit) Finding) → Program α) :
    Program.bind (do
      Action.check
      if Bytes.toText path.fileName = name then pure (.finished (.found path))
      else pure (.again (name, left)) : Action (Turn (String × List Visit) Finding)) f = visited name path left f := by
  refine congrArg (ask .poll) (funext fun stop => ?_)
  cases stop with
  | true => rfl
  | false =>
    by_cases hfound : Bytes.toText path.fileName = name
    · simp only [if_pos hfound]
      rfl
    · simp only [if_neg hfound]
      rfl

/-- **The turn of a walk at a place**: a directory is listed first. -/
theorem searchTurn_bind (name : String) (path : Path) (kind : Kind) (rest : List Visit)
    (f : Except Failure (Turn (String × List Visit) Finding) → Program α) :
    Program.bind (Loop.searchTurn (name, .entry path kind :: rest)) f =
      if kind = .directory then
        ask (.files (.listing path)) (fun listed => visited name path (Visit.below path listed ++ rest) f)
      else visited name path rest f := by
  by_cases hdir : kind = .directory
  · subst hdir
    refine congrArg (ask (.files (.listing path))) (funext fun listed => ?_)
    match listed with
    | .ok (id, entries) => exact visited_eq name path (Action.visitsOf path entries ++ rest) f
    | .error fault => exact visited_eq name path ([.fault path fault] ++ rest) f
  · rw [if_neg hdir, ← visited_eq]
    cases kind with
    | directory => exact absurd rfl hdir
    | file | link | device => rfl

def follow (l : Loop) (next : Except Failure l.Value → Program α) : Except Failure (Turn l.State l.Value) → Program α
  | .ok (.again state) => loop l state next
  | .ok (.finished value) => next (.ok value)
  | .error e => next (.error e)

theorem enter_eq (l : Loop) (state : l.State) (next : Except Failure l.Value → Program α) :
    enter l state next = Program.bind (l.turn state) (follow l next) := rfl

/-- **A walk comes to its end** if it does without some places that it is yet to visit. -/
theorem halts_search (hfiles : files.Named) (name : String) (hnext : ∀ result, Halts (· = files) (next result)) :
    ∀ (room : Nat) (visits rest : List Visit), (∀ v ∈ visits, v.room < room) →
      Halts (· = files) (loop .search (name, rest) next) →
      Halts (· = files) (loop .search (name, visits ++ rest) next)
  | _, [], _, _, hrest => hrest
  | _, .fault _ _ :: _, _, _, _ => halts_loop (halts_poll (hnext _))
  | 0, .entry _ _ :: _, _, hroom, _ => absurd (hroom _ List.mem_cons_self) (Nat.not_lt_zero _)
  | room + 1, .entry path kind :: visits, rest, hroom, hrest => by
    -- The places beside this one are fewer, and those below it have less room.
    have hothers : Halts (· = files) (loop .search (name, visits ++ rest) next) :=
      halts_search hfiles name hnext (room + 1) visits rest (fun v hv => hroom v (List.mem_cons_of_mem _ hv)) hrest
    have hvisited : ∀ left, Halts (· = files) (loop .search (name, left) next) →
        Halts (· = files) (visited name path left (follow .search next)) := by
      intro left hleft
      refine halts_poll ?_
      dsimp only
      split
      · exact hnext _
      · exact hleft
    have henter : enter .search (name, .entry path kind :: (visits ++ rest)) next = _ :=
      (enter_eq .search _ next).trans (searchTurn_bind name path kind (visits ++ rest) (follow .search next))
    refine halts_loop ?_
    rw [List.cons_append, henter]
    split
    · refine halts_reading rfl (hvisited _ ?_)
      show Halts _ (loop .search (name, Visit.below path (files.listing path) ++ (visits ++ rest)) next)
      rcases Visit.room_below hfiles path kind with ⟨f, hf⟩ | hless
      · rw [hf]
        exact halts_loop (halts_poll (hnext _))
      · refine halts_search hfiles name hnext room _ _ (fun v hv => ?_) hothers
        exact Nat.lt_of_lt_of_le (hless v hv) (Nat.le_of_lt_succ (hroom _ List.mem_cons_self))
    · exact hvisited _ hothers
termination_by room visits => (room, visits.length)

end Program
end LineShell
