import LineShell.Builtin.Search
import LineShell.Proofs.Builtin.Arriving
import LineShell.Proofs.Flow.Textual
import LineShell.Proofs.Files.Walking
/-!
# Finding — the first place of a name on a walk

`find` looks for each name on a walk of its own through everything below the directory it starts from
(`ends_search`).  Where every directory there can be listed it reports for each name, in the order given, the first
place of the walk that has it, or that there is none (`finds_first`).
-/
namespace LineShell

open LineShell.Program (Ends Leaves)

namespace Files

variable {fs : Files} {root t : Trail} {pending visited : List Trail} {entries : List (Bytes × NodeId)}

def visitOf (fs : Files) (t : Trail) : Visit := .entry t.path (fs.kindOf t.node)

theorem below_visitOf (hfs : fs.Proper) (hroot : fs.Stands root) (hclear : fs.Clear root) (h : fs.Below root t)
    (hes : fs.entries? t.node = some entries) :
    Visit.below t.path (fs.listing t.path) = ((ordered entries).map fun e => e :: t).map fs.visitOf := by
  rw [(h.listing hfs hroot hclear hes).1]
  show Action.visitsOf _ _ = _
  rw [Action.visitsOf, ordered, List.map_map,
    ← List.map_mergeSort (r := fun a b => Bytes.precedes a.1 b.1) (fun _ _ _ _ => rfl), List.map_map]
  refine List.map_congr_left fun e he => ?_
  show Visit.entry (Path.join t.path e.1) (fs.kindOf e.2) = .entry (Trail.path (e :: t)) (fs.kindOf e.2)
  rw [h.path_entry hfs hroot hes (List.mem_mergeSort.1 he)]

/-- **The first place of a walk that has a name**, which is read as text. -/
def firstNamed (name : String) (walk : List Trail) : Option Trail :=
  walk.find? fun t => Bytes.toText t.lastName = name

end Files

namespace Find

open Files

variable {α : Type} {fs : Files} {root t : Trail} {pending walk : List Trail} {n : Nat} {rest : Option Bytes} {out : Bytes}
  {Q : α → Option Bytes → Bytes → Prop} {name : String}

def finding : Option Trail → Finding
  | some t => .found t.path
  | none => .missing

open Program in
theorem ends_visited {next : Except Failure Loop.search.Value → Program α} {left : List Visit}
    (hnames : ∀ n ∈ t.names, Path.IsName n)
    (hnext : Ends fs n (next (.ok (finding (firstNamed name (t :: walk))))) rest out Q)
    (hleft : Ends fs n (next (.ok (finding (firstNamed name walk)))) rest out Q →
      ∃ m, Ends fs m (loop .search (name, left) next) rest out Q) :
    ∃ m, Ends fs m (visited name t.path left (follow .search next)) rest out Q := by
  have hlast := Trail.fileName_path hnames
  by_cases hfound : Bytes.toText t.lastName = name
  · refine ⟨n + 1, ?_⟩
    rw [firstNamed, List.find?_cons_of_pos (by simpa using hfound)] at hnext
    rw [← hlast] at hfound
    unfold visited
    rw [if_pos hfound]
    exact hnext
  · rw [firstNamed, List.find?_cons_of_neg (by simpa using hfound)] at hnext
    obtain ⟨m, hm⟩ := hleft hnext
    refine ⟨m + 1, ?_⟩
    rw [← hlast] at hfound
    unfold visited
    rw [if_neg hfound]
    exact hm

open Program in
/-- **A search on a walk** finds the first place that has the name. -/
theorem ends_search (hfs : fs.Proper) (hroot : fs.Stands root) (hclear : fs.Clear root) (hwalk : fs.Visits pending walk)
    (hbelow : ∀ t ∈ pending, fs.Below root t) {next : Except Failure Loop.search.Value → Program α}
    (hnext : Ends fs n (next (.ok (finding (firstNamed name walk)))) rest out Q) :
    ∃ m, Ends fs m (loop .search (name, pending.map fs.visitOf) next) rest out Q := by
  induction hwalk with
  | done => exact ⟨n + 1, hnext⟩
  | @enters pending walk entries t hes hrest ih =>
    obtain ⟨ht, hpending⟩ := List.forall_mem_cons.1 hbelow
    have hentries : ∀ u ∈ (ordered entries).map (fun e => e :: t) ++ pending, fs.Below root u := by
      refine List.forall_mem_append.2 ⟨fun u hu => ?_, hpending⟩
      obtain ⟨e, he, rfl⟩ := List.mem_map.1 hu
      exact .entry ht hes (mem_ordered.1 he)
    obtain ⟨m, hm⟩ := ends_visited (ht.isName hfs hroot) hnext (ih hentries)
    have henter : enter .search (name, fs.visitOf t :: pending.map fs.visitOf) next = _ :=
      (enter_eq .search _ next).trans
        (searchTurn_bind name t.path (fs.kindOf t.node) (pending.map fs.visitOf) (follow .search next))
    refine ⟨m + 1 + 1, ?_⟩
    show Ends fs (m + 1) (enter .search (name, fs.visitOf t :: pending.map fs.visitOf) next) rest out Q
    rw [henter, if_pos (kindOf_eq_directory_iff.2 ⟨entries, hes⟩)]
    refine ⟨rfl, ?_⟩
    show Ends fs m (visited name t.path (Visit.below t.path (fs.listing t.path) ++ pending.map fs.visitOf) _) rest out Q
    rw [below_visitOf hfs hroot hclear ht hes, ← List.map_append]
    exact hm
  | @passes pending walk t hes hrest ih =>
    obtain ⟨ht, hpending⟩ := List.forall_mem_cons.1 hbelow
    obtain ⟨m, hm⟩ := ends_visited (ht.isName hfs hroot) hnext (ih hpending)
    have henter : enter .search (name, fs.visitOf t :: pending.map fs.visitOf) next = _ :=
      (enter_eq .search _ next).trans
        (searchTurn_bind name t.path (fs.kindOf t.node) (pending.map fs.visitOf) (follow .search next))
    have hkind : fs.kindOf t.node ≠ .directory := fun h => by
      obtain ⟨entries, hsome⟩ := kindOf_eq_directory_iff.1 h
      rw [hes] at hsome
      cases hsome
    refine ⟨m + 1, ?_⟩
    show Ends fs m (enter .search (name, fs.visitOf t :: pending.map fs.visitOf) next) rest out Q
    rw [henter, if_neg hkind]
    exact hm

/-! ## Names -/

open Program in
theorem ends_firstVisit (hroot : fs.Stands root) (hdir : fs.isDirectory root.node = true)
    (hcheck : checkPath root.path = .ok ()) (rest : Option Bytes) (out : Bytes) :
    ∃ n, Ends fs n (firstVisit root.path) rest out (Leaves (fs.visitOf root) rest out) := by
  obtain ⟨entries, hes⟩ := Option.isSome_iff_exists.1 hdir
  obtain ⟨removed, mode, modified, hnode⟩ := entries?_eq_some_iff.1 hes
  have hkind : fs.kindOf root.node = .directory := kindOf_eq_directory_iff.2 ⟨entries, hes⟩
  have hfound : (fs.serve (.metadata false root.path)).1 = .ok (Node.metadata ⟨.directory entries removed, mode, modified⟩) :=
    metadata_eq_ok_iff.2 ⟨root, _, hroot.trailTo_keep hcheck, hnode, rfl⟩
  have htry : Ends fs 2 (Action.tryFiles (.metadata false root.path)) rest out (Leaves (.ok _) rest out) :=
    hfound ▸ ends_tryReading rfl
  refine ⟨_, htry.andThen (m := 1) ?_⟩
  rw [visitOf, hkind]
  exact ⟨rfl, rfl, rfl⟩

/-- **What is told of a name** that is looked for on a walk. -/
def told (walk : List Trail) (name : String) : String :=
  match firstNamed name walk with
  | some t => name ++ " found - " ++ Path.render t.path ++ "\n"
  | none => name ++ " not found\n"

open Program in
theorem ends_findOne (hfs : fs.Proper) (hroot : fs.Stands root) (hdir : fs.isDirectory root.node = true)
    (hclear : fs.Clear root) (hwalk : fs.Visits [root] walk) {path : String} (hpath : Path.ofString path = root.path)
    (rest : Option Bytes) (name : String) (out : Bytes) : ∃ n,
      Ends fs n (findOne path name) rest (Bytes.ofString (told walk name) ++ out) (Leaves none rest out) := by
  have hcheck := Below.root.checkPath hclear hdir
  obtain ⟨n, hn⟩ := ends_firstVisit hroot hdir hcheck rest (Bytes.ofString (told walk name) ++ out)
  obtain ⟨k, hk⟩ := ends_write fs rest out (Bytes.ofString (told walk name))
  have hprint : Ends fs (k + 1) (Action.print (told walk name) >>= fun _ => pure none : Action (Option String)) rest
      (Bytes.ofString (told walk name) ++ out) (Leaves none rest out) := hk.andThen ⟨rfl, rfl, rfl⟩
  have hbelow : ∀ t ∈ [root], fs.Below root t := List.forall_mem_singleton.2 .root
  obtain ⟨m, hm⟩ : ∃ m, Ends fs m (Action.loop .search (name, [fs.visitOf root])) rest (Bytes.ofString (told walk name) ++ out)
      (Leaves (finding (firstNamed name walk)) rest (Bytes.ofString (told walk name) ++ out)) :=
    ends_search hfs hroot hclear hwalk hbelow (n := 1) ⟨rfl, rfl, rfl⟩
  refine ⟨2 + (n + (m + (k + 1))), ends_check.andThen ?_⟩
  rw [hpath]
  refine hn.andThen (hm.andThen ?_)
  unfold told at hprint ⊢
  cases hfirst : firstNamed name walk with
  | none =>
    rw [hfirst] at hprint
    exact hprint
  | some t =>
    rw [hfirst] at hprint
    exact hprint

/-- **The first place that has a name** is told. -/
theorem told_of_first {front back : List Trail} (hname : Bytes.toText t.lastName = name)
    (hfront : ∀ u ∈ front, Bytes.toText u.lastName ≠ name) :
    told (front ++ t :: back) name = name ++ " found - " ++ Path.render t.path ++ "\n" := by
  have hfirst : firstNamed name (front ++ t :: back) = some t :=
    List.find?_eq_some_iff_append.2 ⟨by simpa using hname, front, back, rfl, by simpa using hfront⟩
  rw [told, hfirst]

/-- **That a name is not found is told** exactly where nothing has it. -/
theorem told_eq_not_found_iff (htour : fs.Tour root walk) :
    told walk name = name ++ " not found\n" ↔ ∀ t, fs.Below root t → Bytes.toText t.lastName ≠ name := by
  unfold told
  cases hfirst : firstNamed name walk with
  | none =>
    have hnone := List.find?_eq_none.1 hfirst
    exact iff_of_true rfl fun t ht => by simpa using hnone t ((htour.mem_iff t).2 ht)
  | some t =>
    have hsome : Bytes.toText t.lastName = name := by simpa using List.find?_some hfirst
    refine iff_of_false (fun htold => ?_) fun hnone =>
      hnone t ((htour.mem_iff t).1 (List.mem_of_find?_eq_some hfirst)) hsome
    have hchars := congrArg String.toList htold
    simp [String.toList_append] at hchars

open Program Bench in
/-- **`find` reports the first place of each name.**  From a canonical path that leads to a directory, everything below
which can be listed, there is a tour of what is below that, in which every directory comes before what is in it and its
entries are in the byte order of their names.  A run with names tells of each in turn, and of nothing else: the first
place of the tour that has the name, or that it is not found, which is exactly where nothing below has it. -/
theorem finds_first {path : String} (hfs : fs.Proper)
    (hcanonical : fs.canonical (Path.ofString path) = .ok (Path.ofString path))
    (hpath : fs.trailTo .follow (Path.ofString path) = .ok root) (hdir : fs.isDirectory root.node = true)
    (hclear : fs.Clear root) {names : List String} (hne : names ≠ []) : ∃ walk, fs.Tour root walk ∧
      (∀ (rest : Option Bytes) (bench : Bench), bench.Gives fs rest → ∃ bench', Does (run path names) bench (.ok ())
        (names.flatMap fun name => Bytes.ofString (told walk name)) bench') ∧
      (∀ front t back name, walk = front ++ t :: back → Bytes.toText t.lastName = name →
        (∀ u ∈ front, Bytes.toText u.lastName ≠ name) →
          told walk name = name ++ " found - " ++ Path.render t.path ++ "\n") ∧
      ∀ name, told walk name = name ++ " not found\n" ↔ ∀ t, fs.Below root t → Bytes.toText t.lastName ≠ name := by
  obtain ⟨trail, htrail, -, hspelt⟩ := canonical_eq_ok_iff.1 hcanonical
  obtain rfl : trail = root := Except.ok.inj (htrail.symm.trans hpath)
  have hroot : fs.Stands trail := stands_of_trailTo htrail (hspelt ▸ trail.isAbsolute_path)
  obtain ⟨walk, hwalk⟩ := exists_walk hfs hroot hclear
  have htour := hwalk.tour hfs.distinct
  refine ⟨walk, htour, fun rest bench hb => ?_, ?_, fun name => told_eq_not_found_iff htour⟩
  · obtain ⟨m, hm⟩ := ends_eachOperand (ends_findOne hfs hroot hdir hclear hwalk hspelt.symm rest) [] names
    have hrun : Ends fs (m + 1) (run path names) rest (names.flatMap (fun name => Bytes.ofString (told walk name)) ++ [])
        (Leaves () rest []) := by
      unfold run
      rw [if_neg (by simpa using hne)]
      exact hm.andThen ⟨rfl, rfl, rfl⟩
    obtain ⟨result, rest', left, bench', out, hleads, ⟨rfl, rfl, rfl⟩, -, hout, htold⟩ := hrun.brings hb
    rw [List.append_nil, List.append_nil] at hout
    exact ⟨bench', leads_done_iff.1 hleads, hout ▸ htold⟩
  · rintro front t back name rfl hname hfront
    exact told_of_first hname hfront

theorem visits_nested : Cd.nested.Visits [[]] [[], [(Path.ofString "d", 1)],
    [(Path.ofString "e", 2), (Path.ofString "d", 1)], [(Path.ofString "l", 3)]] := by
  have hroot : ordered [(Path.ofString "d", 1), (Path.ofString "l", 3)] = [(Path.ofString "d", 1), (Path.ofString "l", 3)] :=
    List.mergeSort_of_pairwise (by decide)
  refine .enters [] rfl ?_
  rw [hroot]
  refine .enters [(Path.ofString "d", 1)] rfl ?_
  rw [show ordered [(Path.ofString "e", 2)] = [(Path.ofString "e", 2)] from List.mergeSort_singleton _]
  refine .enters [(Path.ofString "e", 2), (Path.ofString "d", 1)] rfl ?_
  rw [show ordered ([] : List (Bytes × NodeId)) = [] from List.mergeSort_nil]
  exact .passes _ rfl .done

theorem proper_nested : Cd.nested.Proper where
  isName := everyName_of_nodes (by decide)
  distinct := distinct_of_nodes (by decide)

/-- A name in a directory, that of a link, which is not followed, and one that is not there. -/
theorem finds_first_nested : ∃ bench', Bench.Does (run "/" ["e", "l", "x"]) { files := Cd.nested } (.ok ())
    (Bytes.ofString "e found - /d/e\n" ++ Bytes.ofString "l found - /l\n" ++ Bytes.ofString "x not found\n") bench' := by
  have hbelow := (visits_nested.tour proper_nested.distinct).mem_iff
  have hclear : Cd.nested.Clear [] := by
    intro t ht hdir
    have ht := (hbelow t).2 ht
    simp only [List.mem_cons, List.not_mem_nil, or_false] at ht
    rcases ht with rfl | rfl | rfl | rfl
    · exact ⟨_, rfl⟩
    · exact ⟨_, rfl⟩
    · exact ⟨_, rfl⟩
    · cases hdir
  have hcanonical : Cd.nested.canonical (Path.ofString "/") = .ok (Path.ofString "/") := rfl
  obtain ⟨walk, htour, hdoes, -, -⟩ := finds_first proper_nested hcanonical rfl rfl hclear
    (List.cons_ne_nil "e" ["l", "x"])
  obtain rfl := htour.unique (visits_nested.tour proper_nested.distinct)
  obtain ⟨bench', hbench⟩ := hdoes none { files := Cd.nested } ⟨rfl, ⟨rfl, rfl, rfl, rfl, rfl, rfl⟩, rfl, nofun⟩
  exact ⟨bench', hbench⟩

end Find
end LineShell
