import LineShell.Builtin.Listing
import LineShell.Proofs.Builtin.Arriving
import LineShell.Proofs.Command.Feeding
import LineShell.Proofs.Command.Proceeding
import LineShell.Proofs.Flow.Textual
import LineShell.Proofs.Line.Telling
import LineShell.Proofs.Text.Ordering
/-!
# Listed — a directory is listed as it is

`ls` reads a directory to its end before it prints anything (`courses_of_run`): whatever answers it, either one of the
answers was a fault, and then nothing was asked to be written, or every entry was looked up (`LooksUp`) and what is
printed is the text of all of them.  That text is the same whatever order the entries were delivered in, as long as no
two have the same name (`sorted_eq_of_perm`), and its records say of each entry once what it is called and whether it is
a directory itself; in the long form the sizes end at one column (`exists_column`).  A tree whose directory can be read
is listed, however the text is taken (`ends_run`).
-/
namespace LineShell
namespace Ls

open LineShell.Program (Proceeds)

variable {es : List Exchange} {long : Bool}

/-! ## The text of a listing -/

theorem perm_sorted (entries : List Entry) : (sorted entries).Perm entries := List.mergeSort_perm ..

theorem inOrder_sorted (entries : List Entry) : Bytes.InOrder (fun e => Bytes.ofString e.name) (sorted entries) :=
  Bytes.inOrder_mergeSort (fun e : Entry => Bytes.ofString e.name) entries

/-- **The order of delivery does not show** where no two entries have the same name. -/
theorem sorted_eq_of_perm {entries entries' : List Entry} (h : entries.Perm entries')
    (hnames : (entries.map Entry.name).Nodup) : sorted entries = sorted entries' := by
  have hperm : (sorted entries).Perm (sorted entries') :=
    ((perm_sorted entries).trans h).trans (perm_sorted entries').symm
  refine (inOrder_sorted entries).eq_of_perm (inOrder_sorted entries') hperm ?_
  have hbytes : ((entries.map Entry.name).map Bytes.ofString).Nodup := hnames.map fun _ _ => Bytes.ofString_inj
  rw [List.map_map] at hbytes
  exact (((perm_sorted entries).map _).nodup_iff).2 hbytes

theorem marked_eq (e : Entry) : e.marked = if e.found.kind = .directory then e.name ++ "/" else e.name := by
  unfold Entry.marked
  split
  · rfl
  · exact String.append_empty

theorem length_modeText (m : Metadata) : (Entry.modeText m).length = 10 := by
  simp [Entry.modeText, Entry.permissions]

theorem le_foldl_max {n width : Nat} : ∀ {widths : List Nat}, n ≤ width ∨ n ∈ widths → n ≤ widths.foldl max width
  | [], h => h.elim id nofun
  | w :: widths, h => by
    have hnext : n ≤ max width w ∨ n ∈ widths := by
      rcases h with h | h
      · exact .inl (Nat.le_trans h (Nat.le_max_left _ _))
      · rcases List.mem_cons.1 h with rfl | h
        · exact .inl (Nat.le_max_right _ _)
        · exact .inr h
    show n ≤ widths.foldl max (max width w)
    exact le_foldl_max hnext

theorem length_sizeText_le {e : Entry} {entries : List Entry} (h : e ∈ entries) :
    e.sizeText.length ≤ sizeWidth entries :=
  le_foldl_max (.inr (List.mem_map.2 ⟨e, h, rfl⟩))

/-- **A record of the long form** whose size ends at a column: mode, blanks, the size of the entry in full, time and
marked name. -/
def Recorded (column : Nat) (e : Entry) (line : String) : Prop :=
  ∃ pad, line = Entry.modeText e.found ++ " " ++ String.ofList (List.replicate pad ' ') ++ toString e.found.size ++ " " ++
      Stamp.render e.found.modified ++ " " ++ (if e.found.kind = .directory then e.name ++ "/" else e.name) ++ "\n" ∧
    (Entry.modeText e.found ++ " " ++ String.ofList (List.replicate pad ' ') ++ toString e.found.size).length = column

theorem exists_column (entries : List Entry) :
    ∃ column, ∀ e ∈ entries, Recorded column e (longLine (sizeWidth entries) e) := by
  refine ⟨11 + sizeWidth entries, fun e he => ⟨sizeWidth entries - e.sizeText.length, ?_, ?_⟩⟩
  · rw [← marked_eq]
    simp only [longLine, alignRight, Entry.sizeText, String.append_assoc]
  · have hle : (toString e.found.size).length ≤ sizeWidth entries := length_sizeText_le he
    simp only [Entry.sizeText, String.length_append, length_modeText, String.length_ofList, List.length_replicate]
    show 10 + 1 + _ + _ = _
    omega

/-! ## Courses -/

def place (path : String) : (dir : Option String) → Path
  | some dir => Action.resolve path dir
  | none => Path.ofString path

/-- **Every entry is looked up**: the answers, and the entries that are listed by them. -/
inductive LooksUp (dir : NodeId) : (names : List (Bytes × Kind)) → List Exchange → List Entry → Prop
  | nil : LooksUp dir [] [] []
  | cons {names : List (Bytes × Kind)} {es : List Exchange} {delivered : List Entry} (name : Bytes) (kind : Kind)
      (found : Metadata) (h : LooksUp dir names es delivered) :
      LooksUp dir ((name, kind) :: names) (⟨.poll, false⟩ :: ⟨.files (.entryMetadata dir name), .ok found⟩ :: es)
        (⟨Bytes.toText name, found⟩ :: delivered)

def Faulty (es : List Exchange) : Prop := ∃ q : FileRequest, ∃ f, ⟨.files q, .error f⟩ ∈ es

def Silent (es : List Exchange) : Prop := ∀ e ∈ es, ∀ data, e.request ≠ .write data

/-- Reading a directory came upon a fault, and nothing was asked to be written. -/
structure Unread (es : List Exchange) : Prop where
  faulty : Faulty es
  silent : Silent es

theorem Unread.cons (h : Unread es) {e : Exchange} (he : ∀ data, e.request ≠ .write data) : Unread (e :: es) :=
  ⟨h.faulty.imp fun _ ⟨f, hf⟩ => ⟨f, List.mem_cons_of_mem _ hf⟩, List.forall_mem_cons.2 ⟨he, h.silent⟩⟩

theorem unread_of_fault (q : FileRequest) (f : Fault) : Unread [⟨.files q, .error f⟩] :=
  ⟨⟨q, f, List.mem_singleton_self _⟩, List.forall_mem_cons.2 ⟨fun _ => nofun, nofun⟩⟩

/-- **Looking up the entries** comes upon a fault, or they are all looked up. -/
theorem lookUp_cases {dir : NodeId} : ∀ {names : List (Bytes × Kind)} {es : List Exchange}
    {result : Except Failure (List Entry)}, Proceeds (lookUp dir names) es (.done result) → (∀ e ∈ es, ¬ e.TakesStop) →
      (Unread es ∧ ∃ e, result = .error e) ∨ ∃ delivered, LooksUp dir names es delivered ∧ result = .ok delivered
  | [], es, result, h, _ => by
    obtain ⟨rfl, rfl⟩ := h.eq_of_done
    exact .inr ⟨[], .nil, rfl⟩
  | (name, kind) :: names, es, result, h, hstop => by
    obtain ⟨rest, rfl, hask⟩ := Action.check_cases h hstop
    have hstop := (List.forall_mem_cons.1 hstop).2
    rcases Action.ask_cases hask with ⟨f, rfl, rfl⟩ | ⟨found, rest, rfl, hmore⟩
    · exact .inl ⟨(unread_of_fault _ f).cons fun _ => nofun, _, rfl⟩
    have hstop := (List.forall_mem_cons.1 hstop).2
    rcases Action.bind_cases hmore with ⟨e, hrest, rfl⟩ | ⟨front, back, delivered, rfl, hrest, hlast⟩
    · rcases lookUp_cases hrest hstop with ⟨hunread, -⟩ | ⟨_, -, hok⟩
      · exact .inl ⟨(hunread.cons fun _ => by nofun).cons fun _ => by nofun, e, rfl⟩
      · cases hok
    · obtain ⟨rfl, rfl⟩ := hlast.eq_of_done
      rw [List.append_nil] at hstop ⊢
      rcases lookUp_cases hrest hstop with ⟨-, e, hfails⟩ | ⟨_, hlooks, hok⟩
      · cases hfails
      · cases hok
        exact .inr ⟨_, .cons name kind found hlooks, rfl⟩

/-! ## Printing -/

def Apart (es : List Exchange) : Prop := ∀ e ∈ es, ∀ q, e.request ≠ .files q

theorem Apart.append {es' : List Exchange} (h : Apart es) (h' : Apart es') : Apart (es ++ es') := by
  intro e he
  exact (List.mem_append.1 he).elim (h e) (h' e)

theorem apart_of_puts {sink : Sink} {data : Bytes} {result : Except Fault Sink} (h : sink.Puts data es result)
    (hsink : sink = .output) : Apart es := by
  have one : ∀ {data : Bytes} {reply : Except Fault Nat} {e : Exchange}, Sink.Writes data reply .output e →
      ∀ q, e.request ≠ .files q := by
    rintro _ _ _ ⟨⟩ q
    nofun
  induction h with
  | finished | held => exact nofun
  | again _ hwrite _ ih =>
    subst hsink
    exact List.forall_mem_cons.2 ⟨one hwrite, ih rfl⟩
  | part _ hwrite _ ih =>
    subst hsink
    exact List.forall_mem_cons.2 ⟨one hwrite, ih rfl⟩
  | zero _ hwrite | failed _ hwrite =>
    subst hsink
    exact List.forall_mem_cons.2 ⟨one hwrite, nofun⟩

open LineReport

theorem print_cases {text : String} {result : Except Failure Unit} (h : Proceeds (Action.print text) es (.done result))
    (hstop : ∀ e ∈ es, ¬ e.TakesStop) :
    Apart es ∧ ∃ written, Wrote (Bytes.ofString text) es written ∧ result = written.mapError .fault := by
  obtain ⟨rest, rfl, hput⟩ := Action.check_cases (f := fun _ => do
    let _ ← Action.loop .put (.output, Bytes.ofString text)
    pure ()) h hstop
  obtain ⟨puts, rest, sink, rfl, hputs, hlast⟩ := Program.puts_of_proceeds rest hput
  have hwrote := (wrote_of_puts hputs rfl).1.cons (e := ⟨.poll, false⟩) id
  obtain ⟨rfl, hresult⟩ : rest = [] ∧ result = (sink.map fun _ => ()).mapError .fault := by
    cases sink with
    | ok sink => exact hlast.eq_of_done
    | error f => exact hlast.eq_of_done
  rw [List.append_nil]
  exact ⟨List.forall_mem_cons.2 ⟨fun _ => nofun, apart_of_puts hputs rfl⟩, _, hwrote, hresult⟩

/-- **Printing texts** gets all of them accepted, or meets a write that fails. -/
theorem printEach_cases : ∀ {texts : List String} {es : List Exchange} {result : Except Failure Unit},
    Proceeds (printEach texts) es (.done result) → (∀ e ∈ es, ¬ e.TakesStop) →
      Apart es ∧ ∃ written, Wrote (Bytes.ofString (String.join texts)) es written ∧ result = written.mapError .fault
  | [], es, result, h, _ => by
    obtain ⟨rfl, rfl⟩ := h.eq_of_done
    exact ⟨nofun, .ok (), ⟨nofun, rfl⟩, rfl⟩
  | text :: texts, es, result, h, hstop => by
    rw [String.join_cons, Bytes.ofString_append]
    rcases Action.bind_cases h with ⟨e, hprint, rfl⟩ | ⟨front, back, _, rfl, hprint, hmore⟩
    · obtain ⟨hapart, written, hwrote, hresult⟩ := print_cases hprint hstop
      match written with
      | .ok () => cases hresult
      | .error f => exact ⟨hapart, .error f, ⟨hwrote.1, hwrote.2.trans (List.prefix_append _ _)⟩, by cases hresult; rfl⟩
    · obtain ⟨hfront, hback⟩ := List.forall_mem_append.1 hstop
      obtain ⟨hapart, written, hwrote, hresult⟩ := print_cases hprint hfront
      obtain ⟨hapart', written', hwrote', rfl⟩ := printEach_cases hmore hback
      match written with
      | .ok () => exact ⟨hapart.append hapart', written', hwrote.append hwrote', rfl⟩
      | .error f => cases hresult

theorem LooksUp.not_faulty {dir : NodeId} {names : List (Bytes × Kind)} {delivered : List Entry}
    (h : LooksUp dir names es delivered) : ¬ Faulty es := by
  rintro ⟨q, f, hmem⟩
  induction h with
  | nil => cases hmem
  | cons name kind found _ ih =>
    rcases List.mem_cons.1 hmem with h | h
    · cases h
    rcases List.mem_cons.1 h with h | h
    · cases h
    · exact ih h

/-- **The entries as they are listed** are those that were looked up, in the order of their names. -/
theorem entries_cases {dir : Path} {result : Except Failure (List Entry)} (h : Proceeds (entries dir) es (.done result))
    (hstop : ∀ e ∈ es, ¬ e.TakesStop) :
    (Unread es ∧ ∃ e, result = .error e) ∨ ∃ id names looks delivered,
      es = ⟨.files (.listing dir), .ok (id, names)⟩ :: looks ∧ LooksUp id names looks delivered ∧
      result = .ok (sorted delivered) := by
  rcases Action.askOr_cases h with ⟨f, rfl, rfl⟩ | ⟨⟨id, names⟩, rest, rfl, hmore⟩
  · exact .inl ⟨unread_of_fault _ f, _, rfl⟩
  have hstop := (List.forall_mem_cons.1 hstop).2
  rcases Action.bind_cases hmore with ⟨e, hlook, rfl⟩ | ⟨front, back, delivered, rfl, hlook, hlast⟩
  · rcases lookUp_cases hlook hstop with ⟨hunread, -⟩ | ⟨_, -, hok⟩
    · exact .inl ⟨hunread.cons fun _ => by nofun, e, rfl⟩
    · cases hok
  · obtain ⟨rfl, rfl⟩ := hlast.eq_of_done
    rw [List.append_nil] at hstop ⊢
    rcases lookUp_cases hlook hstop with ⟨-, e, hfails⟩ | ⟨_, hlooks, hok⟩
    · cases hfails
    · cases hok
      exact .inr ⟨id, names, front, delivered, rfl, hlooks, rfl⟩

/-- **What a course comes to**: nothing is written where an answer was a fault; otherwise every entry was looked up
first, and then the text of all of them is written. -/
theorem courses_of_run {path : String} {dir : Option String} {result : Except Failure Unit}
    (h : Proceeds (run path long dir) es (.done result)) (hstop : ∀ e ∈ es, ¬ e.TakesStop) :
    (Faulty es → Silent es ∧ ∃ e, result = .error e) ∧
    (¬ Faulty es → ∃ id names looks prints delivered written,
      es = ⟨.files (.listing (place path dir)), .ok (id, names)⟩ :: looks ++ prints ∧
      LooksUp id names looks delivered ∧
      Wrote (Bytes.ofString (String.join (texts long (sorted delivered)))) prints written ∧
      result = written.mapError .fault) := by
  have h : Proceeds (entries (place path dir) >>= fun shown => printEach (texts long shown) : Action Unit) es
    (.done result) := h
  rcases Action.bind_cases h with ⟨e, hread, rfl⟩ | ⟨front, prints, shown, rfl, hread, hprint⟩
  · rcases entries_cases hread hstop with ⟨hunread, -⟩ | ⟨_, _, _, _, -, -, hok⟩
    · exact ⟨fun _ => ⟨hunread.silent, e, rfl⟩, fun hnot => absurd hunread.faulty hnot⟩
    · cases hok
  · obtain ⟨hfront, hback⟩ := List.forall_mem_append.1 hstop
    rcases entries_cases hread hfront with ⟨-, e, hfails⟩ | ⟨id, names, looks, delivered, rfl, hlooks, hok⟩
    · cases hfails
    cases hok
    obtain ⟨hapart, written, hwrote, rfl⟩ := printEach_cases hprint hback
    refine ⟨fun ⟨q, f, hmem⟩ => ?_, fun _ => ⟨id, names, looks, prints, delivered, written, rfl, hlooks, hwrote, rfl⟩⟩
    rcases List.mem_append.1 hmem with hmem | hmem
    · rcases List.mem_cons.1 hmem with hmem | hmem
      · cases hmem
      · exact absurd ⟨q, f, hmem⟩ hlooks.not_faulty
    · exact absurd rfl (hapart _ hmem q)

/-! ## Trees -/

open Program (Ends Leaves)

variable {files : Files} {rest : Option Bytes}

/-- **The entries of a directory** as a tree has them: their names are read as text, and each is what it is itself. -/
def Found (files : Files) (dir : NodeId) : (names : List (Bytes × Kind)) → (found : List Entry) → Prop :=
  List.Forall₂ fun n e => e.name = Bytes.toText n.1 ∧ files.entryMetadata dir n.1 = .ok e.found

theorem Found.unique {dir : NodeId} {names : List (Bytes × Kind)} {found found' : List Entry}
    (h : Found files dir names found) (h' : Found files dir names found') : found = found' := by
  induction h generalizing found' with
  | nil =>
    cases h'
    rfl
  | @cons n e names found hone _ ih =>
    cases h' with
    | @cons _ e' _ found' hone' hmore =>
      obtain ⟨name, m⟩ := e
      obtain ⟨name', m'⟩ := e'
      obtain rfl : name = name' := hone.1.trans hone'.1.symm
      obtain rfl : m = m' := Except.ok.inj (hone.2.symm.trans hone'.2)
      rw [ih hmore]

theorem exists_found {dir : NodeId} : ∀ {names : List (Bytes × Kind)},
    (∀ n ∈ names, ∃ found, files.entryMetadata dir n.1 = .ok found) → ∃ found, Found files dir names found
  | [], _ => ⟨[], .nil⟩
  | _ :: _, h => by
    obtain ⟨⟨found, hfound⟩, hmore⟩ := List.forall_mem_cons.1 h
    obtain ⟨more, hall⟩ := exists_found hmore
    exact ⟨⟨_, found⟩ :: more, .cons ⟨rfl, hfound⟩ hall⟩

theorem ends_lookUp {dir : NodeId} {names : List (Bytes × Kind)} {found : List Entry} (h : Found files dir names found)
    (rest : Option Bytes) (out : Bytes) : ∃ n, Ends files n (lookUp dir names) rest out (Leaves found rest out) := by
  induction h with
  | nil => exact ⟨1, rfl, rfl, rfl⟩
  | @cons n e names found hone _ ih =>
    obtain ⟨hname, hfound⟩ := hone
    obtain ⟨m, hm⟩ := ih
    have hask : Ends files 3 (Action.ask (.entryMetadata dir n.1)) rest out (Leaves e.found rest out) :=
      Program.ends_ask rfl hfound
    refine ⟨_, Program.ends_check.andThen (hask.andThen (hm.andThen (m := 1) ?_))⟩
    exact ⟨by rw [← hname], rfl, rfl⟩

theorem ends_printEach (files : Files) (rest : Option Bytes) : ∀ texts : List String, ∃ n,
    Ends files n (printEach texts) rest (Bytes.ofString (String.join texts)) (Leaves () rest [])
  | [] => ⟨1, rfl, rfl, rfl⟩
  | text :: texts => by
    obtain ⟨n, hn⟩ := ends_printEach files rest texts
    obtain ⟨m, hm⟩ := Program.ends_write files rest (Bytes.ofString (String.join texts)) (Bytes.ofString text)
    rw [String.join_cons, Bytes.ofString_append]
    exact ⟨m + n, hm.andThen hn⟩

/-- **A directory that can be read is listed**, in whatever pieces the text is taken. -/
theorem ends_run {path : String} {dir : Option String} {id : NodeId} {names : List (Bytes × Kind)} {found : List Entry}
    (hlist : files.listing (place path dir) = .ok (id, names)) (hfound : Found files id names found) (long : Bool)
    (rest : Option Bytes) : ∃ n,
    Ends files n (run path long dir) rest (Bytes.ofString (String.join (texts long (sorted found))))
      (Leaves () rest []) := by
  obtain ⟨m, hm⟩ := ends_lookUp hfound rest (Bytes.ofString (String.join (texts long (sorted found))))
  obtain ⟨k, hk⟩ := ends_printEach files rest (texts long (sorted found))
  have hask : Ends files 3 (Action.askOr (.listing (place path dir)) ("ls: cannot read " ++ (place path dir).render)) rest
      (Bytes.ofString (String.join (texts long (sorted found)))) (Leaves (id, names) rest _) :=
    Program.ends_askOr _ rfl hlist
  have hentries : Ends files (3 + (m + 1)) (entries (place path dir)) rest
      (Bytes.ofString (String.join (texts long (sorted found)))) (Leaves (sorted found) rest _) :=
    hask.andThen (hm.andThen (m := 1) ⟨rfl, rfl, rfl⟩)
  exact ⟨_, hentries.andThen hk⟩

/-- **At a bench where the directory can be read** the whole text is printed. -/
theorem does_run {path : String} {dir : Option String} {id : NodeId} {names : List (Bytes × Kind)} {found : List Entry}
    (hlist : files.listing (place path dir) = .ok (id, names)) (hfound : Found files id names found) (long : Bool)
    {bench : Bench} (hb : bench.Gives files none) : ∃ bench',
    Bench.Does (run path long dir) bench (.ok ()) (Bytes.ofString (String.join (texts long (sorted found)))) bench' := by
  obtain ⟨n, hn⟩ := ends_run hlist hfound long none
  obtain ⟨result, rest, left, bench', told, hleads, ⟨rfl, rfl, rfl⟩, -, hout, htold⟩ := hn.brings hb
  rw [List.append_nil] at hout
  exact ⟨bench', Bench.leads_done_iff.1 hleads, hout ▸ htold⟩

/-! ## What is listed -/

/-- **What is shown of the entries of a directory**, in one line or with a line each. -/
structure Shows (delivered shown : List Entry) : Prop where
  /-- Every entry is shown once. -/
  perm : shown.Perm delivered
  ordered : Bytes.InOrder (fun e => Bytes.ofString e.name) shown
  short : texts false shown =
    shown.map (fun e => (if e.found.kind = .directory then e.name ++ "/" else e.name) ++ "    ") ++
      if shown = [] then [] else ["\n"]
  /-- The sizes end at one column, and none is cut off. -/
  long : ∃ column, List.Forall₂ (Recorded column) shown (texts true shown)

theorem shows_sorted (delivered : List Entry) : Shows delivered (sorted delivered) where
  perm := perm_sorted delivered
  ordered := inOrder_sorted delivered
  short := by
    simp only [← marked_eq]
    cases sorted delivered <;> rfl
  long := by
    obtain ⟨column, hcolumn⟩ := exists_column (sorted delivered)
    exact ⟨column, List.forall₂_map_right_iff.2 (List.forall₂_same.2 hcolumn)⟩

/-- **A directory is listed as it is.**  Whatever answers `ls` without asking it to stop: where an answer is a fault,
nothing is written at all; where none is, every entry of the listing is looked up before anything is written, and then
the text of these entries is written, all of it unless a write fails.  That text shows every entry once, in the order of
the names, whatever order they were delivered in, so that the short and the long form show the same names and marks in the
same order where no two names are the same.  At a bench whose tree has such a directory the text is printed. -/
theorem lists_directory (path : String) (dir : Option String) :
    (∀ (long : Bool) (es : List Exchange) (result : Except Failure Unit),
      Proceeds (run path long dir) es (.done result) → (∀ e ∈ es, ¬ e.TakesStop) →
        (Faulty es → Silent es ∧ ∃ e, result = .error e) ∧
        (¬ Faulty es → ∃ id names looks prints delivered written,
          es = ⟨.files (.listing (place path dir)), .ok (id, names)⟩ :: looks ++ prints ∧
          LooksUp id names looks delivered ∧
          Wrote (Bytes.ofString (String.join (texts long (sorted delivered)))) prints written ∧
          result = written.mapError .fault)) ∧
    (∀ delivered, Shows delivered (sorted delivered)) ∧
    (∀ delivered delivered' : List Entry, delivered.Perm delivered' → (delivered.map Entry.name).Nodup →
      sorted delivered = sorted delivered') ∧
    ∀ (files : Files) (id : NodeId) (names : List (Bytes × Kind)),
      files.listing (place path dir) = .ok (id, names) →
      (∀ n ∈ names, ∃ found, files.entryMetadata id n.1 = .ok found) →
        ∃ found, Found files id names found ∧ ∀ (long : Bool) (bench : Bench), bench.Gives files none → ∃ bench',
          Bench.Does (run path long dir) bench (.ok ())
            (Bytes.ofString (String.join (texts long (sorted found)))) bench' := by
  refine ⟨fun _ _ _ h hstop => courses_of_run h hstop, shows_sorted, fun _ _ => sorted_eq_of_perm, ?_⟩
  intro files id names hlist hnames
  obtain ⟨found, hfound⟩ := exists_found hnames
  exact ⟨found, hfound, fun long _ hb => does_run hlist hfound long hb⟩

/-- A directory and beside it a link to a directory, of which only the first is marked, in both forms. -/
theorem lists_directory_nested :
    (∃ bench', Bench.Does (run "/" false none) { files := Cd.nested } (.ok ()) (Bytes.ofString "d/    l    \n") bench') ∧
    ∃ bench', Bench.Does (run "/" true none) { files := Cd.nested } (.ok ())
      (Bytes.ofString "drwxr-xr-x 4096 00:00 01 Jan d/\nLrwxrwxrwx    3 00:00 01 Jan l\n") bench' := by
  let names : List (Bytes × Kind) := [(Path.ofString "d", .directory), (Path.ofString "l", .link)]
  have hd : Cd.nested.entryMetadata 0 (Path.ofString "d") = .ok ⟨.directory, Files.directoryMode, 4096, 0⟩ := rfl
  have hl : Cd.nested.entryMetadata 0 (Path.ofString "l") = .ok ⟨.link, Files.linkMode, 3, 0⟩ := rfl
  have hnames : ∀ n ∈ names, ∃ found, Cd.nested.entryMetadata 0 n.1 = .ok found :=
    List.forall_mem_cons.2 ⟨⟨_, hd⟩, List.forall_mem_cons.2 ⟨⟨_, hl⟩, nofun⟩⟩
  obtain ⟨-, -, -, htree⟩ := lists_directory "/" none
  obtain ⟨found, hfound, hprints⟩ := htree Cd.nested 0 names rfl hnames
  have hboth : Found Cd.nested 0 names
      [⟨"d", ⟨.directory, Files.directoryMode, 4096, 0⟩⟩, ⟨"l", ⟨.link, Files.linkMode, 3, 0⟩⟩] :=
    .cons ⟨(Bytes.toText_ofString "d").symm, hd⟩ (.cons ⟨(Bytes.toText_ofString "l").symm, hl⟩ .nil)
  obtain rfl := hfound.unique hboth
  rw [sorted, List.mergeSort_of_pairwise (by decide)] at hprints
  have hgives : ({ files := Cd.nested } : Bench).Gives Cd.nested none := ⟨rfl, ⟨rfl, rfl, rfl, rfl, rfl, rfl⟩, rfl, nofun⟩
  obtain ⟨bench', hshort⟩ := hprints false _ hgives
  obtain ⟨bench'', hlong⟩ := hprints true _ hgives
  exact ⟨⟨bench', hshort⟩, bench'', hlong⟩

end Ls
end LineShell
