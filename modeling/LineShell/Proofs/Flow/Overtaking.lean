import LineShell.Builtin.Texts
import LineShell.Files.Tree
import LineShell.Proofs.Files.Lookups
import LineShell.Proofs.Flow.Alone
/-!
# Overtaking — a command that reads what it writes

`cat` copies its operands to its output one after the other, each to the end that it has by then.  Where an operand is the
very file that is written to, its end moves on with every piece: it is never reached if anything was written before, and is
reached at once if nothing was, for the file was emptied when it was opened.  So `cat` ends unless an operand is the file
that it writes to and stands behind one that brings data (`Cat.Overtakes`), and so does a run of it (`settles_or_goes_on`).
-/
namespace LineShell

open Program (Comes Lasts Gives Takes comes_andThen comes_andThen_error comes_attempt comes_copy comes_copy_piece
  comes_copy_end comes_copy_fault)

namespace Desk

variable {fs : Files} {k i : NodeId} {out data : Bytes} {d : Desk} {offset : Nat}

/-- **What was written at a desk**: the file holds it, unless it is a device, and nothing else has changed. -/
structure Wrote (fs : Files) (k : NodeId) (out : Bytes) (d : Desk) : Prop where
  file : d.file = k
  offset : d.offset = out.length
  patches : Files.Patches k fs d.files
  held : d.files.data? k = (fs.data? k).map fun _ => out

theorem gives_readAt {limit : Nat} (h : d.files.readAt i offset limit = .ok data) :
    Gives Answers d limit data d (.file i offset) := by
  show some (d.files.readAt i offset limit, d) = some (.ok data, d)
  rw [h]

namespace Wrote

theorem takes (h : Wrote fs k out d) (data : Bytes) :
    ∃ d', Takes Answers d data d' .output ∧ Wrote fs k (out ++ data) d' ∧ d'.console = d.console := by
  obtain ⟨files, console, file, offset⟩ := d
  obtain ⟨rfl, rfl, hpatches, hheld⟩ := h
  -- What the file is given, and what it holds then.
  obtain ⟨files', hwrite, hpatches', hheld'⟩ : ∃ files',
      files.writeAt file out.length data = (.ok data.length, files') ∧ Files.Patches file files files' ∧
        files'.data? file = (fs.data? file).map fun _ => out ++ data := by
    cases hfile : fs.data? file with
    | some old =>
      rw [hfile] at hheld
      exact Files.writeAt_end hheld data
    | none =>
      rw [hfile] at hheld
      exact ⟨files, Files.writeAt_none hheld _ _, .refl _ _, hheld⟩
  refine ⟨⟨files', console, file, out.length + data.length⟩, ?_, ⟨rfl, ?_, hpatches.trans hpatches', hheld'⟩, rfl⟩
  · show Desk.answer? _ (.write data) = _
    rw [Desk.answer?, hwrite]
  · exact List.length_append.symm

theorem openRead (h : Wrote fs k out d) (p : Path) : d.files.openRead p = fs.openRead p := h.patches.alike.openRead p

theorem data? (h : Wrote fs k out d) (hfile : (fs.data? k).isSome) : d.files.data? k = some out := by
  obtain ⟨old, hold⟩ := Option.isSome_iff_exists.1 hfile
  rw [h.held, hold]
  rfl

/-- **Another file is copied to its end.** -/
theorem comes_other (h : Wrote fs k out d) (hdata : fs.data? i = some data) (hne : i ≠ k) : ∃ n moved d',
    Comes Answers n (Action.copy (.file i 0) .output) d (.done (.ok (moved, .output))) d' ∧
      Wrote fs k (out ++ data) d' := by
  have hread : ∀ taken rest w, data = taken ++ rest → Wrote fs k (out ++ taken) w →
      Gives Answers w chunkSize (rest.take chunkSize) w (.file i taken.length) := by
    intro taken rest w hsplit hw
    have hheld := (hw.patches.data?_ne hne).trans hdata
    refine gives_readAt ((Files.readAt_of_data? hheld taken.length chunkSize).trans ?_)
    rw [hsplit, List.drop_left]
  obtain ⟨n, moved, d', hcomes, hwrote⟩ := comes_copy Answers (α := Except Failure (Nat × Sink)) Program.done
    (W := fun taken w => Wrote fs k (out ++ taken) w) data (.file i) (fun _ => .output) (fun _ _ => rfl)
    (fun _ _ => rfl) (fun taken rest w hsplit _ hw => by
      obtain ⟨w', htakes, hwrote, -⟩ := hw.takes (rest.take chunkSize)
      rw [List.append_assoc] at hwrote
      exact ⟨w, w', rfl, hread taken rest w hsplit hw, rfl, htakes, hwrote⟩)
    (fun w hw => ⟨w, rfl, hread data [] w (List.append_nil _).symm hw, hw⟩) [] data 0 d rfl
    (by rwa [List.append_nil])
  exact ⟨n, moved, d', hcomes, hwrote⟩

theorem comes_no_file (h : Wrote fs k out d) (hnone : fs.data? i = none) : ∃ n result,
    Comes Answers n (Action.copy (.file i 0) .output) d (.done result) d ∧ result ≠ .error .stopped := by
  have hnone : d.files.data? i = none := by
    by_cases hik : i = k
    · subst hik
      rw [h.held, hnone, Option.map_none]
    · rw [h.patches.data?_ne hik, hnone]
  rcases Files.readAt_none hnone chunkSize with hread | hread
  · exact ⟨4, _, comes_copy_end (α := Except Failure (Nat × Sink)) Program.done rfl (gives_readAt hread), nofun⟩
  · have hfault : Answers d (.files (.readAt i 0 chunkSize)) (Except.error (.system .isDirectory)) d := by
      show some (d.files.readAt i 0 chunkSize, d) = some (.error _, d)
      rw [hread]
    exact ⟨4, _, comes_copy_fault (α := Except Failure (Nat × Sink)) Program.done rfl hfault nofun, nofun⟩

theorem comes_own_empty (h : Wrote fs k [] d) (hfile : (fs.data? k).isSome) :
    Comes Answers 4 (Action.copy (.file k 0) .output) d (.done (.ok (0, .output))) d :=
  comes_copy_end (α := Except Failure (Nat × Sink)) Program.done rfl
    (gives_readAt (Files.readAt_of_data? (h.data? hfile) 0 chunkSize))

/-- **Whatever is open is copied to its end**, unless it is what has been written. -/
theorem comes_operand (h : Wrote fs k out d) (hempty : ∀ old, fs.data? k = some old → old = [])
    (hfree : ¬ (i = k ∧ (fs.data? k).isSome ∧ out ≠ [])) : ∃ n result d',
      Comes Answers n (Action.copy (.file i 0) .output) d (.done result) d' ∧ result ≠ .error .stopped ∧
        Wrote fs k (out ++ (fs.data? i).getD []) d' := by
  cases hdata : fs.data? i with
  | none =>
    obtain ⟨n, result, hcomes, hresult⟩ := h.comes_no_file hdata
    exact ⟨n, result, d, hcomes, hresult, by rwa [Option.getD_none, List.append_nil]⟩
  | some data =>
    by_cases hik : i = k
    · -- The file itself: nothing was written, so it is still as empty as it was when it was opened.
      subst hik
      have hfile : (fs.data? i).isSome := by rw [hdata]; rfl
      obtain rfl : out = [] := by
        by_contra hne
        exact hfree ⟨rfl, hfile, hne⟩
      obtain rfl := hempty data hdata
      exact ⟨4, _, d, h.comes_own_empty hfile, nofun, h⟩
    · obtain ⟨n, moved, d', hcomes, hwrote⟩ := h.comes_other hdata hik
      exact ⟨n, _, d', hcomes, nofun, hwrote⟩

/-- **The file itself, once anything was written, is never read to its end**: what is read is written behind it. -/
theorem lasts_own (h : Wrote fs k out d) (hfile : (fs.data? k).isSome) (hne : out ≠ []) :
    Lasts Answers (Action.copy (.file k 0) .output) d := by
  refine Program.lasts_of_round (I := fun p w => ∃ offset moved out, offset < out.length ∧ Wrote fs k out w ∧
    p = Program.loop .copy (.file k offset, .output, moved) Program.done) ?_
    ⟨0, 0, out, List.length_pos_iff.2 hne, h, rfl⟩
  -- The reading stays as far behind the end as it was: what it moves on by is put behind the end.
  rintro _ w ⟨offset, moved, out, hlt, hw, rfl⟩
  have hread := gives_readAt (Files.readAt_of_data? (hw.data? hfile) offset chunkSize)
  have hpiece : (out.drop offset).take chunkSize ≠ [] := by
    have hchunk : 0 < chunkSize := by decide
    rw [← List.length_pos_iff, List.length_take, List.length_drop]
    omega
  obtain ⟨w', htakes, hwrote, -⟩ := hw.takes ((out.drop offset).take chunkSize)
  refine ⟨8, _, w', by decide, comes_copy_piece _ Program.done rfl hread hpiece rfl htakes, _, _, _, ?_, hwrote, rfl⟩
  rw [List.length_append]
  omega

end Wrote
end Desk

namespace Cat

open Desk (Answers Wrote)

variable {fs : Files} {k : NodeId} {out : Bytes} {d : Desk} {path name : String} {names : List String} {call : Call}

def brought (fs : Files) (path name : String) : Bytes :=
  match fs.openRead (Action.resolve path name) with
  | .ok i => (fs.data? i).getD []
  | .error _ => []

def Meets (fs : Files) (k : NodeId) (path name : String) : Prop :=
  fs.openRead (Action.resolve path name) = .ok k ∧ (fs.data? k).isSome

/-- **The output overtakes the reading**: an operand leads to the file that is written to, behind one that brings data. -/
def Overtakes (fs : Files) (k : NodeId) (path : String) (names : List String) : Prop :=
  ∃ before name behind, names = before ++ name :: behind ∧ Meets fs k path name ∧ ∃ n ∈ before, brought fs path n ≠ []

theorem comes_openRead {reply : Except Fault NodeId} (h : Wrote fs k out d)
    (hopen : fs.openRead (Action.resolve path name) = reply) :
    Comes Answers 1 (Action.tryFiles (.openRead (Action.resolve path name))) d (.done (.ok reply)) d := by
  refine Program.comes_tryFiles ?_
  show some (d.files.openRead (Action.resolve path name), d) = some (reply, d)
  rw [h.openRead, hopen]

/-- **An operand is printed to its end**, unless it is what has been written. -/
theorem comes_printOne (h : Wrote fs k out d) (hempty : ∀ old, fs.data? k = some old → old = [])
    (hfree : ¬ (Meets fs k path name ∧ out ≠ [])) : ∃ n report d',
      Comes Answers n (printOne path name) d (.done (.ok report)) d' ∧ Wrote fs k (out ++ brought fs path name) d' := by
  cases hopen : fs.openRead (Action.resolve path name) with
  | error f =>
    have hnothing : brought fs path name = [] := by rw [brought, hopen]
    rw [hnothing, List.append_nil]
    obtain ⟨report, hreport⟩ : ∃ report, (if f.isNotFound = true then pure (some (name ++ " - file does not exist"))
        else pure (some (name ++ " - " ++ f.message)) : Action (Option String)) = Program.done (.ok report) := by
      split
      · exact ⟨_, rfl⟩
      · exact ⟨_, rfl⟩
    exact ⟨1, report, d, comes_andThen (m := 0) (comes_openRead h hopen) (hreport ▸ .refl _ _), h⟩
  | ok i =>
    obtain ⟨n, result, d', hcopy, hresult, hwrote⟩ := h.comes_operand hempty (i := i) (by
      rintro ⟨rfl, hfile, hne⟩
      exact hfree ⟨⟨hopen, hfile⟩, hne⟩)
    rw [show (fs.data? i).getD [] = brought fs path name by rw [brought, hopen]] at hwrote
    have hopened := comes_openRead h hopen
    cases result with
    | ok value =>
      exact ⟨1 + n, none, d', comes_andThen hopened (comes_andThen (m := 0) (comes_attempt hcopy) (.refl _ _)),
        hwrote⟩
    | error e =>
      cases e with
      | stopped => exact absurd rfl hresult
      | usage | fault | other =>
        exact ⟨1 + n, some _, d', comes_andThen hopened (comes_andThen (m := 0) (comes_attempt hcopy) (.refl _ _)),
          hwrote⟩

/-- **An operand that is what has been written is never printed to its end.** -/
theorem lasts_printOne (h : Wrote fs k out d) (hmeets : Meets fs k path name) (hne : out ≠ []) :
    Lasts Answers (printOne path name) d := by
  refine Lasts.of_comes ((comes_openRead h hmeets.1).bind _) ?_
  exact ((h.lasts_own hmeets.2 hne).bind _).bind _

/-! ## All operands -/

/-- **Operands are printed one after the other**, if none of them is what the ones before it brought. -/
theorem comes_eachOperand (path : String) (hempty : ∀ old, fs.data? k = some old → old = []) :
    ∀ (names : List String) {out : Bytes} {d : Desk}, Wrote fs k out d →
    (∀ before name behind, names = before ++ name :: behind → Meets fs k path name →
      out ++ before.flatMap (brought fs path) = []) →
    ∃ n reports d', Comes Answers n (Action.eachOperand (printOne path) names) d (.done (.ok reports)) d'
  | [], _, d, _, _ => ⟨0, [], d, .refl _ _⟩
  | name :: rest, out, d, h, hfree => by
    have hfirst : ¬ (Meets fs k path name ∧ out ≠ []) := by
      rintro ⟨hmeets, hne⟩
      have hnothing := hfree [] name rest rfl hmeets
      rw [List.flatMap_nil, List.append_nil] at hnothing
      exact hne hnothing
    obtain ⟨n, report, d₁, hcomes, hwrote⟩ := comes_printOne h hempty hfirst
    obtain ⟨m, reports, d₂, hrest⟩ := comes_eachOperand path hempty rest hwrote fun before name' behind hsplit hmeets => by
      have hnothing := hfree (name :: before) name' behind (by rw [hsplit, List.cons_append]) hmeets
      rwa [List.flatMap_cons, ← List.append_assoc] at hnothing
    exact ⟨n + m, _, d₂, comes_andThen hcomes (comes_andThen (m := 0) hrest (.refl _ _))⟩

/-- **The operands are never all printed**, if one of them is what the ones before it brought. -/
theorem lasts_eachOperand (path : String) (hempty : ∀ old, fs.data? k = some old → old = []) :
    ∀ (names : List String) {out : Bytes} {d : Desk}, Wrote fs k out d →
    (∃ before name behind, names = before ++ name :: behind ∧ Meets fs k path name ∧
      out ++ before.flatMap (brought fs path) ≠ []) →
    Lasts Answers (Action.eachOperand (printOne path) names) d
  | [], _, _, _, ⟨before, name, behind, hsplit, _⟩ => absurd hsplit (by simp)
  | name :: rest, out, d, h, ⟨before, name', behind, hsplit, hmeets, hne⟩ => by
    by_cases hfirst : Meets fs k path name ∧ out ≠ []
    · exact (lasts_printOne h hfirst.1 hfirst.2).bind _
    obtain ⟨n, report, d₁, hcomes, hwrote⟩ := comes_printOne h hempty hfirst
    refine Lasts.of_comes (hcomes.bind _) (Lasts.bind (lasts_eachOperand path hempty rest hwrote ?_) _)
    cases before with
    | nil =>
      rw [List.nil_append, List.cons.injEq] at hsplit
      rw [List.flatMap_nil, List.append_nil] at hne
      exact absurd ⟨hsplit.1 ▸ hmeets, hne⟩ hfirst
    | cons first before =>
      rw [List.cons_append, List.cons.injEq] at hsplit
      obtain ⟨rfl, hsplit⟩ := hsplit
      rw [List.flatMap_cons, ← List.append_assoc] at hne
      exact ⟨before, name', behind, hsplit, hmeets, hne⟩

structure HasRead (fs : Files) (k : NodeId) (input taken : Bytes) (d : Desk) : Prop where
  wrote : Wrote fs k taken d
  left : d.console.unread = input.drop taken.length

theorem comes_console (h : Wrote fs k [] d) : ∃ n moved d',
    Comes Answers n (Action.copy .input .output) d (.done (.ok (moved, .output))) d' := by
  have hread : ∀ taken rest w, d.console.unread = taken ++ rest → HasRead fs k d.console.unread taken w →
      ∃ w₁, Gives Answers w chunkSize (rest.take chunkSize) w₁ .input ∧ Wrote fs k taken w₁ ∧
        w₁.console.unread = rest.drop chunkSize := by
    intro taken rest w hsplit hw
    have hleft : w.console.unread = rest := by rw [hw.left, hsplit, List.drop_left]
    refine ⟨{ w with console := (w.console.read chunkSize).2 }, ?_,
      ⟨hw.wrote.file, hw.wrote.offset, hw.wrote.patches, hw.wrote.held⟩, congrArg (List.drop chunkSize) hleft⟩
    show some (Except.ok (w.console.unread.take chunkSize), _) = _
    rw [hleft]
    rfl
  obtain ⟨n, moved, d', hcomes, -⟩ := comes_copy Answers (α := Except Failure (Nat × Sink)) Program.done
    (W := HasRead fs k d.console.unread) d.console.unread (fun _ => .input) (fun _ => .output) (fun _ _ => rfl)
    (fun _ _ => rfl) (fun taken rest w hsplit _ hw => by
      obtain ⟨w₁, hgives, hwrote, hleft⟩ := hread taken rest w hsplit hw
      obtain ⟨w', htakes, hwrote', hconsole⟩ := hwrote.takes (rest.take chunkSize)
      refine ⟨w₁, w', rfl, hgives, rfl, htakes, hwrote', ?_⟩
      rw [hconsole, hleft, hsplit, List.length_append, ← List.drop_drop, List.drop_left, List.length_take,
        ← List.drop_eq_drop_min])
    (fun w hw => by
      obtain ⟨w₁, hgives, hwrote, hleft⟩ := hread _ [] w (List.append_nil _).symm hw
      refine ⟨w₁, rfl, hgives, hwrote, ?_⟩
      rw [hleft, List.drop_length, List.drop_nil])
    [] d.console.unread 0 d rfl ⟨h, rfl⟩
  exact ⟨n, moved, d', hcomes⟩

/-! ## The whole command -/

theorem comes_moveTo (d : Desk) (path : String) :
    Comes Answers 1 (Action.request (.moveTo path)) d (.done (.ok ())) d := .ask rfl (.refl _ _)

theorem comes_flush (d : Desk) : Comes Answers 1 Action.flush d (.done (.ok ())) d := .ask rfl (.refl _ _)

/-- **A call ends** unless the output overtakes the reading. -/
theorem comes_execute (hasked : Textual.cat.Asked call names) (h : Wrote fs k [] d)
    (hempty : ∀ old, fs.data? k = some old → old = []) (hfree : ¬ Overtakes fs k call.path names) :
    ∃ n outcome d', Comes Answers n (builtin.command.execute call) d (.done outcome) d' := by
  obtain ⟨n, result, d', hrun⟩ : ∃ n result d', Comes Answers n (run call.path names) d (.done result) d' := by
    cases names with
    | nil =>
      obtain ⟨n, moved, d', hcomes⟩ := comes_console h
      exact ⟨n + 0, _, d', comes_andThen hcomes (.refl _ _)⟩
    | cons name rest =>
      obtain ⟨n, reports, d', hcomes⟩ := comes_eachOperand call.path hempty (name :: rest) h (by
        intro before name' behind hsplit hmeets
        rw [List.nil_append, List.flatMap_eq_nil_iff]
        intro operand hmem
        by_contra hbrings
        exact hfree ⟨before, name', behind, hsplit, hmeets, operand, hmem, hbrings⟩)
      obtain ⟨result, hreport⟩ : ∃ result, Action.report reports = Program.done result := by
        cases reports with
        | nil => exact ⟨_, rfl⟩
        | cons => exact ⟨_, rfl⟩
      exact ⟨n + 0, result, d', comes_andThen hcomes (hreport ▸ .refl _ _)⟩
  have hwork : Comes Answers n (builtin.work call) d (.done result) d' := by
    rw [show builtin.work call = run call.path names from Textual.work_eq hasked]
    exact hrun
  obtain ⟨m, hrest⟩ : ∃ m, Comes Answers m (builtin.work call >>= fun _ => Action.flush : Action Unit) d
      (.done result) d' := by
    cases result with
    | error e => exact ⟨n, comes_andThen_error hwork⟩
    | ok u => exact ⟨n + 1, comes_andThen hwork (comes_flush d')⟩
  have haction : Comes Answers (1 + m) (builtin.action call) d (.done result) d' :=
    comes_andThen (comes_moveTo d call.path) hrest
  exact ⟨1 + m, Outcome.ofResult result, d', haction.bind _⟩

/-- **A call never ends** where the output overtakes the reading. -/
theorem lasts_execute (hasked : Textual.cat.Asked call names) (h : Wrote fs k [] d)
    (hempty : ∀ old, fs.data? k = some old → old = []) (hover : Overtakes fs k call.path names) :
    Lasts Answers (builtin.command.execute call) d := by
  obtain ⟨before, name, behind, hsplit, hmeets, operand, hmem, hbrings⟩ := hover
  have heach := lasts_eachOperand call.path hempty names h ⟨before, name, behind, hsplit, hmeets, by
    rw [List.nil_append, Ne, List.flatMap_eq_nil_iff]
    exact fun hnothing => hbrings (hnothing operand hmem)⟩
  have hrun : Lasts Answers (run call.path names) d := by
    cases names with
    | nil => simp at hsplit
    | cons name rest => exact heach.bind _
  have hwork : Lasts Answers (builtin.work call) d := by
    rw [show builtin.work call = run call.path names from Textual.work_eq hasked]
    exact hrun
  have haction : Lasts Answers (builtin.action call) d := by
    refine Lasts.of_comes ((comes_moveTo d call.path).bind _) ?_
    exact hwork.bind _
  exact haction.bind _

end Cat

namespace Session

open Desk (Answers Wrote)

variable {s t : Session} {c : Clause} {names : List String} {moves : List Move} {clauses : List Clause} {k : NodeId}
  {files : Files}

/-- **A clause in the foreground that prints operands to a file.** -/
structure Prints (s : Session) (c : Clause) (names : List String) : Prop where
  exit : s.registry.isExit c.name = false
  found : s.registry.lookup c.name = some Cat.builtin.command
  front : c.background = false
  input : c.input = ""
  output : c.output ≠ ""
  asked : Textual.cat.Asked (s.callOf c) names

/-- What a clause prints overtakes what it reads, the file that it prints to being open. -/
def Overtakes (s : Session) (c : Clause) (names : List String) : Prop :=
  ∃ k files, s.files.create (Action.resolve s.path c.output) = (.ok k, files) ∧ Cat.Overtakes files k s.path names

theorem wrote_of_create {p : Path} (h : s.files.create p = (.ok k, files)) :
    Wrote files k [] ⟨files, s.console, k, 0⟩ ∧ ∀ old, files.data? k = some old → old = [] := by
  have hempty : ∀ old, files.data? k = some old → old = [] := by
    intro old hold
    rcases Files.create_cases h with ⟨before, -, hbefore, rfl⟩ | ⟨-, hdevice, rfl⟩ | ⟨-, -, -, -, hnew, -⟩
    · rw [Files.data?_setContent hbefore, Option.some.injEq] at hold
      exact hold.symm
    · obtain ⟨n, hn, hcontent⟩ := Files.node?_of_data? hold
      rw [hn, Option.map_some, hcontent] at hdevice
      cases hdevice
    · rw [hnew, Option.some.injEq] at hold
      exact hold.symm
  refine ⟨⟨rfl, rfl, .refl _ _, ?_⟩, hempty⟩
  show files.data? k = (files.data? k).map fun _ => []
  cases hold : files.data? k with
  | none => rfl
  | some old => rw [hempty old hold, Option.map_some]

theorem settles_of_not_overtakes (hs : s.Lived) (hended : ∀ id, s.hasEnded id = true) (hprints : s.Prints c names)
    (hfree : ¬ s.Overtakes c names) :
    s.Settles [c] (fun t => (∀ id, t.hasEnded id = true) ∧ t.statuses.length = 1) := by
  obtain ⟨hexit, hfound, hfront, hin, hout, hasked⟩ := hprints
  rcases hcreate : s.files.create (Action.resolve s.path c.output) with ⟨f | k, files⟩
  · exact settles_of_not_create hs.dated hended hexit hfound hfront hin hout hcreate
  obtain ⟨hwrote, hempty⟩ := wrote_of_create hcreate
  obtain ⟨n, outcome, d, hcomes⟩ := Cat.comes_execute hasked hwrote hempty fun h => hfree ⟨k, files, hcreate, h⟩
  have hseats := seats_of_create hended hexit hfound hfront hin hout hcreate
  exact (settles_of_done hs.dated hseats hcomes).mono fun t hover => ⟨hover.1, congrArg List.length hover.2.1⟩

theorem goes_on_of_overtakes (hs : s.Lived) (hended : ∀ id, s.hasEnded id = true) (hprints : s.Prints c names)
    (hover : s.Overtakes c names) (hq : Quiet moves) (h : (s.start [c]).play moves = some t) :
    t.current ≠ none ∧ ∃ m v, Quiet [m] ∧ t.step? m = some v := by
  obtain ⟨hexit, hfound, hfront, hin, hout, hasked⟩ := hprints
  obtain ⟨k, files, hcreate, hover⟩ := hover
  obtain ⟨hwrote, hempty⟩ := wrote_of_create hcreate
  exact goes_on_of_lasts hs.dated (seats_of_create hended hexit hfound hfront hin hout hcreate)
    (Cat.lasts_execute hasked hwrote hempty hover) hq h

/-- **Printing files to a file ends, or never does.**  In the foreground, with nobody else at work and no interrupt, the
run comes to its end unless what it prints overtakes what it reads; and then it goes on for ever, however it is
scheduled. -/
theorem settles_or_goes_on (hs : s.Lived) (hended : ∀ id, s.hasEnded id = true) (hprints : s.Prints c names) :
    (¬ s.Overtakes c names →
      s.Settles [c] (fun t => (∀ id, t.hasEnded id = true) ∧ t.statuses.length = 1)) ∧
    (s.Overtakes c names → ∀ moves t, Quiet moves → (s.start [c]).play moves = some t →
      t.current ≠ none ∧ ∃ m v, Quiet [m] ∧ t.step? m = some v) :=
  ⟨settles_of_not_overtakes hs hended hprints, fun hover _ _ => goes_on_of_overtakes hs hended hprints hover⟩

/-- A session with `cat`, where a file `a` holds `x`. -/
def copier : Session where
  path := "/"
  registry := ⟨[], [Cat.builtin.command]⟩
  files := Files.blank.plant (Path.ofString "/a") (.file (Bytes.ofString "x"))

theorem lived_copier : copier.Lived := Opened.lived ⟨rfl, rfl, rfl, rfl⟩

theorem prints_copier (names : List String) (h : Textual.cat.Asked ⟨"/", names, []⟩ names) :
    copier.Prints { name := "cat", arguments := names, output := "g" } names :=
  ⟨rfl, rfl, rfl, rfl, show "g" ≠ "" by decide, h⟩

theorem overtakes_copier : copier.Overtakes { name := "cat", arguments := ["a", "g"], output := "g" } ["a", "g"] := by
  have hbrought : Cat.brought (copier.files.create (Action.resolve "/" "g")).2 "/" "a" = Bytes.ofString "x" := rfl
  refine ⟨2, (copier.files.create (Action.resolve "/" "g")).2, rfl, ["a"], "g", [], rfl, ⟨rfl, rfl⟩, "a",
    List.mem_singleton_self _, fun hnothing => ?_⟩
  rw [show copier.path = "/" from rfl, hbrought] at hnothing
  exact absurd hnothing (by decide)

/-- `cat a > g` ends, and `cat a g > g` does not. -/
theorem settles_or_goes_on_copier :
    copier.Settles [{ name := "cat", arguments := ["a"], output := "g" }]
      (fun t => (∀ id, t.hasEnded id = true) ∧ t.statuses.length = 1) ∧
    ∀ moves t, Quiet moves → (copier.start [{ name := "cat", arguments := ["a", "g"], output := "g" }]).play moves = some t →
      t.current ≠ none ∧ ∃ m v, Quiet [m] ∧ t.step? m = some v := by
  have hended : ∀ id, copier.hasEnded id = true := fun _ => rfl
  constructor
  · refine (settles_or_goes_on lived_copier hended (prints_copier ["a"] ⟨_, rfl, rfl⟩)).1 ?_
    rintro ⟨k, files, -, before, name, behind, hsplit, -, operand, hmem, -⟩
    have hlength := congrArg List.length hsplit
    simp only [List.length_append, List.length_cons, List.length_nil] at hlength
    have hpos := List.length_pos_of_mem hmem
    omega
  · exact (settles_or_goes_on lived_copier hended (prints_copier ["a", "g"] ⟨_, rfl, rfl⟩)).2 overtakes_copier

/-- **Printing files to a file need not end.** -/
theorem not_settles_print : ¬ ∀ (s : Session) (c : Clause) (names : List String), s.Lived → (∀ id, s.hasEnded id = true) →
    s.Prints c names → s.Settles [c] (fun t => ∀ id, t.hasEnded id = true) := by
  intro h
  have hprints := prints_copier ["a", "g"] ⟨_, rfl, rfl⟩
  obtain ⟨moves, t, hq, hplay, hover, -⟩ := (h copier _ _ lived_copier (fun _ => rfl) hprints).exists_over
  exact (goes_on_of_overtakes lived_copier (fun _ => rfl) hprints overtakes_copier hq hplay).1 hover

end Session
end LineShell
