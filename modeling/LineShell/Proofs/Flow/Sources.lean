import LineShell.Files.Tree
import LineShell.Proofs.Command.Feeding
import LineShell.Proofs.Flow.Filters
/-!
# Sources — a text from wherever it comes

What `cat`, `wc` and `grep` show of some data does not depend on how the data get to them: in what pieces a reader
delivers them and how often its reads are cut short, from the console, from a file in the place of the console, through a
pipe from a stage that copies a file, or from a file that they are given as an operand.  Of the last their lines tell,
which then show the name of the file; all else is the same (`Textual.same_from_every_source`).
-/
namespace LineShell
namespace Session

variable {s : Session} {c c₀ : Clause} {left data mid out : Bytes}

/-- **A run whose stages all do well** and show something on the console, however they are scheduled. -/
def Shows (s : Session) (clauses : List Clause) (out : Bytes) : Prop :=
  s.Settles clauses (fun u => (∀ id, u.hasEnded id = true) ∧ u.statuses = clauses.map (fun c => ⟨.ok, c.name, none⟩) ∧
    u.console.output.bytes = s.console.output.bytes ++ out)

/-- **A session at rest**: what its earlier runs started has ended, and there is room in its pipes. -/
structure Rests (s : Session) : Prop where
  lived : s.Lived
  ended : ∀ id, s.hasEnded id = true
  room : 1 ≤ s.pipeCapacity

theorem shows_of_lays {clauses : List Clause} {r : Chain} (brought : Nat → Bytes) (hs : s.Rests)
    (h : s.Lays clauses r brought) (hfinal : r.final = s.console.output.bytes ++ out) : s.Shows clauses out := by
  refine (settles_of_lays hs.lived hs.ended hs.room h).mono fun t hover => ?_
  obtain ⟨hall, hstatuses, -, hwritten⟩ := hover
  exact ⟨hall, hstatuses, hwritten.trans hfinal⟩

theorem shows_of_stands (supply : Supply) (hs : s.Rests) (h : s.Stands c left data out) (hoffers : s.Offers c data supply) :
    s.Shows [c] out := shows_of_lays _ hs (lays_of_stands h hoffers) rfl

theorem shows_of_stands_behind (supply : Supply) (hs : s.Rests) (h₀ : s.Stands c₀ left data mid) (hoffers : s.Offers c₀ data supply)
    (h : s.Stands c [] mid out) (hinput : c.input = "") : s.Shows [c₀, c] out := by
  refine shows_of_lays (r := ⟨2, supply, left, s.console.output.bytes ++ out⟩)
    (fun j => [data, mid, out].getD j []) hs
    { nonempty := List.cons_ne_nil _ _, count := rfl, final := rfl, offers := ?_, piped := ?_, stands := ?_ } rfl
  · rintro _ ⟨⟩
    exact hoffers
  · intro j c hc
    cases j with
    | zero =>
      cases hc
      exact hinput
    | succ j => cases hc
  · intro j c hc
    match j, hc with
    | 0, rfl => exact h₀
    | 1, rfl => exact h

end Session

namespace Textual

open Bench (Does)

variable {s : Session} {t : Textual} {c : Clause} {name : String} {left data : Bytes}

theorem Called.stands_file (h : t.Called s c [name]) (hfile : s.files.Holds (Action.resolve s.path name) data)
    (left : Bytes) : s.Stands c left left (t.shown (some name) data) where
  exit := h.name ▸ h.exit
  found := by rw [h.commandOf_eq, h.name, h.found]
  background := h.background
  output := h.output
  ends := h.commandOf_eq ▸ ends_of_file h.asked hfile (some left)

/-- **A run alone comes to its end** at a bench that delivers its data. -/
theorem does_of_ends {p : Program Outcome} {b : Bench} {n : Nat} {rest : Option Bytes} {out : Bytes}
    (h : p.Ends b.files n rest out (Program.Finished left)) (hb : b.Gives b.files rest) :
    ∃ b', Does p b .done out b' ∧ b'.files = b.files := by
  obtain ⟨_, _, _, b', told, hleads, ⟨rfl, -, rfl⟩, hfiles, hout, htold⟩ := h.brings hb
  rw [List.append_nil] at hout
  exact ⟨b', ⟨Bench.leads_done_iff.1 hleads, hout ▸ htold⟩, hfiles⟩

/-- **What is shown of some data does not depend on where they come from.**  At a bench where nobody asks for a stop and
everything is accepted, it is the same for all readers that deliver the data, in whatever pieces and however often reads
are cut short; and it is what the same stage shows in a session at rest that has the data on its console, in a file in
the place of the console, or in a file that a `cat` before it copies, whatever the schedule.  With that file as its
operand it shows the same but for the name in each line. -/
theorem same_from_every_source (t : Textual) (d : Bytes) :
    (∀ call b, t.Asked call [] → b.slot = .empty → b.writer.Open → Delivers b.reader.events d →
      ∃ b', Does (t.builtin.command.execute call) b .done (t.shown none d) b' ∧ b'.files = b.files) ∧
    (∀ call b f, t.Asked call [f] → b.slot = .empty → b.writer.Open → b.files.Holds (Action.resolve call.path f) d →
      ∃ b', Does (t.builtin.command.execute call) b .done (t.shown (some f) d) b' ∧ b'.files = b.files) ∧
    ∀ s : Session, s.Rests →
      (∀ c, t.Called s c [] → c.input = "" → s.console.unread = d → s.Shows [c] (t.shown none d)) ∧
      ∀ f, s.files.Holds (Action.resolve s.path f) d →
        (∀ c, t.Called s c [] → c.input = f → f ≠ "" → s.Shows [c] (t.shown none d)) ∧
        (∀ c₀ c, cat.Called s c₀ [f] → c₀.input = "" → t.Called s c [] → c.input = "" →
          s.Shows [c₀, c] (t.shown none d)) ∧
        ∀ c, t.Called s c [f] → c.input = "" → s.Shows [c] (t.shown (some f) d) := by
  refine ⟨fun call b hasked hslot hopen hdelivers => ?_, fun call b f hasked hslot hopen hfile => ?_, fun s hs =>
    ⟨fun c hc hinput hunread => ?_, fun f hfile => ⟨fun c hc hinput hne => ?_, fun c₀ c hcat hinput₀ hc hinput => ?_,
      fun c hc hinput => ?_⟩⟩⟩
  · obtain ⟨n, hn⟩ := ends_of_input b.files hasked d
    exact does_of_ends hn ⟨hslot, hopen, rfl, fun _ hsome => Option.some.inj hsome ▸ hdelivers⟩
  · obtain ⟨n, hn⟩ := ends_of_file hasked hfile none
    exact does_of_ends hn ⟨hslot, hopen, rfl, nofun⟩
  · exact Session.shows_of_stands .console hs (hc.stands d) ⟨hinput, hunread⟩
  · obtain ⟨id, hid, hdata⟩ := hfile
    subst hinput
    exact Session.shows_of_stands (.file id d) hs (hc.stands d) ⟨hne, hid, hdata, rfl⟩
  · exact Session.shows_of_stands_behind .console hs (hcat.stands_file hfile s.console.unread) ⟨hinput₀, rfl⟩
      (hc.stands d) hinput
  · exact Session.shows_of_stands .console hs (hc.stands_file hfile s.console.unread) ⟨hinput, rfl⟩

/-- A session at its root with all builtins, which has some data on its console and in a file. -/
def stocked (data : Bytes) : Session where
  path := "/"
  registry := (Registry.install ⟨["exit"], []⟩).2
  console := { unread := data }
  files := Files.blank.plant (Path.ofString "/f") (.file data)

/-- Of two lines the one that matches, which was read in three pieces, with cuts in the middle of a character and of a
line end; and from elsewhere. -/
theorem same_from_every_source_grep : ∃ pattern, ∃ accepted : Grep.pattern? false false "b" = some pattern,
    let d := Bytes.ofString "a\nbé\r\n"
    let grep : Textual := .grep false false "b" pattern accepted
    (∃ b', Does (Grep.builtin.command.execute ⟨"/", ["b"], []⟩)
      { reader := ⟨[.data (d.take 4), .interrupted, .data ((d.drop 4).take 2), .data (d.drop 6), .eof,
          .data (Bytes.ofString "b\n")]⟩, files := .blank } .done (Bytes.ofString "bé\n") b') ∧
      (∃ b', Does (Grep.builtin.command.execute ⟨"/", ["b", "f"], []⟩) { files := (stocked d).files } .done
        (Bytes.ofString "f:bé\n") b') ∧
      (stocked d).Shows [{ name := "grep", arguments := ["b"] }] (grep.shown none d) ∧
      (stocked d).Shows [{ name := "grep", arguments := ["b"], input := "f" }] (grep.shown none d) ∧
      (stocked d).Shows [{ name := "cat", arguments := ["f"] }, { name := "grep", arguments := ["b"] }]
        (grep.shown none d) ∧
      (stocked d).Shows [{ name := "grep", arguments := ["b", "f"] }] (grep.shown (some "f") d) := by
  refine ⟨_, rfl, ?_⟩
  intro d grep
  have hrests : (stocked d).Rests := ⟨Session.Opened.lived ⟨rfl, rfl, rfl, rfl⟩, fun _ => rfl, by decide⟩
  have hfile : (stocked d).files.Holds (Action.resolve "/" "f") d := ⟨_, rfl, rfl⟩
  obtain ⟨hreader, hoperand, hsession⟩ := same_from_every_source grep d
  obtain ⟨hconsole, hfiles⟩ := hsession _ hrests
  obtain ⟨hinput, hpipe, hnamed⟩ := hfiles "f" hfile
  have hcalled : ∀ input, grep.Called (stocked d) { name := "grep", arguments := ["b"], input } [] :=
    fun input => ⟨rfl, rfl, rfl, rfl, rfl, _, rfl, rfl, rfl, rfl, rfl⟩
  have hcat : cat.Called (stocked d) { name := "cat", arguments := ["f"] } ["f"] := ⟨rfl, rfl, rfl, rfl, rfl, _, rfl, rfl⟩
  have hwith : grep.Called (stocked d) { name := "grep", arguments := ["b", "f"] } ["f"] :=
    ⟨rfl, rfl, rfl, rfl, rfl, _, rfl, rfl, rfl, rfl, rfl⟩
  have hopen : ({} : Writer).Open := ⟨rfl, rfl, rfl, rfl, rfl, rfl⟩
  refine ⟨?_, ?_, hconsole _ (hcalled "") rfl rfl, hinput _ (hcalled "f") rfl (by decide),
    hpipe _ _ hcat rfl (hcalled "") rfl, hnamed _ hwith rfl⟩
  · have hdelivers : Delivers [.data (d.take 4), .interrupted, .data ((d.drop 4).take 2), .data (d.drop 6), .eof,
        .data (Bytes.ofString "b\n")] (d.take 4 ++ ((d.drop 4).take 2 ++ (d.drop 6 ++ []))) :=
      .data _ (.interrupted (.data _ (.data _ (.eof _))))
    obtain ⟨b', hdoes, -⟩ := hreader ⟨"/", ["b"], []⟩ { reader := ⟨_⟩, files := .blank } (hcalled "").asked rfl hopen
      hdelivers
    exact ⟨b', hdoes⟩
  · obtain ⟨b', hdoes, -⟩ := hoperand ⟨"/", ["b", "f"], []⟩ { files := (stocked d).files } "f" hwith.asked rfl hopen hfile
    exact ⟨b', hdoes⟩

end Textual
end LineShell
