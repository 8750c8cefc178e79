import LineShell.Proofs.Flow.Filters
/-!
# Compose — pipelines of filters

A run of `cat`, `wc` and `grep` that nobody interrupts comes to its end in every order of moves, and then it has turned
the whole console input into what its stages make of it, one after the other (`filters_compose`).  A `grep` without
options takes part in this with any plain word as its pattern.  With `help` it shows how it is called instead, and reads
nothing (`not_filters_compose`).
-/
namespace LineShell

namespace Textual

def brought (ts : List Textual) (data : Bytes) (j : Nat) : Bytes :=
  (ts.take j).foldl (fun data t => t.shown none data) data

theorem brought_succ {ts : List Textual} {data : Bytes} {j : Nat} {t : Textual} (ht : ts[j]? = some t) :
    brought ts data (j + 1) = t.shown none (brought ts data j) := by
  rw [brought, brought, List.take_add_one, ht, Option.toList_some, List.foldl_append, List.foldl_cons, List.foldl_nil]

theorem brought_length (ts : List Textual) (data : Bytes) :
    brought ts data ts.length = ts.foldl (fun data t => t.shown none data) data := by
  rw [brought, List.take_length]

/-- **Clauses in a row** that call for them, each without files and without redirects. -/
def Row (s : Session) (ts : List Textual) (clauses : List Clause) : Prop :=
  List.Forall₂ (fun t c => t.Called s c [] ∧ c.input = "") ts clauses

theorem Row.getElem? {s : Session} {ts : List Textual} {clauses : List Clause} (h : Row s ts clauses) {j : Nat}
    {c : Clause} (hc : clauses[j]? = some c) : ∃ t, ts[j]? = some t ∧ t.Called s c [] ∧ c.input = "" := by
  obtain ⟨hj, rfl⟩ := List.getElem?_eq_some_iff.1 hc
  have hlt : j < ts.length := h.length_eq ▸ hj
  exact ⟨ts[j], List.getElem?_eq_getElem hlt, h.get hlt hj⟩

end Textual

namespace Session

open Textual (brought Row)

variable {s : Session} {ts : List Textual} {clauses : List Clause} {word : String} {pattern : Pattern}

def chainOf (s : Session) (ts : List Textual) : Chain where
  count := ts.length
  supply := .console
  left := []
  final := s.console.output.bytes ++ brought ts s.console.unread ts.length

/-- **A row lays a chain** in which each is to read what those before it make of the console input. -/
theorem lays_row (hne : clauses ≠ []) (hrow : Row s ts clauses) :
    s.Lays clauses (s.chainOf ts) (brought ts s.console.unread) := by
  refine { nonempty := hne, count := hrow.length_eq, final := rfl, offers := ?_, piped := ?_, stands := ?_ }
  · intro c hc
    obtain ⟨-, -, -, hinput⟩ := hrow.getElem? hc
    exact ⟨hinput, rfl⟩
  · intro j c hc
    obtain ⟨-, -, -, hinput⟩ := hrow.getElem? hc
    exact hinput
  · intro j c hc
    obtain ⟨t, ht, hcalled, -⟩ := hrow.getElem? hc
    have hleaves : (s.chainOf ts).leaves j = [] := by cases j <;> rfl
    rw [hleaves, Textual.brought_succ ht]
    exact hcalled.stands _

theorem settles_help (hs : s.Lived) (hended : ∀ id, s.hasEnded id = true) (hcap : 1 ≤ s.pipeCapacity) {b : Builtin}
    (hexit : s.registry.isExit b.name = false) (hfound : s.registry.lookup b.name = some b.command) :
    s.Settles [{ name := b.name, arguments := ["help"] }] (fun t =>
      t.statuses = [⟨.ok, b.name, none⟩] ∧ t.console.unread = s.console.unread ∧
        t.console.output.bytes = s.console.output.bytes ++ Bytes.ofString b.usage.help) := by
  have hstands := stands_of_help hexit hfound s.console.unread
  have hlays : s.Lays _ ⟨1, .console, _, _⟩ _ := lays_of_stands hstands ⟨rfl, rfl⟩
  exact (settles_of_lays hs hended hcap hlays).mono fun t hover => hover.2

/-- **Pipelines compose.**  However the stages of a row are scheduled, and in whatever pieces their data travel, they
come to an end after a bounded number of moves and are never stuck before.  Then all have done well, all input has been
read, and the output is what the row makes of it, one after the other.  No stage of an earlier run is left that could
use the console.  `cat` and `wc` take part without a word.  A word alone has `grep` take part with any pattern if it is
plain, and only then; behind `--` any does.  With `help` alone it shows how it is called, and reads nothing. -/
theorem filters_compose (hs : s.Lived) (hended : ∀ id, s.hasEnded id = true) (hcap : 1 ≤ s.pipeCapacity) :
    (∀ ts clauses, clauses ≠ [] → Row s ts clauses → s.Settles clauses (fun t =>
      (∀ id, t.hasEnded id = true) ∧ t.statuses = clauses.map (fun c => ⟨.ok, c.name, none⟩) ∧ t.console.unread = [] ∧
        t.console.output.bytes = s.console.output.bytes ++ ts.foldl (fun data t => t.shown none data) s.console.unread)) ∧
    (∀ t : Textual, t = .cat ∨ t = .wc → s.registry.isExit t.builtin.name = false →
      s.registry.lookup t.builtin.name = some t.builtin.command → t.Called s { name := t.builtin.name } []) ∧
    (s.registry.isExit "grep" = false → s.registry.lookup "grep" = some Grep.builtin.command →
      (∀ word pattern, ∀ accepted : Grep.pattern? false false word = some pattern,
        let grep : Textual := .grep false false word pattern accepted
        (grep.Called s { name := "grep", arguments := [word] } [] ↔ IsPlain word) ∧
          grep.Called s { name := "grep", options := ["-"], arguments := [word] } []) ∧
      s.Settles [{ name := "grep", arguments := ["help"] }] (fun t =>
        t.statuses = [⟨.ok, "grep", none⟩] ∧ t.console.unread = s.console.unread ∧
          t.console.output.bytes = s.console.output.bytes ++ Bytes.ofString Grep.usage.help)) := by
  refine ⟨?_, fun t => Textual.called_alone, ?_⟩
  · intro ts clauses hne hrow
    refine (settles_of_lays hs hended hcap (lays_row hne hrow)).mono fun t hover => ?_
    obtain ⟨hall, hstatuses, hread, hwritten⟩ := hover
    refine ⟨hall, hstatuses, hread, hwritten.trans ?_⟩
    rw [chainOf, Textual.brought_length]
  · intro hexit hfound
    refine ⟨fun word pattern accepted => ⟨?_, ?_⟩, settles_help (b := Grep.builtin) hs hended hcap hexit hfound⟩
    · exact Textual.called_grep_iff hexit hfound accepted
    · exact Textual.called_grep_ended hexit hfound accepted

/-- A session with all builtins, in which something has been typed. -/
def typed (data : Bytes) : Session where
  path := "/"
  registry := (Registry.install ⟨["exit"], []⟩).2
  console := { unread := data }
  files := .blank

/-- Of three lines, copied by the first, the next shows the two that hold `help`, and the last counts those. -/
theorem filters_compose_grep :
    let s := typed (Bytes.ofString "help\nx y\nme help\n")
    ∃ bound, ∀ moves t, Quiet moves →
      (s.start [{ name := "cat" }, { name := "grep", options := ["-"], arguments := ["help"] }, { name := "wc" }]).play
        moves = some t →
      moves.length ≤ bound ∧
        (t.current = none → t.console.unread = [] ∧ t.console.output.bytes = Bytes.ofString "2 3 13\n") := by
  intro s
  obtain ⟨hcompose, halone, hcalls⟩ := filters_compose (Opened.lived (s := s) ⟨rfl, rfl, rfl, rfl⟩) (fun _ => rfl) (by decide)
  have hcat := halone .cat (.inl rfl) rfl rfl
  have hgrep := ((hcalls rfl rfl).1 "help" _ rfl).2
  have hwc := halone .wc (.inr rfl) rfl rfl
  obtain ⟨bound, h⟩ := hcompose [.cat, .grep false false "help" _ rfl, .wc] _ (List.cons_ne_nil _ _)
    (.cons ⟨hcat, rfl⟩ (.cons ⟨hgrep, rfl⟩ (.cons ⟨hwc, rfl⟩ .nil)))
  refine ⟨bound, fun moves t hq ht => ⟨(h moves t hq ht).1, fun hover => ?_⟩⟩
  obtain ⟨-, -, hread, hwritten⟩ := (h moves t hq ht).2.2 hover
  refine ⟨hread, hwritten.trans ?_⟩
  decide +kernel

/-- Alone, that word is no pattern: `grep` shows how it is called, and all input is left unread. -/
theorem not_filters_compose :
    let data := Bytes.ofString "help\nx\n"
    ∃ pattern, ∃ accepted : Grep.pattern? false false "help" = some pattern,
      let grep : Textual := .grep false false "help" pattern accepted
      grep.shown none data = Bytes.ofString "help\n" ∧
        ¬ (typed data).Settles [{ name := "grep", arguments := ["help"] }] (fun t =>
          t.console.unread = [] ∧ t.console.output.bytes = grep.shown none data) := by
  intro data
  refine ⟨_, rfl, by decide +kernel, ?_⟩
  intro h
  -- Both ends are reached by the same moves, and only at one of them all input has been read.
  obtain ⟨moves, t, hq, ht, hover, hread, -⟩ := h.exists_over
  obtain ⟨bound, hbound⟩ := settles_help (s := typed data) (b := Grep.builtin) (Opened.lived ⟨rfl, rfl, rfl, rfl⟩)
    (fun _ => rfl) (by decide) rfl rfl
  obtain ⟨-, hunread, -⟩ := (hbound moves t hq ht).2.2 hover
  rw [hread] at hunread
  exact absurd hunread (by decide)

end Session
end LineShell
