import LineShell.Proofs.Builtin.Operands
import LineShell.Proofs.Flow.Closing
import LineShell.Proofs.Flow.Textual
/-!
# Filters — clauses that call for `cat`, `wc` or `grep`

A clause calls for one of these with its files as operands (`Textual.Called`); without files it turns the input of its
stage into its output (`Textual.Called.stands`).  A clause without arguments calls for `cat` or `wc`.  With a single
argument it calls for `grep` with that as its pattern if the argument is a plain word, and only then
(`Textual.called_grep_iff`); behind `--` it does so with any pattern.  The word `help` alone asks any builtin for help
(`Session.stands_of_help`).
-/
namespace LineShell

theorem Usage.read_help (u : Usage) : u.read ["help"] = .error (.help u.help) := by
  rw [Usage.read, Usage.scan, if_neg (by simp), if_pos (.inr rfl)]
  rfl

namespace Grep

theorem isPlain_of_read {word : String} {operands : Operands} (h : usage.read [word] = .ok operands) : IsPlain word := by
  by_contra hplain
  have hswitches : ∀ f ∈ usage.flags, f.2.2 = .switch := by decide
  have hnone : ∀ p, usage.scan { positionals := usage.positionals } [word] = .ok p → p.operands.words = [] := by
    intro p hp
    by_cases hends : word = "--"
    · subst hends
      obtain rfl := Except.ok.inj hp
      rfl
    · obtain ⟨q, hq, -, -, hwords⟩ := Usage.scan_other hswitches hplain hends rfl hp
      obtain rfl := Except.ok.inj hq
      exact hwords
  rw [Usage.read] at h
  split at h
  · cases h
  next p hp =>
    have hmissing : usage.missing p.operands = ["pattern"] := by
      simp [Usage.missing, Operands.wordsOf, hnone p hp, usage]
    rw [hmissing] at h
    split at h <;> cases h

theorem read_plain {word : String} (h : IsPlain word) :
    usage.read [word] = .ok { words := [("pattern", word)] } := by
  obtain ⟨hhelp, hdash⟩ := h
  have hlong : word ≠ "--help" := by rintro rfl; exact hdash rfl
  have hends : word ≠ "--" := by rintro rfl; exact hdash rfl
  have hscan : usage.scan { positionals := usage.positionals } [word] =
      .ok { positionals := [("files", .greedy)], operands := { words := [("pattern", word)] } } := by
    rw [Usage.scan, if_neg (by simp), if_neg (not_or.2 ⟨hlong, hhelp⟩), if_neg hends, if_neg hdash]
    rfl
  rw [Usage.read, hscan]
  rfl

theorem read_ended (word : String) : usage.read ["--", word] = .ok { words := [("pattern", word)] } := by
  have hscan : usage.scan { positionals := usage.positionals } ["--", word] = .ok
      { positionals := [("files", .greedy)], operands := { words := [("pattern", word)] }, optionsEnded := true } := by
    rw [Usage.scan, if_neg Bool.false_ne_true, if_neg (by decide), if_pos rfl, Usage.scan, if_pos rfl]
    rfl
  rw [Usage.read, hscan]
  rfl

end Grep

namespace Textual

variable {s : Session} {t : Textual} {c : Clause} {word : String} {pattern : Pattern}

/-- **A clause calls for it**, in front and without a redirect of its output, with some files as operands; the session
finds it under its name. -/
structure Called (t : Textual) (s : Session) (c : Clause) (files : List String) : Prop where
  exit : s.registry.isExit t.builtin.name = false
  found : s.registry.lookup t.builtin.name = some t.builtin.command
  name : c.name = t.builtin.name
  background : c.background = false
  output : c.output = ""
  asked : t.Asked (s.callOf c) files

theorem Called.commandOf_eq {files : List String} (h : t.Called s c files) : s.commandOf c = t.builtin.command :=
  Session.commandOf_eq (h.name ▸ h.found)

theorem Called.stands (h : t.Called s c []) (data : Bytes) : s.Stands c [] data (t.shown none data) where
  exit := h.name ▸ h.exit
  found := by rw [h.commandOf_eq, h.name, h.found]
  background := h.background
  output := h.output
  ends := h.commandOf_eq ▸ ends_of_input s.files h.asked data

theorem called_alone (h : t = .cat ∨ t = .wc) (hexit : s.registry.isExit t.builtin.name = false)
    (hfound : s.registry.lookup t.builtin.name = some t.builtin.command) : t.Called s { name := t.builtin.name } [] := by
  rcases h with rfl | rfl
  · exact ⟨hexit, hfound, rfl, rfl, rfl, _, rfl, rfl⟩
  · exact ⟨hexit, hfound, rfl, rfl, rfl, _, rfl, rfl⟩

/-- **A single argument is a pattern** exactly if it is a plain word. -/
theorem called_grep_iff (hexit : s.registry.isExit "grep" = false)
    (hfound : s.registry.lookup "grep" = some Grep.builtin.command)
    (accepted : Grep.pattern? false false word = some pattern) :
    (grep false false word pattern accepted).Called s { name := "grep", arguments := [word] } [] ↔ IsPlain word := by
  constructor
  · intro h
    obtain ⟨operands, hread, -⟩ := h.asked
    exact Grep.isPlain_of_read hread
  · intro h
    exact ⟨hexit, hfound, rfl, rfl, rfl, _, Grep.read_plain h, rfl, rfl, rfl, rfl⟩

/-- Behind `--` any argument is. -/
theorem called_grep_ended (hexit : s.registry.isExit "grep" = false)
    (hfound : s.registry.lookup "grep" = some Grep.builtin.command)
    (accepted : Grep.pattern? false false word = some pattern) :
    (grep false false word pattern accepted).Called s { name := "grep", options := ["-"], arguments := [word] } [] :=
  ⟨hexit, hfound, rfl, rfl, rfl, _, Grep.read_ended word, rfl, rfl, rfl, rfl⟩

end Textual

namespace Session

variable {s : Session} {b : Builtin}

/-- **A builtin that is asked for help** shows it and reads nothing. -/
theorem stands_of_help (hexit : s.registry.isExit b.name = false) (hfound : s.registry.lookup b.name = some b.command)
    (data : Bytes) : s.Stands { name := b.name, arguments := ["help"] } data data (Bytes.ofString b.usage.help) := by
  have hcommand : s.commandOf { name := b.name, arguments := ["help"] } = b.command := commandOf_eq hfound
  have hprint := Program.ends_write s.files (some data) [] (Bytes.ofString b.usage.help)
  rw [List.append_nil] at hprint
  have hwork : ∃ n, Program.Ends s.files n (b.work ⟨s.path, ["help"], []⟩) (some data) (Bytes.ofString b.usage.help)
      (Program.Leaves () (some data) []) := by
    rw [Builtin.work, show (Call.words ⟨s.path, ["help"], []⟩) = ["help"] from rfl, Usage.read_help]
    exact hprint
  refine ⟨hexit, hcommand ▸ hfound, rfl, rfl, ?_⟩
  rw [hcommand]
  exact Textual.ends_execute hwork

end Session
end LineShell
