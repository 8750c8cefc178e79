import LineShell.Builtin.Selecting
import LineShell.Proofs.Flow.Ends
import LineShell.Proofs.Text.Portions
/-!
# Textual — `cat`, `wc` and `grep`, however they come by their data

Without operands `cat`, `wc` and `grep` with a pattern it accepts read their input to its end, and with a file as their
operand they read that.  What they show of the data is the same either way, but for the name of the file in each line
that `wc` and `grep` show (`Textual.shown`); they write it and end well (`Textual.ends_of_input`,
`Textual.ends_of_file`).
-/
namespace LineShell

/-- **What is counted**: the lines and the words of the text that the data make up, and their bytes. -/
theorem Wc.counts_eq (data : Bytes) :
    counts data = ⟨(linesOf (Utf8.decode data)).length, (wordsIn (Utf8.decode data)).length, data.length⟩ := by
  rw [counts, textLines_eq, wordCount_eq]

/-- **What is selected**: the lines of that text that match. -/
theorem Grep.selected_eq (passes : List Char → Bool) (data : Bytes) :
    selected passes data = (linesOf (Utf8.decode data)).filter passes := by
  rw [selected, textLines_eq]

/-- A builtin that shows something of a text, with its options.  The word of a `grep` is a pattern it accepts. -/
inductive Textual where
  | cat
  | wc
  | grep (wholeWords ignoreCase : Bool) (word : String) (pattern : Pattern)
      (accepted : Grep.pattern? wholeWords ignoreCase word = some pattern)

namespace Textual

def builtin : Textual → Builtin
  | cat => Cat.builtin
  | wc => Wc.builtin
  | grep .. => Grep.builtin

def run (path : String) : Textual → (files : List String) → Action Unit
  | cat => Cat.run path
  | wc => Wc.run path
  | grep _ _ _ pattern _ => Grep.runWith pattern.matchesLine path

def Meant (files : List String) (operands : Operands) : Textual → Prop
  | cat | wc => operands.wordsOf "files" = files
  | grep wholeWords ignoreCase word _ _ =>
    operands.hasSwitch "words" = wholeWords ∧ operands.hasSwitch "case" = ignoreCase ∧
      (operands.wordsOf "pattern").headD "" = word ∧ operands.wordsOf "files" = files

/-- **A call asks for it**, in whatever words, with some files. -/
def Asked (t : Textual) (call : Call) (files : List String) : Prop :=
  ∃ operands, t.builtin.usage.read call.words = .ok operands ∧ t.Meant files operands

/-- **What is shown of some data**: all of it, the line of its counts, which are the lines and the words of its text and
its bytes, or the lines that match; the name of a file stands behind the counts, and before each line that matches. -/
def shown (name : Option String) : Textual → Bytes → Bytes
  | cat, data => data
  | wc, data =>
    let text := Utf8.decode data
    Bytes.ofString (toString (linesOf text).length ++ " " ++ toString (wordsIn text).length ++ " " ++
      toString data.length ++ name.elim "" (" " ++ ·) ++ "\n")
  | grep _ _ _ pattern _, data => ((linesOf (Utf8.decode data)).filter pattern.matchesLine).flatMap (fun line =>
      Bytes.ofString (name.elim "" (· ++ ":") ++ String.ofList line ++ "\n"))

theorem shown_wc (name : Option String) (data : Bytes) : wc.shown name data =
    Bytes.ofString ((Wc.counts data).render ++ name.elim "" (" " ++ ·) ++ "\n") := by
  rw [Wc.counts_eq]
  rfl

theorem shown_grep {wholeWords ignoreCase : Bool} {word : String} {pattern : Pattern}
    (accepted : Grep.pattern? wholeWords ignoreCase word = some pattern) (name : Option String) (data : Bytes) :
    (grep wholeWords ignoreCase word pattern accepted).shown name data =
      (Grep.selected pattern.matchesLine data).flatMap (fun line =>
        Bytes.ofString (name.elim "" (· ++ ":") ++ String.ofList line ++ "\n")) := by
  rw [Grep.selected_eq]
  rfl

theorem work_eq {t : Textual} {call : Call} {files : List String} (h : t.Asked call files) :
    t.builtin.work call = t.run call.path files := by
  obtain ⟨operands, hread, hmeant⟩ := h
  rw [Builtin.work, hread]
  cases t with
  | cat | wc =>
    subst hmeant
    rfl
  | grep wholeWords ignoreCase word pattern accepted =>
    obtain ⟨rfl, rfl, rfl, rfl⟩ := hmeant
    show Grep.run _ _ _ _ _ = _
    rw [Grep.run, accepted]
    rfl

end Textual

/-- **A path leads to a file** that holds some data. -/
def Files.Holds (files : Files) (p : Path) (data : Bytes) : Prop :=
  ∃ id, files.openRead p = .ok id ∧ files.data? id = some data

/-! ## Actions -/

namespace Program

variable {α β : Type} {files : Files} {n m : Nat} {rest rest' : Option Bytes} {data out out' : Bytes}

def Leaves (a : α) (rest : Option Bytes) (out : Bytes) (result : Except Failure α) (rest' : Option Bytes) (out' : Bytes) :
    Prop := result = .ok a ∧ rest' = rest ∧ out' = out

/-- The end of a command that did well, with some input left unread and all its output written. -/
def Finished (left : Bytes) (outcome : Outcome) (rest : Option Bytes) (out : Bytes) : Prop :=
  outcome = .done ∧ rest.getD [] = left ∧ out = []

theorem Ends.andThen {Q : Except Failure β → Option Bytes → Bytes → Prop} {x : Action α} {f : α → Action β} {a : α}
    (hx : Ends files n x rest out (Leaves a rest' out')) (hf : Ends files m (f a) rest' out' Q) :
    Ends files (n + m) (Action.bind x f) rest out Q := by
  refine Ends.bind (hx.mono ?_ (Nat.le_refl n))
  rintro _ _ _ ⟨rfl, rfl, rfl⟩
  exact hf

theorem Ends.attempt {x : Action α} {a : α} (h : Ends files n x rest out (Leaves a rest' out')) :
    Ends files (n + 1) (Action.attempt x) rest out (Leaves (.ok a) rest' out') := by
  refine Ends.bind (h.mono ?_ (Nat.le_refl n))
  rintro _ _ _ ⟨rfl, rfl, rfl⟩
  exact ⟨rfl, rfl, rfl⟩

theorem write_eq (data : Bytes) :
    Action.write data = ask .poll (fun
      | true => done (.error .stopped)
      | false => loop .put (.output, data) (fun
        | .ok _ => done (.ok ())
        | .error e => done (.error e))) := by
  refine congrArg (ask .poll) (funext fun stop => ?_)
  cases stop with
  | true => rfl
  | false =>
    refine congrArg (loop .put (.output, data)) (funext fun result => ?_)
    cases result <;> rfl

theorem ends_write (files : Files) (rest : Option Bytes) (out data : Bytes) :
    ∃ n, Ends files n (Action.write data) rest (data ++ out) (Leaves () rest out) := by
  rw [write_eq]
  refine ⟨1 + 2 * data.length + 1 + 1, ?_⟩
  show Ends files (1 + 2 * data.length + 1) (loop .put (.output, data) _) rest (data ++ out) _
  refine ends_put _ data.length data (Nat.le_refl _) ?_
  exact ⟨rfl, rfl, rfl⟩

theorem ends_printLines (files : Files) (label : String) (rest : Option Bytes) (out : Bytes) : ∀ lines : List (List Char), ∃ n,
    Ends files n (Grep.printLines label lines) rest
      (lines.flatMap (fun line => Bytes.ofString (label ++ String.ofList line ++ "\n")) ++ out) (Leaves () rest out)
  | [] => ⟨1, rfl, rfl, rfl⟩
  | line :: lines => by
    obtain ⟨n, hn⟩ := ends_printLines files label rest out lines
    obtain ⟨m, hm⟩ := ends_write files rest _ (Bytes.ofString (label ++ String.ofList line ++ "\n"))
    rw [List.flatMap_cons, List.append_assoc]
    exact ⟨m + n, Ends.andThen (a := ()) hm hn⟩

theorem ends_readAll (data : Bytes) :
    Ends files (1 + 4 * data.length + 4) Action.readAll (some data) out (Leaves data none out) :=
  ends_gather _ data.length {} data (Nat.le_refl _) ⟨rfl, rfl, rfl⟩

theorem ends_flush : Ends files 2 Action.flush rest out (Leaves () rest out) := ⟨rfl, rfl, rfl⟩

theorem ends_check : Ends files 2 Action.check rest out (Leaves () rest out) := ⟨rfl, rfl, rfl⟩

theorem ends_tryReading {q : FileRequest} (hq : q.isReading = true) :
    Ends files 2 (Action.tryFiles q) rest out (Leaves (files.serve q).1 rest out) := ⟨hq, rfl, rfl, rfl⟩

theorem ends_ask {q : FileRequest} {answer : q.Answer} (hq : q.isReading = true) (h : (files.serve q).1 = .ok answer) :
    Ends files 3 (Action.ask q) rest out (Leaves answer rest out) := by
  have htry : Ends files 2 (Action.tryFiles q) rest out (Leaves (.ok answer) rest out) := h ▸ ends_tryReading hq
  exact htry.andThen (m := 1) ⟨rfl, rfl, rfl⟩

theorem ends_askOr {q : FileRequest} {answer : q.Answer} (message : String) (hq : q.isReading = true)
    (h : (files.serve q).1 = .ok answer) : Ends files 3 (Action.askOr q message) rest out (Leaves answer rest out) := by
  have htry : Ends files 2 (Action.tryFiles q) rest out (Leaves (.ok answer) rest out) := h ▸ ends_tryReading hq
  exact htry.andThen (m := 1) ⟨rfl, rfl, rfl⟩

theorem ends_openRead {p : Path} {id : NodeId} (h : files.openRead p = .ok id) :
    Ends files 2 (Action.tryFiles (.openRead p)) rest out (Leaves (.ok id) rest out) :=
  ⟨rfl, congrArg Except.ok h, rfl, rfl⟩

theorem ends_copyFile {id : NodeId} (rest : Option Bytes) (out : Bytes) (hdata : files.data? id = some data) : ∃ n, Ends files n
    (Action.copy (.file id 0) .output) rest (data ++ out)
    (fun result rest' out' => ∃ value, Leaves value rest out result rest' out') := by
  refine ends_copy_file hdata (P := fun left sink owed => sink = .output ∧ owed = left ++ out) _ ?_ ?_ data.length 0 0
    (by simp) ⟨rfl, rfl⟩
  · rintro piece left _ _ - ⟨rfl, rfl⟩
    refine ⟨.output, left ++ out, ⟨rfl, rfl⟩, fun {n} next h => ⟨n + 2 * piece.length + 1, ?_⟩⟩
    rw [List.append_assoc]
    exact ends_put _ piece.length piece (Nat.le_refl _) h
  · rintro moved _ _ ⟨rfl, rfl⟩
    exact ⟨1, _, rfl, rfl, rfl⟩

theorem ends_holdFile {id : NodeId} (rest : Option Bytes) (out : Bytes) (hdata : files.data? id = some data) : ∃ n, Ends files n
    (Action.copy (.file id 0) (.memory {})) rest out (fun result rest' out' =>
      ∃ moved held, held.bytes = data ∧ Leaves (moved, .memory held) rest out result rest' out') := by
  refine ends_copy_file hdata
    (P := fun left sink owed => ∃ held, sink = .memory held ∧ held.bytes ++ left = data ∧ owed = out) _ ?_ ?_ data.length
    0 0 (by simp) ⟨{}, rfl, rfl, rfl⟩
  · rintro piece left _ owed hne ⟨held, rfl, hbytes, rfl⟩
    obtain ⟨b, piece, rfl⟩ := List.exists_cons_of_ne_nil hne
    refine ⟨.memory (held.write (b :: piece)), owed, ⟨_, rfl, ?_, rfl⟩, fun {n} next h => ⟨n + 1, h⟩⟩
    rw [Transcript.bytes_write, List.append_assoc]
    exact hbytes
  · rintro moved _ _ ⟨held, rfl, hbytes, rfl⟩
    exact ⟨1, moved, held, (List.append_nil _).symm.trans hbytes, rfl, rfl, rfl⟩

theorem ends_readFile {path name : String} (h : files.Holds (Action.resolve path name) data) : ∃ n, Ends files n
    (Action.readFile path name) rest out (Leaves data rest out) := by
  obtain ⟨id, hopen, hdata⟩ := h
  obtain ⟨n, hn⟩ := ends_holdFile rest out hdata
  have hask : Ends files (2 + 1) (Action.ask (.openRead (Action.resolve path name))) rest out (Leaves id rest out) :=
    Ends.andThen (ends_openRead hopen) ⟨rfl, rfl, rfl⟩
  refine ⟨_, Ends.andThen hask (Ends.bind (m := 1) (hn.mono ?_ (Nat.le_refl n)))⟩
  rintro _ _ _ ⟨moved, held, rfl, rfl, rfl, rfl⟩
  exact ⟨rfl, rfl, rfl⟩

theorem ends_withFile {path name label : String} {f : Bytes → Action Unit}
    (h : files.Holds (Action.resolve path name) data) (hf : ∃ n, Ends files n (f data) rest out (Leaves () rest out')) :
    ∃ n, Ends files n (Action.withFile path name label f) rest out (Leaves none rest out') := by
  obtain ⟨n, hn⟩ : ∃ n, Ends files n (Action.readFile path name) rest out (Leaves data rest out) := ends_readFile h
  obtain ⟨m, hm⟩ := hf
  have hdone : Ends files 1 (pure none : Action (Option String)) rest out' (Leaves none rest out') := ⟨rfl, rfl, rfl⟩
  exact ⟨_, Ends.andThen hn.attempt (Ends.andThen hm hdone)⟩

theorem ends_forOperands {operand : String} {f : String → Action (Option String)}
    (h : ∃ n, Ends files n (f operand) rest out (Leaves none rest' out')) :
    ∃ n, Ends files n (Action.forOperands [operand] f) rest out (Leaves () rest' out') := by
  obtain ⟨n, hn⟩ := h
  have hdone : Ends files 1 (Action.report []) rest' out' (Leaves () rest' out') := ⟨rfl, rfl, rfl⟩
  have heach : Ends files (n + 1) (Action.eachOperand f [operand]) rest out (Leaves [] rest' out') :=
    Ends.andThen hn ⟨rfl, rfl, rfl⟩
  exact ⟨_, Ends.andThen heach hdone⟩

theorem ends_eachOperand {f : String → Action (Option String)} {shown : String → Bytes}
    (h : ∀ operand out, ∃ n, Ends files n (f operand) rest (shown operand ++ out) (Leaves none rest out)) (out : Bytes) :
    ∀ operands : List String, ∃ n,
      Ends files n (Action.eachOperand f operands) rest (operands.flatMap shown ++ out) (Leaves [] rest out)
  | [] => ⟨1, rfl, rfl, rfl⟩
  | operand :: operands => by
    obtain ⟨m, hm⟩ := ends_eachOperand h out operands
    obtain ⟨n, hn⟩ := h operand (operands.flatMap shown ++ out)
    rw [List.flatMap_cons, List.append_assoc]
    exact ⟨_, hn.andThen (hm.andThen (m := 1) ⟨rfl, rfl, rfl⟩)⟩

end Program

namespace Textual

open Program

variable {files : Files} {t : Textual} {call : Call} {name : String} {data : Bytes}

theorem ends_run_nil (t : Textual) (path : String) (data : Bytes) : ∃ n,
    Ends files n (t.run path []) (some data) (t.shown none data) (Leaves () none []) := by
  cases t with
  | cat =>
    show ∃ n, Ends files n (Action.bind (Action.copy .input .output) (fun _ => Action.pure ())) (some data) data _
    have hcopy : Ends files (1 + 8 * data.length + 4) (Action.copy .input .output) (some data) (data ++ [])
        (fun result rest out => ∃ moved, result = .ok (moved, .output) ∧ rest = none ∧ out = []) := by
      refine ends_copy (n := 1) done (fun moved => ?_) data.length 0 data (Nat.le_refl _)
      exact ⟨moved, rfl, rfl, rfl⟩
    rw [List.append_nil] at hcopy
    refine ⟨_, Ends.bind (m := 1) (hcopy.mono ?_ (Nat.le_refl _))⟩
    rintro _ _ _ ⟨moved, rfl, rfl, rfl⟩
    exact ⟨rfl, rfl, rfl⟩
  | wc =>
    obtain ⟨m, hm⟩ := ends_write files none [] (Bytes.ofString ((Wc.counts data).render ++ "\n"))
    rw [List.append_nil] at hm
    rw [shown_wc, Option.elim_none, String.append_empty]
    exact ⟨_, Ends.andThen (ends_readAll data) hm⟩
  | grep wholeWords ignoreCase word pattern accepted =>
    obtain ⟨m, hm⟩ := ends_printLines files "" none [] (Grep.selected pattern.matchesLine data)
    rw [List.append_nil] at hm
    rw [shown_grep accepted]
    exact ⟨_, Ends.andThen (ends_readAll data) hm⟩

theorem ends_run_file (t : Textual) {path : String} (h : files.Holds (Action.resolve path name) data)
    (rest : Option Bytes) : ∃ n,
      Ends files n (t.run path [name]) rest (t.shown (some name) data) (Leaves () rest []) := by
  cases t with
  | cat =>
    refine ends_forOperands ?_
    obtain ⟨id, hopen, hdata⟩ := h
    obtain ⟨n, hn⟩ := ends_copyFile rest [] hdata
    rw [List.append_nil] at hn
    refine ⟨_, Ends.andThen (ends_openRead hopen) (Ends.bind (m := 1) (Ends.bind (m := 1) (hn.mono ?_ (Nat.le_refl n))))⟩
    rintro _ _ _ ⟨value, rfl, rfl, rfl⟩
    exact ⟨rfl, rfl, rfl⟩
  | wc =>
    refine ends_forOperands (ends_withFile h ?_)
    obtain ⟨m, hm⟩ := ends_write files rest []
      (Bytes.ofString ((Wc.counts data).render ++ " " ++ name ++ "\n"))
    rw [List.append_nil] at hm
    rw [shown_wc, Option.elim_some, ← String.append_assoc]
    exact ⟨m, hm⟩
  | grep wholeWords ignoreCase word pattern accepted =>
    refine ends_forOperands (ends_withFile h ?_)
    obtain ⟨m, hm⟩ := ends_printLines files (name ++ ":") rest [] (Grep.selected pattern.matchesLine data)
    rw [List.append_nil] at hm
    rw [shown_grep accepted]
    exact ⟨m, hm⟩

theorem ends_execute {b : Builtin} {out : Bytes} {rest rest' : Option Bytes}
    (h : ∃ n, Ends files n (b.work call) rest out (Leaves () rest' [])) : ∃ n,
      Ends files n (b.command.execute call) rest out (Finished (rest'.getD [])) := by
  obtain ⟨n, hn⟩ := h
  have haction : Ends files (n + 2) (Action.bind (b.work call) (fun _ => Action.flush)) rest out (Leaves () rest' []) :=
    hn.andThen ends_flush
  refine ⟨n + 2 + 1 + 1, ?_⟩
  show Ends files (n + 2 + 1) (Program.bind (Action.bind (b.work call) (fun _ => Action.flush))
    (fun result => done (Outcome.ofResult result))) rest out _
  refine Ends.bind (haction.mono ?_ (Nat.le_refl _))
  rintro _ _ _ ⟨rfl, rfl, rfl⟩
  exact ⟨rfl, rfl, rfl⟩

/-- **A call without operands ends well** on any input: it reads all of it and shows what is to be shown. -/
theorem ends_of_input (files : Files) (h : t.Asked call []) (data : Bytes) : ∃ n,
    Ends files n (t.builtin.command.execute call) (some data) (t.shown none data) (Finished []) := by
  refine ends_execute (?_ : ∃ n, Ends files n _ _ _ (Leaves () none []))
  rw [work_eq h]
  exact ends_run_nil t call.path data

/-- **A call with a file ends well** whatever its input is: it reads nothing of that and shows what is to be shown of the
file. -/
theorem ends_of_file (h : t.Asked call [name]) (hfile : files.Holds (Action.resolve call.path name) data)
    (rest : Option Bytes) : ∃ n,
      Ends files n (t.builtin.command.execute call) rest (t.shown (some name) data) (Finished (rest.getD [])) := by
  refine ends_execute ?_
  rw [work_eq h]
  exact ends_run_file t hfile rest

end Textual
end LineShell
