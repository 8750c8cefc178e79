import LineShell.Proofs.Builtin.Halting
/-!
# Turns — operands one after the other

`mkdir`, `rm`, `cat`, `wc`, `grep` and `find` take their operands one after the other: each has its turn at the bench as
the one before it has left it, whatever that one had to report (`Turns`).  At a calm bench none of them can fail before
all operands had their turn (`Serial.calmly_each`), so a run with operands is over exactly when they have, and it results
in their reports, in their order (`Serial.leads_run_iff`).  It follows that a run on two rows of operands is a run on the
one and then a run on the other (`Serial.run_append`).
-/
namespace LineShell

/-- The builtins that take operands one after the other, with their options. -/
inductive Serial where
  | mkdir
  | rm (recursive : Bool)
  | cat
  | wc
  | grep (wholeWords ignoreCase : Bool) (pattern : String)
  | find
  deriving DecidableEq, Repr

namespace Serial

def run (path : String) : Serial → (operands : List String) → Action Unit
  | mkdir => Mkdir.run path
  | rm recursive => Rm.run path recursive
  | cat => Cat.run path
  | wc => Wc.run path
  | grep wholeWords ignoreCase pattern => Grep.run path wholeWords ignoreCase pattern
  | find => Find.run path

/-- What it does with one operand; a `grep` whose pattern is refused comes to none. -/
def each (path : String) : Serial → (operand : String) → Action (Option String)
  | mkdir => Mkdir.makeOne path
  | rm recursive => Rm.removeOne path recursive
  | cat => Cat.printOne path
  | wc => Wc.countOne path
  | grep wholeWords ignoreCase pattern => fun name =>
    match Grep.pattern? wholeWords ignoreCase pattern with
    | some p => Grep.searchOne p.matchesLine path name
    | none => pure none
  | find => Find.findOne path

def Accepts : Serial → Prop
  | grep wholeWords ignoreCase pattern => Grep.pattern? wholeWords ignoreCase pattern ≠ none
  | _ => True

theorem run_eq {c : Serial} (hc : c.Accepts) (path : String) {operands : List String} (hne : operands ≠ []) :
    c.run path operands = Action.forOperands operands (c.each path) := by
  obtain ⟨operand, rest, rfl⟩ := List.exists_cons_of_ne_nil hne
  cases c with
  | mkdir | rm | cat | wc | find => rfl
  | grep wholeWords ignoreCase pattern =>
    obtain ⟨p, hp⟩ := Option.ne_none_iff_exists'.1 hc
    simp only [run, each, Grep.run, hp]
    rfl

end Serial

/-! ## No operand fails -/

namespace Action

open Loop (calmly_loop)

variable {α β : Type}

theorem Calmly.then {x : Action α} {f : α → Action β} (hx : Calmly Succeeds x) (hf : ∀ a, Calmly Succeeds (f a)) :
    Calmly Succeeds (x >>= f) :=
  hx.bind (fun a _ => hf a) fun _ ⟨_, he⟩ => nomatch he

theorem calmly_pure (a : α) : Calmly Succeeds (pure a : Action α) := ⟨a, rfl⟩

theorem calmly_tryFiles (q : FileRequest) : Calmly Succeeds (tryFiles q) := fun reply _ => ⟨reply, rfl⟩

theorem calmly_print (text : String) : Calmly Succeeds (print text) := by
  refine calmly_check ?_
  rintro result ⟨sink, rfl⟩
  exact ⟨(), rfl⟩

theorem Calmly.attempt_bind {x : Action α} {f : Except Failure α → Action β} (hx : Calmly Unstopped x)
    (hf : ∀ result, Unstopped result → Calmly Succeeds (f result)) : Calmly Succeeds (attempt x >>= f) := by
  have heq : (attempt x >>= f : Action β) = Program.bind x f := Program.bind_assoc x _ _
  rw [heq]
  exact Program.Calmly.bind hx hf

theorem calmly_readFile (path name : String) : Calmly Unstopped (readFile path name) := by
  refine Calmly.bind (Q := Unstopped) ?_ (fun id _ => ?_) fun e => Unstopped.error
  · refine Calmly.bind (Q := Unstopped) (fun reply _ => nofun) (fun reply _ => ?_) fun e => Unstopped.error
    cases reply with
    | ok id => exact nofun
    | error f => exact nofun
  · refine (calmly_loop .copy _).bind ?_ fun e => Unstopped.error
    rintro ⟨moved, sink⟩ -
    cases sink with
    | memory held | output | file id offset => exact nofun

theorem calmly_withFile (path name label : String) {f : Bytes → Action Unit} (hf : ∀ data, Calmly Succeeds (f data)) :
    Calmly Succeeds (withFile path name label f) := by
  refine (calmly_readFile path name).attempt_bind fun result hresult => ?_
  match result with
  | .ok data => exact (hf data).then fun _ => calmly_pure none
  | .error .stopped => exact absurd rfl hresult
  | .error (.usage _) | .error (.fault _) | .error (.other _) => exact calmly_pure _

end Action

namespace Serial

open LineShell.Action

theorem calmly_makeOne (path name : String) : Calmly Succeeds (Mkdir.makeOne path name) := by
  refine calmly_check ((calmly_tryFiles _).then fun found => ?_)
  cases found with
  | ok found => exact calmly_pure _
  | error f =>
    refine calmly_ite _ ((calmly_tryFiles _).then fun made => ?_) (calmly_pure _)
    cases made with
    | ok => exact calmly_pure none
    | error f => exact calmly_pure _

theorem calmly_removeOne (path : String) (recursive : Bool) (name : String) :
    Calmly Succeeds (Rm.removeOne path recursive name) := by
  refine calmly_check ((calmly_tryFiles _).then fun found => ?_)
  cases found with
  | error f => exact calmly_ite _ (calmly_pure _) (calmly_pure _)
  | ok found =>
    dsimp only
    split
    · exact calmly_pure _
    · refine (calmly_tryFiles _).then fun removed => ?_
      cases removed with
      | ok => exact calmly_pure none
      | error f => exact calmly_pure _

theorem calmly_printOne (path name : String) : Calmly Succeeds (Cat.printOne path name) := by
  refine (calmly_tryFiles _).then fun opened => ?_
  cases opened with
  | error f => exact calmly_ite _ (calmly_pure _) (calmly_pure _)
  | ok id =>
    refine (Loop.calmly_loop .copy _).attempt_bind fun result hresult => ?_
    match result with
    | .ok _ => exact calmly_pure none
    | .error .stopped => exact absurd rfl hresult
    | .error (.usage _) | .error (.fault _) | .error (.other _) => exact calmly_pure _

theorem calmly_printLines (label : String) : ∀ lines, Calmly Succeeds (Grep.printLines label lines)
  | [] => calmly_pure ()
  | _ :: lines => (calmly_print _).then fun _ => calmly_printLines label lines

theorem calmly_firstVisit (root : Path) : Calmly Succeeds (Find.firstVisit root) := by
  refine (calmly_tryFiles _).then fun found => ?_
  cases found with
  | error f => exact calmly_pure _
  | ok found =>
    refine calmly_ite _ ((calmly_tryFiles _).then fun target => ?_) (calmly_pure _)
    cases target with
    | error f => exact calmly_pure _
    | ok target => exact calmly_pure _

theorem calmly_findOne (path name : String) : Calmly Succeeds (Find.findOne path name) := by
  refine calmly_check ((calmly_firstVisit _).then fun first => ?_)
  refine Calmly.then (fun result h => h) fun found => ?_
  cases found with
  | found | missing => exact (calmly_print _).then fun _ => calmly_pure none
  | failed => exact calmly_pure _

/-- **An operand that has something to report does not fail**, and so keeps no later one from its turn. -/
theorem calmly_each (c : Serial) (path operand : String) : Calmly Succeeds (c.each path operand) := by
  cases c with
  | mkdir => exact calmly_makeOne path operand
  | rm recursive => exact calmly_removeOne path recursive operand
  | cat => exact calmly_printOne path operand
  | wc => exact calmly_withFile path operand "wc" fun _ => calmly_print _
  | find => exact calmly_findOne path operand
  | grep wholeWords ignoreCase pattern =>
    dsimp only [each]
    split
    · exact calmly_withFile path operand "grep" fun _ => calmly_printLines _ _
    · exact calmly_pure none

end Serial
/-! ## Every operand comes to an end -/

namespace Serial

open LineShell.Action LineShell.Program

theorem halts_each (c : Serial) (path operand : String) :
    Halts (fun files => c = .find → files.Named) (c.each path operand) := by
  cases c with
  | mkdir => exact Mkdir.halts_makeOne (fun _ => nofun) path operand
  | rm recursive => exact Rm.halts_removeOne (fun _ => nofun) path recursive operand
  | cat => exact Cat.halts_printOne path operand
  | wc => exact Wc.halts_countOne path operand
  | find => exact Find.halts_findOne (fun _ hnamed => hnamed rfl) path operand
  | grep wholeWords ignoreCase pattern =>
    dsimp only [each]
    split
    · exact Grep.halts_searchOne _ path operand
    · exact halts_pure none

end Serial

/-! ## Turns -/

def reported : List String → Except Failure Unit
  | [] => .ok ()
  | reports => .error (.other (String.intercalate "\n" reports))

theorem Action.report_eq (reports : List String) : Action.report reports = Program.done (reported reports) := by
  cases reports <;> rfl

theorem reported_eq_ok_iff {reports : List String} : reported reports = .ok () ↔ reports = [] := by
  cases reports <;> simp [reported]

theorem reported_append_eq_ok_iff {reports₁ reports₂ : List String} :
    reported (reports₁ ++ reports₂) = .ok () ↔ reported reports₁ = .ok () ∧ reported reports₂ = .ok () := by
  simp only [reported_eq_ok_iff, List.append_eq_nil_iff]

/-- **Operands have their turns at a bench**, each where the one before has left it.  Their reports are kept in their
order; an operand has one at most. -/
inductive Turns (f : String → Action (Option String)) : List String → Bench → List String → Bench → Prop
  | nil (b : Bench) : Turns f [] b [] b
  | cons {operand : String} {rest : List String} {b b₁ b' : Bench} {report : Option String} {reports : List String} :
      Bench.Leads (f operand) b (.done (.ok report)) b₁ → Turns f rest b₁ reports b' →
      Turns f (operand :: rest) b (report.toList ++ reports) b'

namespace Turns

open LineShell.Action (Calmly Succeeds)

variable {f : String → Action (Option String)} {xs ys reports : List String} {b b' : Bench}

/-- **The turns of two rows of operands** are those of the one and then those of the other. -/
theorem append_iff : Turns f (xs ++ ys) b reports b' ↔
    ∃ reports₁ reports₂ b₁, Turns f xs b reports₁ b₁ ∧ Turns f ys b₁ reports₂ b' ∧ reports = reports₁ ++ reports₂ := by
  induction xs generalizing b reports with
  | nil =>
    constructor
    · exact fun h => ⟨[], reports, b, .nil b, h, rfl⟩
    · rintro ⟨_, reports₂, b₁, h, h', rfl⟩
      cases h
      exact h'
  | cons x xs ih =>
    constructor
    · intro h
      cases h with
      | cons hx hrest =>
        obtain ⟨reports₁, reports₂, b₁, h₁, h₂, rfl⟩ := ih.1 hrest
        exact ⟨_, reports₂, b₁, .cons hx h₁, h₂, (List.append_assoc _ _ _).symm⟩
    · rintro ⟨_, reports₂, b₁, h, h', rfl⟩
      cases h with
      | cons hx hrest =>
        rw [List.append_assoc]
        exact .cons hx (ih.2 ⟨_, reports₂, b₁, hrest, h', rfl⟩)

theorem calm (h : Turns f xs b reports b') (hf : ∀ operand, Calmly Succeeds (f operand)) (hb : b.Calm) : b'.Calm := by
  induction h with
  | nil => exact hb
  | cons hx _ ih => exact ih (hx.calm hb (hf _)).2

theorem rewrite (h : Turns f xs b reports b') (hb : b.writer.Open) {v : Writer} (hv : v.Open) :
    ∃ v', Turns f xs { b with writer := v } reports { b' with writer := v' } ∧
      Bench.SameTold b.writer v b'.writer v' := by
  induction h generalizing v with
  | nil b => exact ⟨v, .nil _, hb, hv, [], (List.append_nil _).symm, (List.append_nil _).symm⟩
  | cons hx _ ih =>
    obtain ⟨v₁, hx', htold⟩ := hx.rewrite hb hv
    obtain ⟨v', hrest, htold'⟩ := ih htold.1 htold.2.1
    exact ⟨v', .cons hx' hrest, htold.trans htold'⟩

/-- **Operands that cannot fail** are all taken, and their reports are gathered. -/
theorem leads_eachOperand_iff (hf : ∀ operand, Calmly Succeeds (f operand)) (hb : b.Calm)
    {result : Except Failure (List String)} :
    Bench.Leads (Action.eachOperand f xs) b (.done result) b' ↔ ∃ reports, Turns f xs b reports b' ∧ result = .ok reports := by
  induction xs generalizing b b' result with
  | nil =>
    constructor
    · intro h
      obtain ⟨hdone, rfl⟩ := h.of_done
      cases hdone
      exact ⟨[], .nil b', rfl⟩
    · rintro ⟨reports, h, rfl⟩
      cases h
      exact .refl _ _
  | cons x xs ih =>
    refine Bench.leads_bind_iff.trans ?_
    constructor
    · rintro ⟨first, b₁, hx, hrest⟩
      obtain ⟨⟨report, rfl⟩, hb₁⟩ := hx.calm hb (hf x)
      obtain ⟨second, b₂, hxs, hlast⟩ := Bench.leads_bind_iff.1 hrest
      obtain ⟨reports, hturns, rfl⟩ := (ih hb₁).1 hxs
      obtain ⟨hdone, rfl⟩ := hlast.of_done
      cases hdone
      exact ⟨_, .cons hx hturns, rfl⟩
    · rintro ⟨_, h, rfl⟩
      cases h with
      | @cons _ _ _ b₁ _ report reports hx hrest =>
        have hb₁ := (hx.calm hb (hf x)).2
        exact ⟨_, b₁, hx, Bench.leads_bind_iff.2 ⟨_, _, (ih hb₁).2 ⟨reports, hrest, rfl⟩, .refl _ _⟩⟩

end Turns

namespace Serial

variable {c : Serial} {path : String} {operands xs ys : List String} {b b' : Bench} {result : Except Failure Unit}

/-- **A run with operands** is over when all of them have had their turns, and then it results in their reports. -/
theorem leads_run_iff (hc : c.Accepts) (hne : operands ≠ []) (hb : b.Calm) :
    Bench.Leads (c.run path operands) b (.done result) b' ↔
      ∃ reports, Turns (c.each path) operands b reports b' ∧ result = reported reports := by
  rw [run_eq hc path hne]
  refine Bench.leads_bind_iff.trans ?_
  constructor
  · rintro ⟨gathered, b₁, heach, hreport⟩
    obtain ⟨reports, hturns, rfl⟩ := (Turns.leads_eachOperand_iff (calmly_each c path) hb).1 heach
    have hreport : Bench.Leads (Action.report reports) b₁ (.done result) b' := hreport
    rw [Action.report_eq] at hreport
    obtain ⟨hdone, rfl⟩ := hreport.of_done
    cases hdone
    exact ⟨reports, hturns, rfl⟩
  · rintro ⟨reports, hturns, rfl⟩
    refine ⟨.ok reports, b', (Turns.leads_eachOperand_iff (calmly_each c path) hb).2 ⟨reports, hturns, rfl⟩, ?_⟩
    show Bench.Leads (Action.report reports) b' _ b'
    rw [Action.report_eq]
    exact .refl _ _

end Serial

namespace Bench

def cleared (b : Bench) : Bench := { b with writer := {} }

theorem open_cleared (b : Bench) : b.cleared.writer.Open := ⟨rfl, rfl, rfl, rfl, rfl, rfl⟩

theorem Calm.cleared {b : Bench} (hb : b.Calm) : b.cleared.Calm := ⟨hb.slot, hb.reader, b.open_cleared⟩

end Bench

namespace Serial

open Bench (Does)

variable {c : Serial} {path : String} {xs ys operands : List String} {b b' : Bench} {result : Except Failure Unit}

theorem does_run_iff (hc : c.Accepts) (hne : operands ≠ []) (hb : b.Calm) {out : Bytes} :
    Does (c.run path operands) b result out b' ↔
      (∃ reports, Turns (c.each path) operands b reports b' ∧ result = reported reports) ∧
        b'.writer.accepted.bytes = b.writer.accepted.bytes ++ out :=
  and_congr (Bench.leads_done_iff.symm.trans (leads_run_iff hc hne hb)) Iff.rfl

theorem halts_run (hc : c.Accepts) (hne : operands ≠ []) :
    Program.Halts (fun files => c = .find → files.Named) (c.run path operands) := by
  rw [run_eq hc path hne]
  refine Action.halts_andThen (Action.halts_eachOperand (halts_each c path) operands) fun reports => ?_
  rw [Action.report_eq]
  exact Program.halts_done _

theorem exists_told (h : Turns (c.each path) xs b operands b') (hb : b.Calm) :
    ∃ out, b'.writer.accepted.bytes = b.writer.accepted.bytes ++ out := by
  obtain ⟨_, -, -, -, out, hout, -⟩ := h.rewrite hb.writer hb.writer
  exact ⟨out, hout⟩

/-- **A run with operands comes to its end.** -/
theorem exists_does_run (hc : c.Accepts) (hne : operands ≠ []) (hb : b.Calm) (hnamed : c = .find → b.files.Named) :
    ∃ result out b', Does (c.run path operands) b result out b' := by
  obtain ⟨result, b', hleads, -⟩ := halts_run hc hne b hb hnamed
  obtain ⟨reports, hturns, rfl⟩ := (leads_run_iff hc hne hb).1 hleads
  obtain ⟨out, hout⟩ := exists_told hturns hb
  exact ⟨_, out, b', (does_run_iff hc hne hb).2 ⟨⟨reports, hturns, rfl⟩, hout⟩⟩

def refusal (wholeWords : Bool) (pattern : String) : String :=
  "Invalid regex pattern: " ++ Grep.patternText wholeWords pattern

theorem does_run_of_refused {wholeWords ignoreCase : Bool} {pattern : String}
    (hrefused : Grep.pattern? wholeWords ignoreCase pattern = none) {out : Bytes} :
    Does ((grep wholeWords ignoreCase pattern).run path operands) b result out b' ↔
      result = .error (.other (refusal wholeWords pattern)) ∧ out = [] ∧ b' = b := by
  have hrun : (grep wholeWords ignoreCase pattern).run path operands =
      Program.done (.error (.other (refusal wholeWords pattern))) := by
    simp only [run, Grep.run, hrefused]
    rfl
  rw [hrun, Does, ← Bench.leads_done_iff]
  constructor
  · rintro ⟨h, hout⟩
    obtain ⟨hdone, rfl⟩ := h.of_done
    cases hdone
    exact ⟨rfl, List.self_eq_append_right.1 hout, rfl⟩
  · rintro ⟨rfl, rfl, rfl⟩
    exact ⟨.refl _ _, (List.append_nil _).symm⟩

/-- **Several operands act as a sequence of runs.**  A run on two rows of operands, neither of them empty, is a run on
the one, and then a run on the other with the files that it left: the reports of the one come before those of the other,
and so does what is written; it ends well exactly if both do.  Such a run does come to its end, a `find` where the names
in directories are proper names.  A `grep` whose pattern is refused takes no operand: it reports that once, and does
nothing else. -/
theorem run_append (c : Serial) (path : String) {xs ys : List String} (hxs : xs ≠ []) (hys : ys ≠ []) {b : Bench}
    (hb : b.Calm) :
    (c.Accepts → ∀ result out files,
      (∃ b', Does (c.run path (xs ++ ys)) b result out b' ∧ b'.files = files) ↔
        ∃ reports₁ reports₂ out₁ out₂ b₁ b₂,
          Turns (c.each path) xs b reports₁ b₁ ∧ Does (c.run path xs) b (reported reports₁) out₁ b₁ ∧
          Turns (c.each path) ys b₁.cleared reports₂ b₂ ∧
          Does (c.run path ys) b₁.cleared (reported reports₂) out₂ b₂ ∧
          result = reported (reports₁ ++ reports₂) ∧
          (result = .ok () ↔ reported reports₁ = .ok () ∧ reported reports₂ = .ok ()) ∧
          out = out₁ ++ out₂ ∧ files = b₂.files) ∧
    (c.Accepts → (c = .find → b.files.Named) → ∃ result out b', Does (c.run path (xs ++ ys)) b result out b') ∧
    (∀ wholeWords ignoreCase pattern, c = .grep wholeWords ignoreCase pattern →
      Grep.pattern? wholeWords ignoreCase pattern = none → ∀ operands result out b',
        Does (c.run path operands) b result out b' ↔
          result = .error (.other (refusal wholeWords pattern)) ∧ out = [] ∧ b' = b) := by
  have hne : xs ++ ys ≠ [] := by simp [hxs]
  refine ⟨?_, fun hc => exists_does_run hc hne hb, ?_⟩
  · intro hc result out files
    constructor
    · rintro ⟨b', hwhole, rfl⟩
      obtain ⟨⟨reports, hturns, rfl⟩, hout⟩ := (does_run_iff hc hne hb).1 hwhole
      obtain ⟨reports₁, reports₂, b₁, h₁, h₂, rfl⟩ := Turns.append_iff.1 hturns
      have hb₁ := h₁.calm (calmly_each c path) hb
      -- The second run has a writer of its own, where the whole run goes on with what the first has written.
      obtain ⟨v, h₂', -, -, out₂, htold, htold'⟩ := h₂.rewrite hb₁.writer b₁.open_cleared
      obtain ⟨out₁, hout₁⟩ := exists_told h₁ hb
      refine ⟨reports₁, reports₂, out₁, out₂, b₁, { b' with writer := v }, h₁, ?_, h₂', ?_, rfl,
        reported_append_eq_ok_iff, ?_, rfl⟩
      · exact (does_run_iff hc hxs hb).2 ⟨⟨reports₁, h₁, rfl⟩, hout₁⟩
      · exact (does_run_iff hc hys hb₁.cleared).2 ⟨⟨reports₂, h₂', rfl⟩, htold'⟩
      · rw [htold, hout₁, List.append_assoc] at hout
        exact (List.append_cancel_left hout).symm
    · rintro ⟨reports₁, reports₂, out₁, out₂, b₁, b₂, h₁, ⟨-, hout₁⟩, h₂, ⟨-, hout₂⟩, rfl, -, rfl, rfl⟩
      have hb₁ := h₁.calm (calmly_each c path) hb
      obtain ⟨v, h₂', -, -, out, htold, htold'⟩ := h₂.rewrite b₁.open_cleared hb₁.writer
      have hsame : out = out₂ := List.append_cancel_left (htold.symm.trans hout₂)
      refine ⟨{ b₂ with writer := v }, ?_, rfl⟩
      refine (does_run_iff hc hne hb).2 ⟨⟨_, Turns.append_iff.2 ⟨reports₁, reports₂, b₁, h₁, h₂', rfl⟩, rfl⟩, ?_⟩
      show v.accepted.bytes = _
      rw [htold', hout₁, hsame, List.append_assoc]
  · rintro wholeWords ignoreCase pattern rfl hrefused operands result out b'
    exact does_run_of_refused hrefused

/-- `mkdir` of a directory, of the same again and of one in it. -/
theorem run_append_mkdir : ∃ reports₁ reports₂ b₁ b₂,
    Turns (mkdir.each "/") ["a"] { files := .blank } reports₁ b₁ ∧
    Turns (mkdir.each "/") ["a", "a/b"] b₁.cleared reports₂ b₂ ∧
    reported (reports₁ ++ reports₂) = .error (.other "/a - exists") ∧ b₂.files.isDirectory 2 = true := by
  have hwhole : Does (mkdir.run "/" (["a"] ++ ["a", "a/b"])) { files := .blank } (.error (.other "/a - exists")) [] _ :=
    ⟨⟨30, rfl⟩, rfl⟩
  obtain ⟨reports₁, reports₂, out₁, out₂, b₁, b₂, h₁, -, h₂, -, hresult, -, -, hfiles⟩ :=
    ((run_append mkdir "/" (List.cons_ne_nil "a" []) (List.cons_ne_nil "a" ["a/b"])
      ⟨rfl, List.not_mem_nil, rfl, rfl, rfl, rfl, rfl, rfl⟩).1 trivial _ _ _).1 ⟨_, hwhole, rfl⟩
  exact ⟨reports₁, reports₂, b₁, b₂, h₁, h₂, hresult.symm, hfiles ▸ rfl⟩

/-- A pattern that is refused is reported once, however many operands follow it, so the reports of two runs of `grep` are
not those of one. -/
theorem refused_pattern_reported_once : ¬ ∃ reports₁ reports₂ out₁ out₂ b₁ b₂ b,
    Does ((grep false false "(").run "" ["a"]) { files := .blank } (reported reports₁) out₁ b₁ ∧
    Does ((grep false false "(").run "" ["b"]) b₁.cleared (reported reports₂) out₂ b₂ ∧
    Does ((grep false false "(").run "" ["a", "b"]) { files := .blank } (reported (reports₁ ++ reports₂)) (out₁ ++ out₂)
      b := by
  rintro ⟨reports₁, reports₂, out₁, out₂, b₁, b₂, b, h₁, h₂, h⟩
  have hrefused : Grep.pattern? false false "(" = none := rfl
  have fails : ∀ {reports : List String}, reported reports = .error (.other (refusal false "(")) →
      reports ≠ [] ∧ String.intercalate "\n" reports = refusal false "(" := by
    intro reports h
    cases reports with
    | nil => cases h
    | cons report reports => exact ⟨List.cons_ne_nil _ _, Failure.other.inj (Except.error.inj h)⟩
  obtain ⟨hne₁, hjoin₁⟩ := fails ((does_run_of_refused hrefused).1 h₁).1
  obtain ⟨hne₂, hjoin₂⟩ := fails ((does_run_of_refused hrefused).1 h₂).1
  obtain ⟨-, hjoin⟩ := fails ((does_run_of_refused hrefused).1 h).1
  rw [String.intercalate_append_of_ne_nil hne₁ hne₂, hjoin₁, hjoin₂] at hjoin
  exact absurd hjoin (by decide)

end Serial
end LineShell
