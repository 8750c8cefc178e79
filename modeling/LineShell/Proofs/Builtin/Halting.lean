import LineShell.Builtin.Entries
import LineShell.Builtin.Search
import LineShell.Builtin.Selecting
import LineShell.Proofs.Command.Halting
import LineShell.Proofs.Flow.Textual
/-!
# Halting — what a builtin does with an operand comes to an end

`mkdir` and `rm` ask a few things of the files (`halts_makeOne`, `halts_removeOne`); `cat`, `wc` and `grep` read a file to
its end, or find that there is none (`halts_printOne`, `halts_withFile`); `find` walks for as long as its paths can be
looked up (`halts_findOne`).
-/
namespace LineShell
namespace Action

open LineShell.Program

variable {α β : Type} {I : Files → Prop}

theorem halts_pure (a : α) : Halts I (pure a : Action α) := halts_done _

theorem halts_fail (e : Failure) : Halts I (fail e : Action α) := halts_done _

theorem halts_andThen {x : Action α} {f : α → Action β} (hx : Halts I x) (hf : ∀ a, Halts I (f a)) :
    Halts I (x >>= f : Action β) := by
  refine Halts.bind hx fun result => ?_
  cases result with
  | ok a => exact hf a
  | error e => exact halts_done _

theorem halts_attempt {x : Action α} (hx : Halts I x) : Halts I (attempt x) := hx.bind fun _ => halts_done _

theorem halts_ite (c : Prop) [hc : Decidable c] {x y : Action α} (hx : Halts I x) (hy : Halts I y) :
    Halts I (if c then x else y) :=
  match hc with
  | .isTrue _ => hx
  | .isFalse _ => hy

theorem halts_check : Halts I check := halts_poll (halts_done _)

theorem halts_tryFiles {q : FileRequest} (hq : ∀ files, I files → I (files.serve q).2) : Halts I (tryFiles q) :=
  halts_files hq fun _ _ => halts_done _

theorem halts_tryReading {q : FileRequest} (hq : q.isReading = true) : Halts I (tryFiles q) := by
  refine halts_tryFiles fun files hI => ?_
  rwa [Files.serve_of_isReading files q hq]

theorem halts_print (text : String) : Halts I (print text) := by
  refine .of_fixed fun files _ => ?_
  obtain ⟨n, hn⟩ := ends_write files none [] (Bytes.ofString text)
  exact hn.halts

/-- **A file is copied to its end**, and what is no file is not copied at all. -/
theorem halts_copyFile (id : NodeId) {sink : Sink} (hsink : sink = .output ∨ sink = .memory {}) :
    Halts I (copy (.file id 0) sink) := by
  refine .of_fixed fun files _ => ?_
  cases hdata : files.data? id with
  | none => exact halts_copy_none hdata sink 0 fun result => halts_done result
  | some data =>
    rcases hsink with rfl | rfl
    · obtain ⟨n, hn⟩ := ends_copyFile none [] hdata
      exact hn.halts
    · obtain ⟨n, hn⟩ := ends_holdFile none [] hdata
      exact hn.halts

theorem halts_readFile (path name : String) : Halts I (readFile path name) := by
  refine halts_andThen (halts_andThen (halts_tryReading rfl) fun opened => ?_) fun id => ?_
  · cases opened with
    | ok id => exact halts_pure id
    | error f => exact halts_fail _
  · refine halts_andThen (halts_copyFile id (.inr rfl)) fun copied => ?_
    obtain ⟨moved, sink⟩ := copied
    cases sink with
    | memory held | output | file id offset => exact halts_pure _

theorem halts_withFile (path name label : String) {f : Bytes → Action Unit} (hf : ∀ data, Halts I (f data)) :
    Halts I (withFile path name label f) := by
  refine halts_andThen (halts_attempt (halts_readFile path name)) fun result => ?_
  match result with
  | .ok data => exact halts_andThen (hf data) fun _ => halts_pure none
  | .error .stopped => exact halts_fail _
  | .error (.usage _) | .error (.fault _) | .error (.other _) => exact halts_pure _

theorem halts_eachOperand {f : String → Action (Option String)} (hf : ∀ operand, Halts I (f operand)) :
    ∀ operands, Halts I (eachOperand f operands)
  | [] => halts_pure []
  | operand :: operands =>
    halts_andThen (hf operand) fun _ => halts_andThen (halts_eachOperand hf operands) fun _ => halts_pure _

end Action

open LineShell.Action LineShell.Program

variable {I : Files → Prop}

theorem Mkdir.halts_makeOne (hI : ∀ files, I files) (path name : String) : Halts I (makeOne path name) := by
  refine halts_andThen halts_check fun _ => halts_andThen (halts_tryReading rfl) fun found => ?_
  cases found with
  | ok found => exact halts_pure _
  | error f =>
    refine halts_ite _ (halts_andThen (halts_tryFiles fun files _ => hI _) fun made => ?_) (halts_pure _)
    cases made with
    | ok made => exact halts_pure none
    | error f => exact halts_pure _

theorem Rm.halts_removeOne (hI : ∀ files, I files) (path : String) (recursive : Bool) (name : String) :
    Halts I (removeOne path recursive name) := by
  refine halts_andThen halts_check fun _ => halts_andThen (halts_tryReading rfl) fun found => ?_
  cases found with
  | error f => exact halts_ite _ (halts_pure _) (halts_pure _)
  | ok found =>
    dsimp only
    split
    · exact halts_pure _
    · refine halts_andThen (halts_tryFiles fun files _ => hI _) fun removed => ?_
      cases removed with
      | ok removed => exact halts_pure none
      | error f => exact halts_pure _

theorem Cat.halts_printOne (path name : String) : Halts I (printOne path name) := by
  refine halts_andThen (halts_tryReading rfl) fun opened => ?_
  cases opened with
  | error f => exact halts_ite _ (halts_pure _) (halts_pure _)
  | ok id =>
    refine halts_andThen (halts_attempt (halts_copyFile id (.inl rfl))) fun result => ?_
    match result with
    | .ok _ => exact halts_pure none
    | .error .stopped => exact halts_fail _
    | .error (.usage _) | .error (.fault _) | .error (.other _) => exact halts_pure _

theorem Wc.halts_countOne (path name : String) : Halts I (countOne path name) :=
  halts_withFile path name "wc" fun _ => halts_print _

theorem Grep.halts_printLines (label : String) : ∀ lines, Halts I (printLines label lines)
  | [] => halts_pure ()
  | _ :: lines => halts_andThen (halts_print _) fun _ => halts_printLines label lines

theorem Grep.halts_searchOne (passes : List Char → Bool) (path name : String) : Halts I (searchOne passes path name) :=
  halts_withFile path name "grep" fun _ => halts_printLines _ _

theorem Find.halts_firstVisit (root : Path) : Halts I (firstVisit root) := by
  refine halts_andThen (halts_tryReading rfl) fun found => ?_
  cases found with
  | error f => exact halts_pure _
  | ok found =>
    refine halts_ite _ (halts_andThen (halts_tryReading rfl) fun target => ?_) (halts_pure _)
    cases target with
    | error f => exact halts_pure _
    | ok target => exact halts_pure _

/-- **A search comes to an end** among files whose names are proper. -/
theorem Find.halts_findOne (hI : ∀ files, I files → files.Named) (path name : String) : Halts I (findOne path name) := by
  refine halts_andThen halts_check fun _ => halts_andThen (halts_firstVisit _) fun first => ?_
  refine halts_andThen (.of_fixed fun files hfiles => ?_) fun found => ?_
  · refine halts_search (hI files hfiles) name halts_done (first.room + 1) [first] [] ?_ (halts_loop (halts_done _))
    rintro v hv
    rw [List.mem_singleton.1 hv]
    exact Nat.lt_succ_self _
  · cases found with
    | found | missing => exact halts_andThen (halts_print _) fun _ => halts_pure none
    | failed => exact halts_pure _

end LineShell
