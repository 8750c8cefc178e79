import LineShell.Bench
import LineShell.Proofs.Flow.Ends
/-!
# Leading — how far a run at a bench comes

`Bench.Leads p b p' b'` says that a run of `p` at the bench `b` comes to `p'`, with the bench as it is by then.  A run is
over when it has come to a program that is done (`leads_done_iff`), and then it can have come to no other
(`Leads.unique`).  A program that goes on with the result of another is run in two parts (`Leads.bind_done`,
`leads_bind_iff`).
-/
namespace LineShell
namespace Bench

variable {α β : Type}

/-- **A run at a bench comes to a program.** -/
inductive Leads : Program α → Bench → Program α → Bench → Prop
  | refl (p : Program α) (b : Bench) : Leads p b p b
  | ask {q : Request} {next : q.Reply → Program α} {b b' : Bench} {p : Program α} :
      Leads (next (b.answer q).1) (b.answer q).2 p b' → Leads (.ask q next) b p b'
  | enter {l : Loop} {state : l.State} {next : Except Failure l.Value → Program α} {b b' : Bench} {p : Program α} :
      Leads (.enter l state next) b p b' → Leads (.loop l state next) b p b'

variable {p p' p'' : Program α} {b b' b'' : Bench} {a a' : α}

theorem Leads.trans (h : Leads p b p' b') (h' : Leads p' b' p'' b'') : Leads p b p'' b'' := by
  induction h with
  | refl => exact h'
  | ask _ ih => exact .ask (ih h')
  | enter _ ih => exact .enter (ih h')

theorem Leads.of_done {b' : Bench} (h : Leads (.done a) b p b') : p = .done a ∧ b' = b := by
  cases h
  exact ⟨rfl, rfl⟩

/-- **A run that is over** comes to a program that is done. -/
theorem leads_done_iff : Leads p b (.done a) b' ↔ ∃ fuel, run fuel p b = some (a, b') := by
  constructor
  · intro h
    generalize hd : Program.done a = d at h
    induction h with
    | refl => subst hd; exact ⟨1, rfl⟩
    | ask _ ih | enter _ ih =>
      obtain ⟨fuel, hrun⟩ := ih hd
      exact ⟨fuel + 1, hrun⟩
  · rintro ⟨fuel, hrun⟩
    induction fuel generalizing p b with
    | zero => cases hrun
    | succ fuel ih =>
      cases p with
      | done a' =>
        rw [run, Option.some.injEq, Prod.mk.injEq] at hrun
        obtain ⟨rfl, rfl⟩ := hrun
        exact .refl _ _
      | ask q next => exact .ask (ih hrun)
      | loop l state next => exact .enter (ih hrun)

/-- **A run at a bench is over**: it has its result and what it wrote, and leaves the bench as it is then. -/
def Does (p : Program α) (b : Bench) (a : α) (out : Bytes) (b' : Bench) : Prop :=
  (∃ fuel, run fuel p b = some (a, b')) ∧ b'.writer.accepted.bytes = b.writer.accepted.bytes ++ out

/-- **A run has one result.** -/
theorem Leads.unique (h : Leads p b (.done a) b') (h' : Leads p b (.done a') b'') : a = a' ∧ b' = b'' := by
  generalize hd : Program.done a = d at h
  induction h with
  | refl =>
    subst hd
    obtain ⟨hdone, rfl⟩ := h'.of_done
    cases hdone
    exact ⟨rfl, rfl⟩
  | ask _ ih => cases h' with | ask h' => exact ih h' hd
  | enter _ ih => cases h' with | enter h' => exact ih h' hd

theorem Leads.bind (h : Leads p b p' b') (f : α → Program β) : Leads (p.bind f) b (p'.bind f) b' := by
  induction h with
  | refl => exact .refl _ _
  | ask _ ih => exact .ask ih
  | enter _ ih =>
    rw [Program.enter_bind] at ih
    exact .enter ih

/-- **A run in two parts**: the second goes on with the result of the first, where that has left the bench. -/
theorem leads_bind_iff {f : α → Program β} {c : β} : Leads (p.bind f) b (.done c) b'' ↔
    ∃ a b', Leads p b (.done a) b' ∧ Leads (f a) b' (.done c) b'' := by
  constructor
  · intro h
    generalize hq : p.bind f = q at h
    generalize hd : Program.done c = d at h
    -- Where the first part is done, all the rest is the second.
    have second : ∀ {a : α} {q : Program β} {b b'' : Bench}, (Program.done a).bind f = q → Leads q b (.done c) b'' →
        ∃ a' b', Leads (.done a) b (.done a') b' ∧ Leads (f a') b' (.done c) b'' := by
      rintro a q b b'' rfl h
      exact ⟨a, b, .refl _ _, h⟩
    induction h generalizing p with
    | refl q b =>
      subst hd
      cases p with
      | done a => exact second hq (.refl _ _)
      | ask | loop => cases hq
    | ask h ih =>
      subst hd
      cases p with
      | done a => exact second hq (.ask h)
      | loop => cases hq
      | ask q next =>
        cases hq
        obtain ⟨a, b₁, h₁, h₂⟩ := ih rfl rfl
        exact ⟨a, b₁, .ask h₁, h₂⟩
    | enter h ih =>
      subst hd
      cases p with
      | done a => exact second hq (.enter h)
      | ask => cases hq
      | loop l state next =>
        cases hq
        obtain ⟨a, b₁, h₁, h₂⟩ := ih (Program.enter_bind _ _ _ _) rfl
        exact ⟨a, b₁, .enter h₁, h₂⟩
  · rintro ⟨a, b', h, h'⟩
    exact (h.bind f).trans h'

theorem leads_tryFiles {q : FileRequest} {f : Except Fault q.Answer → Action β} {p : Action β}
    (h : Leads (f (b.files.serve q).1) { b with files := (b.files.serve q).2 } p b') :
    Leads (Action.tryFiles q >>= f : Action β) b p b' :=
  .ask h

end Bench
end LineShell
