import LineShell.Proofs.Command.Moving
/-!
# Proceeding — courses of programs that go on with a result

A course of a program that goes on with the result of another runs through the other first: it is parted where the
other is done (`Proceeds.bind_cases`).  A failure ends an action, so the course of one action and then another is that
of the first if it fails, and goes on with its result if not (`Action.bind_cases`).
-/
namespace LineShell

variable {α β : Type} {es es' : List Exchange}

namespace Program

theorem Proceeds.trans {p q r : Program α} (h : p.Proceeds es q) (h' : q.Proceeds es' r) : p.Proceeds (es ++ es') r := by
  induction h with
  | refl _ => exact h'
  | ask reply _ ih => exact .ask reply (ih h')
  | enter _ ih => exact .enter (ih h')

/-- **The course of a program that goes on with a result** is parted where the result is there. -/
theorem Proceeds.bind_cases {p : Program α} {f : α → Program β} {c : β} (h : (p.bind f).Proceeds es (done c)) :
    ∃ front back a, es = front ++ back ∧ p.Proceeds front (done a) ∧ (f a).Proceeds back (done c) := by
  generalize hstart : p.bind f = start at h
  generalize hstop : done c = stop at h
  induction h generalizing p with
  | refl r =>
    subst hstop
    cases p with
    | done a => exact ⟨[], [], a, rfl, .refl _, by rw [show f a = done c from hstart]; exact .refl _⟩
    | ask q next => cases hstart
    | loop l state next => cases hstart
  | @ask q next es r reply h ih =>
    subst hstop
    cases p with
    | done a => exact ⟨[], _, a, rfl, .refl _, by rw [show f a = Program.ask q next from hstart]; exact .ask reply h⟩
    | ask _ _ =>
      cases hstart
      obtain ⟨front, back, a, rfl, hfront, hback⟩ := ih rfl rfl
      exact ⟨_, back, a, rfl, .ask reply hfront, hback⟩
    | loop l state next' => cases hstart
  | @enter l state next es r h ih =>
    subst hstop
    cases p with
    | done a => exact ⟨[], _, a, rfl, .refl _, by rw [show f a = loop l state next from hstart]; exact .enter h⟩
    | ask q next' => cases hstart
    | loop _ _ next' =>
      cases hstart
      obtain ⟨front, back, a, rfl, hfront, hback⟩ := ih (enter_bind l state next' f) rfl
      exact ⟨front, back, a, rfl, .enter hfront, hback⟩

theorem Proceeds.bind {p : Program α} {f : α → Program β} {a : α} {r : Program β} (h : p.Proceeds es (done a))
    (h' : (f a).Proceeds es' r) : (p.bind f).Proceeds (es ++ es') r := by
  generalize hstop : done a = stop at h
  induction h with
  | refl q =>
    subst hstop
    exact h'
  | ask reply _ ih => exact .ask reply (ih hstop)
  | @enter l state next es q _ ih =>
    refine .enter ?_
    rw [← enter_bind]
    exact ih hstop

end Program

namespace Action

open Program

/-- **The course of one action and then another** ends with the failure of the first, or goes on with its result. -/
theorem bind_cases {x : Action α} {f : α → Action β} {result : Except Failure β}
    (h : Proceeds (x >>= f : Action β) es (done result)) :
    (∃ e, Proceeds x es (done (.error e)) ∧ result = .error e) ∨
      ∃ front back a, es = front ++ back ∧ Proceeds x front (done (.ok a)) ∧ Proceeds (f a) back (done result) := by
  obtain ⟨front, back, first, rfl, hfront, hback⟩ := Proceeds.bind_cases (p := x) h
  cases first with
  | ok a => exact .inr ⟨front, back, a, rfl, hfront, hback⟩
  | error e =>
    obtain ⟨rfl, rfl⟩ := hback.eq_of_done
    exact .inl ⟨e, by rwa [List.append_nil], rfl⟩

theorem proceeds_bind {x : Action α} {f : α → Action β} {a : α} {r : Program (Except Failure β)}
    (h : Proceeds x es (done (.ok a))) (h' : Proceeds (f a) es' r) : Proceeds (x >>= f : Action β) (es ++ es') r :=
  Proceeds.bind (p := x) h h'

variable {f : Unit → Action β} {result : Except Failure β}

theorem check_cases (h : Proceeds (check >>= f : Action β) es (done result)) (hstop : ∀ e ∈ es, ¬ e.TakesStop) :
    ∃ rest, es = ⟨.poll, false⟩ :: rest ∧ Proceeds (f ()) rest (done result) := by
  obtain ⟨stop, rest, rfl, hrest⟩ := Proceeds.ask_cases (q := .poll) h
  cases stop with
  | true => exact absurd rfl (List.forall_mem_cons.1 hstop).1
  | false => exact ⟨rest, rfl, hrest⟩

theorem tryFiles_cases {q : FileRequest} {f : Except Fault q.Answer → Action β}
    (h : Proceeds (tryFiles q >>= f : Action β) es (done result)) :
    ∃ reply rest, es = ⟨.files q, reply⟩ :: rest ∧ Proceeds (f reply) rest (done result) :=
  Proceeds.ask_cases (q := .files q) h

theorem ask_cases {q : FileRequest} {f : q.Answer → Action β}
    (h : Proceeds (Action.ask q >>= f : Action β) es (done result)) :
    (∃ fault, es = [⟨.files q, .error fault⟩] ∧ result = .error (.fault fault)) ∨
      ∃ answer rest, es = ⟨.files q, .ok answer⟩ :: rest ∧ Proceeds (f answer) rest (done result) := by
  obtain ⟨reply, rest, rfl, hrest⟩ := Proceeds.ask_cases (q := .files q) h
  cases reply with
  | ok answer => exact .inr ⟨answer, rest, rfl, hrest⟩
  | error fault =>
    obtain ⟨rfl, rfl⟩ := hrest.eq_of_done
    exact .inl ⟨fault, rfl, rfl⟩

theorem askOr_cases {q : FileRequest} {message : String} {f : q.Answer → Action β}
    (h : Proceeds (askOr q message >>= f : Action β) es (done result)) :
    (∃ fault, es = [⟨.files q, .error fault⟩] ∧ result = .error (.other message)) ∨
      ∃ answer rest, es = ⟨.files q, .ok answer⟩ :: rest ∧ Proceeds (f answer) rest (done result) := by
  obtain ⟨reply, rest, rfl, hrest⟩ := Proceeds.ask_cases (q := .files q) h
  cases reply with
  | ok answer => exact .inr ⟨answer, rest, rfl, hrest⟩
  | error fault =>
    obtain ⟨rfl, rfl⟩ := hrest.eq_of_done
    exact .inl ⟨fault, rfl, rfl⟩

end Action
end LineShell
