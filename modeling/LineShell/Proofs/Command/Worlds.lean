import LineShell.Proofs.Flow.Ends
/-!
# Worlds — programs and those who answer them

Whoever runs a program answers its requests: a bench, or a session one of whose stages it is.  `Program.Comes` runs a
program in any such world, which is a relation between what is asked, the reply, and the world before and after; and it
counts the steps, so that it can also say of a program that it never ends (`Program.Lasts`).  What copying does is said
here once, for all worlds (`comes_copy`).
-/
namespace LineShell
namespace Program

variable {α β σ : Type} {ans : σ → (q : Request) → q.Reply → σ → Prop}

/-- **A program comes to another** in a number of steps: each answers a request as the world does, or enters a loop. -/
inductive Comes (ans : σ → (q : Request) → q.Reply → σ → Prop) : Nat → Program α → σ → Program α → σ → Prop
  | refl (p : Program α) (w : σ) : Comes ans 0 p w p w
  | ask {n : Nat} {q : Request} {next : q.Reply → Program α} {reply : q.Reply} {p : Program α} {w w' w'' : σ} :
      ans w q reply w' → Comes ans n (next reply) w' p w'' → Comes ans (n + 1) (.ask q next) w p w''
  | enter {n : Nat} {l : Loop} {state : l.State} {next : Except Failure l.Value → Program α} {p : Program α} {w w' : σ} :
      Comes ans n (.enter l state next) w p w' → Comes ans (n + 1) (.loop l state next) w p w'

variable {n m : Nat} {p p' p'' : Program α} {w w' w'' : σ}

theorem Comes.trans (h : Comes ans n p w p' w') (h' : Comes ans m p' w' p'' w'') : Comes ans (n + m) p w p'' w'' := by
  induction h with
  | refl => rwa [Nat.zero_add]
  | ask ha _ ih =>
    rw [Nat.add_right_comm]
    exact .ask ha (ih h')
  | enter _ ih =>
    rw [Nat.add_right_comm]
    exact .enter (ih h')

theorem Comes.bind (h : Comes ans n p w p' w') (f : α → Program β) : Comes ans n (p.bind f) w (p'.bind f) w' := by
  induction h with
  | refl => exact .refl _ _
  | ask ha _ ih => exact .ask ha ih
  | enter _ ih =>
    rw [enter_bind] at ih
    exact .enter ih

theorem Comes.of_done {a : α} (h : Comes ans n (.done a) w p w') : n = 0 ∧ p = .done a ∧ w' = w := by
  cases h
  exact ⟨rfl, rfl, rfl⟩

theorem Comes.split (h : Comes ans (n + m) p w p' w') : ∃ q v, Comes ans n p w q v ∧ Comes ans m q v p' w' := by
  induction n generalizing p w with
  | zero => exact ⟨p, w, .refl p w, by rwa [Nat.zero_add] at h⟩
  | succ n ih =>
    rw [Nat.add_right_comm] at h
    cases h with
    | ask ha h =>
      obtain ⟨q, v, h₁, h₂⟩ := ih h
      exact ⟨q, v, .ask ha h₁, h₂⟩
    | enter h =>
      obtain ⟨q, v, h₁, h₂⟩ := ih h
      exact ⟨q, v, .enter h₁, h₂⟩

def Definite (ans : σ → (q : Request) → q.Reply → σ → Prop) : Prop :=
  ∀ w q reply reply' w' w'', ans w q reply w' → ans w q reply' w'' → reply = reply' ∧ w' = w''

/-- **In a definite world a program comes to one program in each number of steps.** -/
theorem Comes.unique (hd : Definite ans) (h : Comes ans n p w p' w') (h' : Comes ans n p w p'' w'') :
    p' = p'' ∧ w' = w'' := by
  induction h with
  | refl =>
    cases h'
    exact ⟨rfl, rfl⟩
  | ask ha _ ih =>
    cases h' with
    | ask ha' h' =>
      obtain ⟨rfl, rfl⟩ := hd _ _ _ _ _ _ ha ha'
      exact ih h'
  | enter _ ih => cases h' with | enter h' => exact ih h'

theorem Comes.le_of_done (hd : Definite ans) {a : α} (h : Comes ans n p w (.done a) w') (h' : Comes ans m p w p' w'') :
    m ≤ n := by
  refine Nat.le_of_not_lt fun hlt => ?_
  obtain ⟨k, rfl⟩ : ∃ k, m = n + (k + 1) := ⟨m - n - 1, by omega⟩
  obtain ⟨q, v, h₁, h₂⟩ := h'.split
  obtain ⟨rfl, rfl⟩ := h.unique hd h₁
  cases h₂.of_done.1

/-- **A program ends once**, in one way. -/
theorem Comes.done_unique (hd : Definite ans) {a a' : α} (h : Comes ans n p w (.done a) w')
    (h' : Comes ans m p w (.done a') w'') : n = m ∧ a = a' ∧ w' = w'' := by
  obtain rfl : n = m := Nat.le_antisymm (h'.le_of_done hd h) (h.le_of_done hd h')
  obtain ⟨hdone, rfl⟩ := h.unique hd h'
  cases hdone
  exact ⟨rfl, rfl, rfl⟩

/-- A program is never stuck: wherever it comes to, it is done or goes on. -/
def GoesOn (ans : σ → (q : Request) → q.Reply → σ → Prop) (p : Program α) (w : σ) : Prop :=
  ∀ n p' w', Comes ans n p w p' w' → (∃ a, p' = .done a) ∨ ∃ p'' w'', Comes ans 1 p' w' p'' w''

theorem Comes.goesOn (hd : Definite ans) {a : α} (h : Comes ans n p w (.done a) w') : GoesOn ans p w := by
  intro m p' v h'
  obtain ⟨k, rfl⟩ := Nat.exists_eq_add_of_le (h.le_of_done hd h')
  obtain ⟨q, u, h₁, h₂⟩ := h.split
  obtain ⟨rfl, rfl⟩ := h₁.unique hd h'
  cases k with
  | zero =>
    cases h₂
    exact .inl ⟨a, rfl⟩
  | succ k =>
    rw [Nat.add_comm] at h₂
    obtain ⟨q', u', h₃, -⟩ := h₂.split
    exact .inr ⟨q', u', h₃⟩

/-! ## Programs that never end -/

/-- **A program never ends**: there is no number of steps that it does not make. -/
def Lasts (ans : σ → (q : Request) → q.Reply → σ → Prop) (p : Program α) (w : σ) : Prop :=
  ∀ n, ∃ p' w', Comes ans n p w p' w'

theorem Lasts.of_comes (h : Comes ans n p w p' w') (hl : Lasts ans p' w') : Lasts ans p w := by
  intro m
  obtain ⟨q, v, hq⟩ := hl m
  have hlong := h.trans hq
  rw [Nat.add_comm] at hlong
  obtain ⟨p₁, w₁, h₁, -⟩ := hlong.split
  exact ⟨p₁, w₁, h₁⟩

theorem Lasts.bind (h : Lasts ans p w) (f : α → Program β) : Lasts ans (p.bind f) w := by
  intro n
  obtain ⟨q, v, hq⟩ := h n
  exact ⟨q.bind f, v, hq.bind f⟩

theorem Lasts.not_done (hd : Definite ans) (h : Lasts ans p w) {a : α} : ¬ Comes ans n p w (.done a) w' := by
  intro hdone
  obtain ⟨q, v, hq⟩ := h (n + 1)
  have := hdone.le_of_done hd hq
  omega

theorem Lasts.goesOn (hd : Definite ans) (h : Lasts ans p w) : GoesOn ans p w := by
  intro m p' v h'
  obtain ⟨q, u, hlong⟩ := h (m + 1)
  obtain ⟨q', u', h₁, h₂⟩ := hlong.split
  obtain ⟨rfl, rfl⟩ := h₁.unique hd h'
  exact .inr ⟨q, u, h₂⟩

/-- **What always comes round again never ends.** -/
theorem lasts_of_round {I : Program α → σ → Prop}
    (hround : ∀ p w, I p w → ∃ n p' w', 0 < n ∧ Comes ans n p w p' w' ∧ I p' w') (h : I p w) : Lasts ans p w := by
  intro n
  induction n using Nat.strongRecOn generalizing p w with
  | ind n ih =>
    obtain ⟨k, p₁, w₁, hpos, h₁, hI⟩ := hround p w h
    -- The steps end within the first round, or after it.
    by_cases hle : n ≤ k
    · obtain ⟨j, rfl⟩ := Nat.exists_eq_add_of_le hle
      obtain ⟨q, v, hq, -⟩ := h₁.split
      exact ⟨q, v, hq⟩
    · obtain ⟨q, v, hq⟩ := ih (n - k) (by omega) hI
      have hlong := h₁.trans hq
      rw [show k + (n - k) = n by omega] at hlong
      exact ⟨q, v, hlong⟩

/-! ## Actions -/

theorem comes_andThen {x : Action α} {f : α → Action β} {a : α} {q : Program (Except Failure β)}
    (hx : Comes ans n x w (.done (.ok a)) w') (hf : Comes ans m (f a) w' q w'') :
    Comes ans (n + m) (x >>= f : Action β) w q w'' :=
  (hx.bind _).trans hf

theorem comes_andThen_error {x : Action α} {f : α → Action β} {e : Failure}
    (hx : Comes ans n x w (.done (.error e)) w') :
    Comes ans n (x >>= f : Action β) w (.done (.error e)) w' := hx.bind _

theorem comes_attempt {x : Action α} {result : Except Failure α} (hx : Comes ans n x w (.done result) w') :
    Comes ans n (Action.attempt x) w (.done (.ok result)) w' := hx.bind _

theorem comes_check (hw : ans w .poll false w) : Comes ans 1 Action.check w (.done (.ok ())) w :=
  .ask hw (.refl _ _)

theorem comes_tryFiles {q : FileRequest} {reply : Except Fault q.Answer} (hw : ans w (.files q) reply w') :
    Comes ans 1 (Action.tryFiles q) w (.done (.ok reply)) w' := .ask hw (.refl _ _)

/-! ## Moving data -/

def Gives (ans : σ → (q : Request) → q.Reply → σ → Prop) (w : σ) (limit : Nat) (data : Bytes) (w' : σ) :
    Source → Prop
  | .input => ans w (.read limit) (Except.ok data : Except Fault Bytes) w'
  | .file id offset => ans w (.files (.readAt id offset limit)) (Except.ok data : Except Fault Bytes) w'

def Takes (ans : σ → (q : Request) → q.Reply → σ → Prop) (w : σ) (data : Bytes) (w' : σ) : Sink → Prop
  | .output => ans w (.write data) (Except.ok data.length : Except Fault Nat) w'
  | .file id offset => ans w (.files (.writeAt id offset data)) (Except.ok data.length : Except Fault Nat) w'
  | .memory _ => False

variable {source : Source} {sink : Sink} {data : Bytes} {limit moved : Nat}

theorem comes_take (next : Except Failure Loop.take.Value → Program α) (hw : Gives ans w limit data w' source) :
    Comes ans 2 (loop .take (source, limit) next) w (next (.ok (data, source.advance data.length))) w' := by
  cases source with
  | input | file id offset => exact .enter (.ask hw (.refl _ _))

theorem comes_put (next : Except Failure Loop.put.Value → Program α) (hne : data ≠ []) (hw : Takes ans w data w' sink) :
    Comes ans 3 (loop .put (sink, data) next) w (next (.ok (sink.advance data.length))) w' := by
  obtain ⟨b, rest, rfl⟩ := List.exists_cons_of_ne_nil hne
  -- What is left of the data after a write that took all is nothing.
  have hover : ∀ sink : Sink, Comes ans 1 (loop .put (sink, (b :: rest).drop (rest.length + 1)) next) w'
      (next (.ok sink)) w' := by
    intro sink
    rw [show (b :: rest).drop (rest.length + 1) = [] from List.drop_length]
    exact .enter (.refl _ _)
  cases sink with
  | memory held => exact hw.elim
  | output => exact .enter (.ask hw (hover .output))
  | file id offset => exact .enter (.ask hw (hover (.file id (offset + (rest.length + 1)))))

theorem comes_copy_piece (moved : Nat) (next : Except Failure Loop.copy.Value → Program α) {w₁ : σ}
    (hpoll : ans w .poll false w) (hgives : Gives ans w chunkSize data w₁ source) (hne : data ≠ [])
    (hpoll₁ : ans w₁ .poll false w₁) (htakes : Takes ans w₁ data w' sink) :
    Comes ans 8 (loop .copy (source, sink, moved) next) w
      (loop .copy (source.advance data.length, sink.advance data.length, moved + data.length) next) w' := by
  refine .enter ?_
  rw [enter_copy]
  refine .ask hpoll ((comes_take _ hgives).trans (m := 4) ?_)
  simp only [List.isEmpty_eq_false_iff.2 hne]
  exact .ask hpoll₁ ((comes_put _ hne htakes).trans (.refl _ _))

theorem comes_copy_end (next : Except Failure Loop.copy.Value → Program α) (hpoll : ans w .poll false w)
    (hgives : Gives ans w chunkSize [] w' source) :
    Comes ans 4 (loop .copy (source, sink, moved) next) w (next (.ok (moved, sink))) w' := by
  refine .enter ?_
  rw [enter_copy]
  exact .ask hpoll (comes_take _ hgives)

theorem comes_copy_fault (next : Except Failure Loop.copy.Value → Program α) {id : NodeId} {offset : Nat} {f : Fault}
    (hpoll : ans w .poll false w)
    (hfault : ans w (.files (.readAt id offset chunkSize)) (Except.error f : Except Fault Bytes) w')
    (hf : f ≠ .interrupted) :
    Comes ans 4 (loop .copy (.file id offset, sink, moved) next) w (next (.error (.fault f))) w' := by
  refine .enter ?_
  rw [enter_copy]
  refine .ask hpoll (.enter (.ask hfault ?_))
  cases f with
  | interrupted => exact absurd rfl hf
  | _ => exact .refl _ _

variable (ans) in
/-- **Copying some data to their end**, of which `W` says how the world is when some of them have been copied.  The source
and the sink after a part of the data are known beforehand. -/
theorem comes_copy (next : Except Failure Loop.copy.Value → Program α) {W : Bytes → σ → Prop} (data : Bytes)
    (source : Nat → Source) (sink : Nat → Sink) (hsource : ∀ k n, (source k).advance n = source (k + n))
    (hsink : ∀ k n, (sink k).advance n = sink (k + n))
    (hmore : ∀ taken rest w, data = taken ++ rest → rest ≠ [] → W taken w → ∃ w₁ w', ans w .poll false w ∧
      Gives ans w chunkSize (rest.take chunkSize) w₁ (source taken.length) ∧ ans w₁ .poll false w₁ ∧
      Takes ans w₁ (rest.take chunkSize) w' (sink taken.length) ∧ W (taken ++ rest.take chunkSize) w')
    (hend : ∀ w, W data w → ∃ w', ans w .poll false w ∧ Gives ans w chunkSize [] w' (source data.length) ∧ W data w') :
    ∀ taken rest moved w, data = taken ++ rest → W taken w → ∃ n moved' w',
      Comes ans n (loop .copy (source taken.length, sink taken.length, moved) next) w
        (next (.ok (moved', sink data.length))) w' ∧ W data w' := by
  intro taken rest
  induction hleft : rest.length using Nat.strongRecOn generalizing taken rest with
  | ind left ih =>
    intro moved w hdata hW
    by_cases hnil : rest = []
    · rw [hnil, List.append_nil] at hdata
      subst hdata
      obtain ⟨w', hpoll, hgives, hW'⟩ := hend w hW
      exact ⟨4, moved, w', comes_copy_end next hpoll hgives, hW'⟩
    · obtain ⟨w₁, w', hpoll, hgives, hpoll₁, htakes, hW'⟩ := hmore taken rest w hdata hnil hW
      have hpos : 0 < rest.length := List.length_pos_iff.2 hnil
      have hchunk : 0 < chunkSize := by decide
      have hpiece : rest.take chunkSize ≠ [] := by
        rw [← List.length_pos_iff, List.length_take]
        omega
      have hfirst := comes_copy_piece moved next hpoll hgives hpiece hpoll₁ htakes
      rw [hsource, hsink, ← List.length_append] at hfirst
      have hless : (rest.drop chunkSize).length < left := by
        rw [List.length_drop]
        omega
      have hsplit : data = taken ++ rest.take chunkSize ++ rest.drop chunkSize := by
        rw [List.append_assoc, List.take_append_drop, hdata]
      obtain ⟨n, moved', w'', hrest, hW''⟩ := ih _ hless _ _ rfl (moved + (rest.take chunkSize).length) w' hsplit hW'
      exact ⟨_, moved', w'', hfirst.trans hrest, hW''⟩

end Program
end LineShell
