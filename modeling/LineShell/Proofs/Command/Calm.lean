import LineShell.Proofs.Command.Leading
/-!
# Calm — benches where nobody asks for a stop and nothing is refused

A calm bench has no request to stop and will make none, and its writer accepts everything.  `Program.Calmly Q p` says of
a program tree that `p` can only end with `Q` when it is answered as a calm bench answers; of a loop it uses no more than
`Loop.CalmResult`, which every turn of every loop keeps (`Loop.calmly_turn`).  So a run that is over at a calm bench has
ended with `Q` (`Leads.calm`).

What was written before makes no difference to a run as long as the writer accepts everything (`Leads.rewrite`).
-/
namespace LineShell

structure Writer.Open (w : Writer) : Prop where
  most : w.most = none
  stopOn : w.stopOn = none
  failOn : w.failOn = none
  zeroOn : w.zeroOn = none
  interruptOn : w.interruptOn = none
  failFlush : w.failFlush = false

namespace Writer.Open

variable {w : Writer}

theorem write (h : w.Open) (data : Bytes) : ∃ w', w.write data = (.ok data.length, w', false) ∧ w'.Open ∧
    w'.accepted.bytes = w.accepted.bytes ++ data := by
  unfold Writer.write
  simp only [h.most, h.stopOn, h.failOn, h.zeroOn, h.interruptOn]
  exact ⟨_, rfl, ⟨rfl, rfl, rfl, rfl, rfl, h.failFlush⟩, Transcript.bytes_write _ _⟩

theorem flush (h : w.Open) : w.flush = .ok () := by
  rw [Writer.flush, h.failFlush]
  rfl

end Writer.Open

theorem Reader.readFrom_of_not_mem (limit : Nat) : ∀ events : List ReadEvent, .stop ∉ events →
    (readFrom limit false events).2.2 = false ∧ .stop ∉ (readFrom limit false events).2.1.events
  | [], h => ⟨rfl, h⟩
  | .data [] :: rest, h => readFrom_of_not_mem limit rest (mt (List.mem_cons_of_mem _) h)
  | .data (b :: bytes) :: rest, h => by
    have hrest : .stop ∉ rest := mt (List.mem_cons_of_mem _) h
    refine ⟨rfl, ?_⟩
    show .stop ∉ if ((b :: bytes).drop limit).isEmpty then rest else .data ((b :: bytes).drop limit) :: rest
    split
    · exact hrest
    · exact fun hmem => (List.mem_cons.1 hmem).elim nofun hrest
  | .stop :: rest, h => absurd List.mem_cons_self h
  | .interrupted :: rest, h | .eof :: rest, h | .fault _ :: rest, h => ⟨rfl, mt (List.mem_cons_of_mem _) h⟩

namespace Bench

/-- **A bench where nobody asks for a stop and nothing is refused.** -/
structure Calm (b : Bench) : Prop where
  slot : b.slot = .empty
  reader : .stop ∉ b.reader.events
  writer : b.writer.Open

end Bench

namespace Bench

variable {b : Bench}

theorem answer_poll_freely (h : b.slot = .empty) : b.answer .poll = (false, b) := by
  show (b.slot.take.1, { b with slot := b.slot.take.2 }) = _
  rw [h]
  exact congrArg (fun slot => (false, { b with slot })) h.symm

theorem answer_read_freely {limit : Nat} {reply : Except Fault Bytes} {reader : Reader}
    (h : b.reader.read limit = (reply, reader, false)) : b.answer (.read limit) = (reply, { b with reader }) := by
  show ((b.reader.read limit).1, Bench.requestIf { b with reader := (b.reader.read limit).2.1 }
    (b.reader.read limit).2.2) = _
  rw [h]
  rfl

theorem answer_write_freely {data : Bytes} {reply : Except Fault Nat} {writer : Writer}
    (h : b.writer.write data = (reply, writer, false)) : b.answer (.write data) = (reply, { b with writer }) := by
  show ((b.writer.write data).1, Bench.requestIf { b with writer := (b.writer.write data).2.1 }
    (b.writer.write data).2.2) = _
  rw [h]
  rfl

end Bench

def Request.CalmReply : (q : Request) → q.Reply → Prop
  | .poll, stop => stop = false
  | .write data, reply => reply = .ok data.length
  | .flush, reply => reply = .ok ()
  | _, _ => True

namespace Bench

variable {b : Bench}

theorem Calm.answer (hb : b.Calm) (q : Request) : q.CalmReply (b.answer q).1 ∧ (b.answer q).2.Calm := by
  cases q with
  | poll =>
    rw [answer_poll_freely hb.slot]
    exact ⟨rfl, hb⟩
  | read limit =>
    obtain ⟨hstop, hrest⟩ := Reader.readFrom_of_not_mem limit _ hb.reader
    refine ⟨trivial, ?_⟩
    show Calm (Bench.requestIf { b with reader := (Reader.readFrom limit false b.reader.events).2.1 }
      (Reader.readFrom limit false b.reader.events).2.2)
    rw [hstop]
    exact ⟨hb.slot, hrest, hb.writer⟩
  | write data =>
    obtain ⟨w, hwrite, hopen, -⟩ := hb.writer.write data
    rw [answer_write_freely hwrite]
    exact ⟨rfl, hb.slot, hb.reader, hopen⟩
  | flush => exact ⟨hb.writer.flush, hb⟩
  | _ => exact ⟨trivial, hb.slot, hb.reader, hb.writer⟩

end Bench

/-- What a loop can result in where it is answered calmly: it is not stopped, and what is put to the output or looked for
on a walk meets no failure at all. -/
def Loop.CalmResult : (l : Loop) → l.State → Except Failure l.Value → Prop
  | .put, (.output, _), result => ∃ sink, result = .ok sink
  | .search, _, result => ∃ found, result = .ok found
  | _, _, result => result ≠ .error .stopped

namespace Program

variable {α β : Type} {Q : α → Prop}

/-- **A program that ends with `Q`** where it is answered calmly, if it ends. -/
def Calmly (Q : α → Prop) : Program α → Prop
  | done a => Q a
  | ask q next => ∀ reply, q.CalmReply reply → Calmly Q (next reply)
  | loop l state next => ∀ result, l.CalmResult state result → Calmly Q (next result)

theorem Calmly.bind {Q' : β → Prop} {p : Program α} {f : α → Program β} (hp : Calmly Q p)
    (hf : ∀ a, Q a → Calmly Q' (f a)) : Calmly Q' (p.bind f) := by
  induction p with
  | done a => exact hf a hp
  | ask q next ih => exact fun reply hreply => ih reply (hp reply hreply)
  | loop l state next ih => exact fun result hresult => ih result (hp result hresult)

end Program

namespace Action

variable {α β : Type} {Q : Except Failure α → Prop} {Q' : Except Failure β → Prop}

def Calmly (Q : Except Failure α → Prop) (x : Action α) : Prop := Program.Calmly Q x

theorem Calmly.bind {x : Action α} {f : α → Action β} (hx : Calmly Q x) (hok : ∀ a, Q (.ok a) → Calmly Q' (f a))
    (herror : ∀ e, Q (.error e) → Q' (.error e)) : Calmly Q' (x >>= f) := by
  refine Program.Calmly.bind hx fun result hQ => ?_
  match result with
  | .ok a => exact hok a hQ
  | .error e => exact herror e hQ

theorem calmly_check {f : Unit → Action β} (hf : Calmly Q' (f ())) : Calmly Q' (check >>= f) := by
  rintro stop rfl
  exact hf

theorem calmly_ite (c : Prop) [Decidable c] {x y : Action α} (hx : Calmly Q x) (hy : Calmly Q y) :
    Calmly Q (if c then x else y) := by
  split
  · exact hx
  · exact hy

def Succeeds (result : Except Failure α) : Prop := ∃ a, result = .ok a

def Unstopped (result : Except Failure α) : Prop := result ≠ .error .stopped

theorem Unstopped.error {e : Failure} (h : Unstopped (.error e : Except Failure α)) :
    Unstopped (.error e : Except Failure β) := fun he => h (congrArg _ (Except.error.inj he))

end Action

namespace Loop

open LineShell.Action

theorem CalmResult.unstopped {l : Loop} {state : l.State} {result : Except Failure l.Value}
    (h : l.CalmResult state result) : Unstopped result := by
  match l, state with
  | .put, (.output, _) | .search, _ =>
    obtain ⟨value, rfl⟩ := h
    exact nofun
  | .put, (.file .., _) | .put, (.memory _, _) | .take, _ | .copy, _ | .gather, _ => exact h

theorem calmly_loop (l : Loop) (state : l.State) : Calmly Unstopped (loop l state) := fun _ h => h.unstopped

/-- What a turn of a loop may come to: what the loop may result in from then on, it may result in now. -/
def CalmTurn (l : Loop) (state : l.State) : Except Failure (Turn l.State l.Value) → Prop
  | .ok (.again state') => ∀ result, l.CalmResult state' result → l.CalmResult state result
  | .ok (.finished value) => l.CalmResult state (.ok value)
  | .error e => l.CalmResult state (.error e)

theorem calmly_takeReply (source source' : Source) (limit : Nat) (reply : Except Fault Bytes) :
    Calmly (CalmTurn .take (source', limit)) (takeReply source limit reply) := by
  unfold takeReply
  split
  · exact nofun
  · exact fun _ h => h
  · exact nofun

theorem calmly_takeTurn : ∀ state, Calmly (CalmTurn .take state) (takeTurn state)
  | (.input, limit) => fun reply _ => calmly_takeReply .input .input limit reply
  | (.file id offset, limit) => fun reply _ => calmly_takeReply (.file id offset) _ limit reply

theorem calmly_putTurn : ∀ state, Calmly (CalmTurn .put state) (putTurn state)
  | (.output, []) => ⟨_, rfl⟩
  | (.file .., []) | (.memory _, []) => nofun
  | (.output, b :: data) => by
    rintro reply rfl
    exact fun result h => h
  | (.file id offset, b :: data) => by
    intro reply _
    show Calmly _ (putReply (.file id offset) (b :: data) reply)
    unfold putReply
    split
    · exact nofun
    · exact fun _ h => h
    · exact fun _ h => h
    · exact nofun
  | (.memory _, _ :: _) => nofun

theorem calmly_copyTurn : ∀ state, Calmly (CalmTurn .copy state) (copyTurn state)
  | (source, sink, moved) => by
    refine calmly_check ((calmly_loop .take _).bind ?_ fun e => Unstopped.error)
    rintro ⟨data, source⟩ -
    dsimp only
    split
    · exact nofun
    · exact calmly_check ((calmly_loop .put _).bind (fun sink _ result h => h) fun e => Unstopped.error)

theorem calmly_gatherTurn (held : Transcript) : Calmly (CalmTurn .gather held) (gatherTurn held) := by
  refine calmly_check ((calmly_loop .take _).bind ?_ fun e => Unstopped.error)
  rintro ⟨data, source⟩ -
  dsimp only
  split
  · exact nofun
  · exact fun result h => h

theorem calmly_childVisits (dir : Path) : Calmly Succeeds (childVisits dir) := by
  intro reply _
  cases reply with
  | ok listed => exact ⟨_, rfl⟩
  | error f => exact ⟨_, rfl⟩

theorem calmly_searchTurn : ∀ state, Calmly (CalmTurn .search state) (searchTurn state)
  | (_, []) => ⟨_, rfl⟩
  | (_, .fault path f :: _) => by
    refine calmly_check ?_
    exact ⟨_, rfl⟩
  | (name, .entry path kind :: rest) => by
    have hrest : ∀ children : List Visit, Calmly (CalmTurn .search (name, .entry path kind :: rest)) (do
        check
        if Bytes.toText path.fileName = name then pure (.finished (.found path))
        else pure (.again (name, children ++ rest)) : Action (Turn (String × List Visit) Finding)) := by
      refine fun children => calmly_check ?_
      split
      · exact ⟨_, rfl⟩
      · exact fun result h => h
    refine calmly_ite (kind = .directory) ?_ (hrest [])
    exact (calmly_childVisits path).bind (fun children _ => hrest children) fun e ⟨_, he⟩ => nomatch he

/-- **Every turn of every loop keeps to what the loop may result in.** -/
theorem calmly_turn : (l : Loop) → (state : l.State) → Calmly (CalmTurn l state) (l.turn state)
  | .take, state => calmly_takeTurn state
  | .put, state => calmly_putTurn state
  | .copy, state => calmly_copyTurn state
  | .gather, held => calmly_gatherTurn held
  | .search, state => calmly_searchTurn state

end Loop

namespace Program

variable {α : Type} {Q : α → Prop}

theorem Calmly.enter {l : Loop} {state : l.State} {next : Except Failure l.Value → Program α}
    (h : Calmly Q (loop l state next)) : Calmly Q (Program.enter l state next) := by
  refine Calmly.bind (Loop.calmly_turn l state) fun result hturn => ?_
  match result with
  | .ok (.again state') => exact fun result hresult => h result (hturn result hresult)
  | .ok (.finished value) => exact h _ hturn
  | .error e => exact h _ hturn

end Program

namespace Bench

variable {α : Type} {p p' : Program α} {b b' : Bench} {a : α}

/-- **A run at a calm bench** comes to what a program comes to that is answered calmly, and leaves the bench calm. -/
theorem Leads.calm {Q : α → Prop} (h : Leads p b p' b') (hb : b.Calm) (hp : p.Calmly Q) : p'.Calmly Q ∧ b'.Calm := by
  induction h with
  | refl => exact ⟨hp, hb⟩
  | ask _ ih =>
    obtain ⟨hreply, hb⟩ := hb.answer _
    exact ih hb (hp _ hreply)
  | enter _ ih => exact ih hb hp.enter

/-! ## What was written before -/

/-- Two writers that accept everything were told the same from two points on. -/
def SameTold (w v w' v' : Writer) : Prop :=
  w'.Open ∧ v'.Open ∧ ∃ out, w'.accepted.bytes = w.accepted.bytes ++ out ∧ v'.accepted.bytes = v.accepted.bytes ++ out

theorem SameTold.trans {w v w' v' w'' v'' : Writer} (h : SameTold w v w' v') (h' : SameTold w' v' w'' v'') :
    SameTold w v w'' v'' := by
  obtain ⟨-, -, out, hw, hv⟩ := h
  obtain ⟨hwo, hvo, out', hw', hv'⟩ := h'
  exact ⟨hwo, hvo, out ++ out', by rw [hw', hw, List.append_assoc], by rw [hv', hv, List.append_assoc]⟩

theorem answer_rewrite (hb : b.writer.Open) {v : Writer} (hv : v.Open) (q : Request) :
    ∃ v', { b with writer := v }.answer q = ((b.answer q).1, { (b.answer q).2 with writer := v' }) ∧
      SameTold b.writer v (b.answer q).2.writer v' := by
  have same : SameTold b.writer v b.writer v :=
    ⟨hb, hv, [], (List.append_nil _).symm, (List.append_nil _).symm⟩
  cases q with
  | write data =>
    obtain ⟨w', hw', hwo, hwa⟩ := hb.write data
    obtain ⟨v', hv', hvo, hva⟩ := hv.write data
    refine ⟨v', ?_, ?_⟩
    · rw [answer_write_freely hw', answer_write_freely (b := { b with writer := v }) hv']
      rfl
    · rw [answer_write_freely hw']
      exact ⟨hwo, hvo, data, hwa, hva⟩
  | flush =>
    refine ⟨v, ?_, same⟩
    show (v.flush, { b with writer := v }) = (b.writer.flush, { b with writer := v })
    rw [hb.flush, hv.flush]
  | read limit =>
    refine ⟨v, ?_, ?_⟩
    · show ((b.reader.read limit).1, Bench.requestIf { b with reader := (b.reader.read limit).2.1, writer := v }
        (b.reader.read limit).2.2) = ((b.reader.read limit).1, { (Bench.requestIf
          { b with reader := (b.reader.read limit).2.1 } (b.reader.read limit).2.2) with writer := v })
      cases (b.reader.read limit).2.2 <;> rfl
    · show SameTold b.writer v (Bench.requestIf { b with reader := (b.reader.read limit).2.1 }
        (b.reader.read limit).2.2).writer v
      cases (b.reader.read limit).2.2 <;> exact same
  | _ => exact ⟨v, rfl, same⟩

/-- **What was written before makes no difference to a run.** -/
theorem Leads.rewrite (h : Leads p b p' b') (hb : b.writer.Open) {v : Writer} (hv : v.Open) :
    ∃ v', Leads p { b with writer := v } p' { b' with writer := v' } ∧ SameTold b.writer v b'.writer v' := by
  induction h generalizing v with
  | refl p b =>
    exact ⟨v, .refl _ _, hb, hv, [], (List.append_nil _).symm, (List.append_nil _).symm⟩
  | @ask q next b b' p' _ ih =>
    obtain ⟨v₁, hanswer, htold⟩ := answer_rewrite hb hv q
    obtain ⟨v', hrest, htold'⟩ := ih htold.1 htold.2.1
    refine ⟨v', .ask ?_, htold.trans htold'⟩
    rw [hanswer]
    exact hrest
  | enter _ ih =>
    obtain ⟨v', hrest, htold⟩ := ih hb hv
    exact ⟨v', .enter hrest, htold⟩

end Bench
end LineShell
