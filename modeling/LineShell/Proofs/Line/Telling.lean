import LineShell.Proofs.Command.Moving
import LineShell.Session.Line
/-!
# Telling — a report and whoever takes it

A report is told by writing its pieces one after the other and flushing at the end (`LineReport.telling`).  Whoever
takes it answers every write and the flush freely: all of the data may be accepted or some of it, a write may be cut
short, accept nothing or fail.  Telling fails exactly where it meets a write or a flush that fails, and what was accepted
by then is a front of the report's text (`LineReport.telling_cases`).
-/
namespace LineShell

namespace Exchange

/-- A write or a flush that fails.  A write that is cut short does not, since it is tried again; one that accepts nothing
of some data does. -/
def Fails : Exchange → Prop
  | ⟨.write data, .ok 0⟩ => data ≠ []
  | ⟨.write _, .error f⟩ => f ≠ .interrupted
  | ⟨.flush, .error _⟩ => True
  | _ => False

def accepted : Exchange → Bytes
  | ⟨.write data, .ok n⟩ => data.take n
  | _ => []

end Exchange

namespace LineReport

open Exchange

def tellPieces : List String → Action Unit
  | [] => pure ()
  | piece :: pieces => do
    let _ ← Action.loop .put (.output, Bytes.ofString piece)
    tellPieces pieces

/-- The end of a report: whoever takes it is flushed, and then it is known what comes after the line. -/
def ending (r : LineReport) : Action LineOutcome := do
  if r.flushes then Action.flush
  pure r.outcome

/-- **Telling a report**: what comes after the line is known only if all of it could be written. -/
def telling (r : LineReport) : Action LineOutcome := do
  tellPieces r.pieces
  r.ending

/-! ## Any taker -/

/-- What exchanges come to that write some data: all of it was accepted, or one of them failed. -/
def Wrote (data : Bytes) (es : List Exchange) : Except Fault Unit → Prop
  | .ok () => (∀ e ∈ es, ¬ e.Fails) ∧ es.flatMap accepted = data
  | .error _ => (∃ e ∈ es, e.Fails) ∧ es.flatMap accepted <+: data

theorem Wrote.cons {data : Bytes} {es : List Exchange} {e : Exchange} {result : Except Fault Unit}
    (h : Wrote data es result) (he : ¬ e.Fails) : Wrote (e.accepted ++ data) (e :: es) result := by
  cases result with
  | ok => exact ⟨List.forall_mem_cons.2 ⟨he, h.1⟩, by rw [List.flatMap_cons, h.2]⟩
  | error f =>
    obtain ⟨e', hmem, hfails⟩ := h.1
    exact ⟨⟨e', List.mem_cons_of_mem _ hmem, hfails⟩, List.flatMap_cons ▸ (List.prefix_append_right_inj _).2 h.2⟩

theorem Wrote.append {data data' : Bytes} {es es' : List Exchange} {result : Except Fault Unit}
    (h : Wrote data es (.ok ())) (h' : Wrote data' es' result) : Wrote (data ++ data') (es ++ es') result := by
  obtain ⟨hnot, rfl⟩ := h
  induction es with
  | nil => exact h'
  | cons e es ih =>
    obtain ⟨he, hes⟩ := List.forall_mem_cons.1 hnot
    rw [List.flatMap_cons, List.append_assoc, List.cons_append]
    exact (ih hes).cons he

variable {α : Type} {es : List Exchange}

theorem wrote_of_puts {sink : Sink} {data : Bytes} {result : Except Fault Sink} (h : sink.Puts data es result)
    (hsink : sink = .output) : Wrote data es (result.map fun _ => ()) ∧ ∀ sink', result = .ok sink' → sink' = .output := by
  induction h with
  | finished => exact ⟨⟨nofun, rfl⟩, fun sink' heq => Except.ok.inj heq ▸ hsink⟩
  | held => cases hsink
  | again _ h _ ih =>
    subst hsink
    cases h
    exact ⟨(ih rfl).1.cons (fun h => h rfl), (ih rfl).2⟩
  | @part sink data n e es result _ h _ ih =>
    subst hsink
    cases h
    have hw := (ih rfl).1.cons (e := ⟨.write data, .ok (n + 1)⟩) (fun h => h)
    refine ⟨?_, (ih rfl).2⟩
    rwa [show accepted ⟨.write data, .ok (n + 1)⟩ = data.take (n + 1) from rfl, List.take_append_drop] at hw
  | zero hne h =>
    subst hsink
    cases h
    exact ⟨⟨⟨_, List.mem_singleton_self _, hne⟩, List.nil_prefix⟩, nofun⟩
  | failed _ h hf =>
    subst hsink
    cases h
    exact ⟨⟨⟨_, List.mem_singleton_self _, hf⟩, List.nil_prefix⟩, nofun⟩

def putResult : Except Fault Unit → Except Failure Sink
  | .ok () => .ok .output
  | .error f => .error (.fault f)

/-- **Putting data to the output** gets all of it accepted, or meets a write that fails. -/
theorem wrote_of_put {next : Except Failure Sink → Program α} {a : α} {data : Bytes}
    (hp : Program.Proceeds (.loop .put (.output, data) next) es (.done a)) :
    ∃ wrote rest result, es = wrote ++ rest ∧ Wrote data wrote result ∧
      (next (putResult result)).Proceeds rest (.done a) := by
  obtain ⟨wrote, rest, result, rfl, hputs, hrest⟩ := Program.puts_of_proceeds es hp
  obtain ⟨hw, hsink⟩ := wrote_of_puts hputs rfl
  refine ⟨wrote, rest, _, rfl, hw, ?_⟩
  cases result with
  | ok sink =>
    obtain rfl := hsink sink rfl
    exact hrest
  | error f => exact hrest

def failing {β : Type} : Except Fault β → Except Failure β := Except.mapError .fault

theorem wrote_of_tellPieces {k : Except Failure Unit → Program α} {a : α} (pieces : List String) :
    ∀ es : List Exchange, (Program.bind (tellPieces pieces) k).Proceeds es (.done a) →
      ∃ wrote rest result, es = wrote ++ rest ∧ Wrote (Bytes.ofString (String.join pieces)) wrote result ∧
        (k (failing result)).Proceeds rest (.done a) := by
  induction pieces with
  | nil => exact fun es hp => ⟨[], es, .ok (), rfl, ⟨nofun, rfl⟩, hp⟩
  | cons piece pieces ih =>
    intro es hp
    obtain ⟨wrote, rest, result, rfl, hw, hrest⟩ := wrote_of_put hp
    rw [String.join_cons, Bytes.ofString_append]
    cases result with
    | ok =>
      obtain ⟨wrote', rest, result, rfl, hw', hrest⟩ := ih rest hrest
      exact ⟨wrote ++ wrote', rest, result, (List.append_assoc _ _ _).symm, hw.append hw', hrest⟩
    | error f => exact ⟨wrote, rest, .error f, rfl, ⟨hw.1, hw.2.trans (List.prefix_append _ _)⟩, hrest⟩

theorem ending_cases {r : LineReport} {result : Except Failure LineOutcome} (hp : r.ending.Proceeds es (.done result)) :
    es.flatMap accepted = [] ∧ (result = .ok r.outcome ∧ (∀ e ∈ es, ¬ e.Fails) ∨
      ∃ f, result = .error (.fault f) ∧ ∃ e ∈ es, e.Fails) := by
  unfold ending at hp
  by_cases hflush : r.flushes = true
  · simp only [hflush, if_true] at hp
    cases hp with
    | ask reply hp =>
      cases reply with
      | ok =>
        obtain ⟨rfl, hdone⟩ := hp.of_done
        cases hdone
        exact ⟨rfl, .inl ⟨rfl, by simp [Fails]⟩⟩
      | error f =>
        obtain ⟨rfl, hdone⟩ := hp.of_done
        cases hdone
        exact ⟨rfl, .inr ⟨f, rfl, _, List.mem_singleton_self _, trivial⟩⟩
  · simp only [hflush] at hp
    obtain ⟨rfl, hdone⟩ := hp.of_done
    cases hdone
    exact ⟨rfl, .inl ⟨rfl, nofun⟩⟩

/-- **How telling a report ends**: what comes after the line is known if nothing failed, and then all of the text was
accepted; otherwise a write or the flush failed, and that is the result. -/
theorem telling_cases {r : LineReport} {result : Except Failure LineOutcome} (hp : r.telling.Proceeds es (.done result)) :
    (result = .ok r.outcome ∧ (∀ e ∈ es, ¬ e.Fails) ∧ es.flatMap accepted = Bytes.ofString r.text) ∨
      ∃ f, result = .error (.fault f) ∧ (∃ e ∈ es, e.Fails) ∧ es.flatMap accepted <+: Bytes.ofString r.text := by
  obtain ⟨wrote, rest, told, rfl, hw, hrest⟩ := wrote_of_tellPieces r.pieces _ hp
  cases told with
  | error f =>
    obtain ⟨rfl, hdone⟩ := hrest.of_done
    cases hdone
    rw [List.append_nil]
    exact .inr ⟨f, rfl, hw⟩
  | ok =>
    obtain ⟨hnot, hall⟩ := hw
    obtain ⟨hnone, ⟨hresult, hrestnot⟩ | ⟨f, hresult, e, he, hfails⟩⟩ := ending_cases hrest
    · refine .inl ⟨hresult, fun e he => (List.mem_append.1 he).elim (hnot e) (hrestnot e), ?_⟩
      rw [List.flatMap_append, hall, hnone]
      exact List.append_nil _
    · refine .inr ⟨f, hresult, ⟨e, List.mem_append_right _ he, hfails⟩, ?_⟩
      rw [List.flatMap_append, hall, hnone, List.append_nil]
      exact List.prefix_rfl

end LineReport
end LineShell
