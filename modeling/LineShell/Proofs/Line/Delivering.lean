import LineShell.Proofs.Line.Telling
/-!
# Delivering — writers that follow a script

A writer that follows a script is one of those who take reports: delivering a report to it is the telling that a bench
with that writer serves (`LineReport.deliver_serves`).  A script has writes enough for all of the data, since every write
but one takes a byte at least.  A willing writer never fails, so it is told everything (`LineReport.deliver_of_willing`).
-/
namespace LineShell

namespace Writer

/-- **What one write does**: it is cut short, fails, or accepts a front of the data. -/
theorem write_cases (w : Writer) (data : Bytes) : ∃ reply w' stop, w.write data = (reply, w', stop) ∧
    w'.writes = w.writes + 1 ∧ w'.interruptOn = w.interruptOn ∧
    w'.accepted.bytes = w.accepted.bytes ++ Exchange.accepted ⟨.write data, reply⟩ ∧
    (reply = .error .interrupted ∧ w.interruptOn = some (w.writes + 1) ∨
      (∃ f, reply = .error f ∧ f ≠ .interrupted) ∨ ∃ n, reply = .ok n ∧ n ≤ data.length) := by
  unfold write
  by_cases hi : w.interruptOn = some (w.writes + 1)
  · exact ⟨_, _, _, if_pos (by simp [hi]), rfl, rfl, (List.append_nil _).symm, .inl ⟨rfl, hi⟩⟩
  rw [if_neg (by simpa using hi)]
  by_cases hf : w.failOn = some (w.writes + 1)
  · exact ⟨_, _, _, if_pos (by simp [hf]), rfl, rfl, (List.append_nil _).symm, .inr (.inl ⟨_, rfl, nofun⟩)⟩
  rw [if_neg (by simpa using hf)]
  by_cases hz : w.zeroOn = some (w.writes + 1)
  · exact ⟨_, _, _, if_pos (by simp [hz]), rfl, rfl, (List.append_nil _).symm, .inr (.inr ⟨0, rfl, Nat.zero_le _⟩)⟩
  rw [if_neg (by simpa using hz)]
  refine ⟨_, _, _, rfl, rfl, rfl, ?_, .inr (.inr ⟨_, rfl, ?_⟩)⟩
  · cases w.most with
    | none => simp [Exchange.accepted]
    | some most => simp [Exchange.accepted]
  · cases w.most with
    | none => exact Nat.le_refl _
    | some most => exact List.length_take_le' most data

def afterWrite (rounds : Nat) (w : Writer) (data : Bytes) : Except Fault Nat → Except Fault Unit × Writer
  | .ok 0 => (.error .writeZero, w)
  | .ok n => writeRounds rounds w (data.drop n)
  | .error .interrupted => writeRounds rounds w data
  | .error f => (.error f, w)

theorem writeRounds_succ {w w' : Writer} {data : Bytes} {reply : Except Fault Nat} {stop : Bool} (hdata : data ≠ [])
    (h : w.write data = (reply, w', stop)) (rounds : Nat) :
    writeRounds (rounds + 1) w data = afterWrite rounds w' data reply := by
  cases data with
  | nil => exact absurd rfl hdata
  | cons c data =>
    rw [writeRounds, h]
    · unfold afterWrite
      rcases reply with f | (_ | n)
      · cases f <;> rfl
      · rfl
      · rfl
    · exact nofun

/-- How many writes of a script may still be cut short. -/
def spare (w : Writer) : Nat := if w.interruptOn.any (fun n => w.writes < n) then 1 else 0

end Writer

namespace Bench

@[simp] theorem writer_requestIf (b : Bench) (stop : Bool) : (b.requestIf stop).writer = b.writer := by
  cases stop <;> rfl

theorem writer_answer (b : Bench) {q : Request} (h : ∀ data, q ≠ .write data) : (b.answer q).2.writer = b.writer := by
  cases q with
  | write data => exact absurd rfl (h data)
  | read limit => exact writer_requestIf _ _
  | _ => rfl

theorem answer_write {b : Bench} {data : Bytes} {reply : Except Fault Nat} {w : Writer} {stop : Bool}
    (h : b.writer.write data = (reply, w, stop)) :
    ∃ b', b.answer (.write data) = (reply, b') ∧ b'.writer = w := by
  refine ⟨{ b with writer := w }.requestIf stop, ?_, ?_⟩
  · show ((b.writer.write data).1, { b with writer := (b.writer.write data).2.1 }.requestIf (b.writer.write data).2.2) = _
    rw [h]
  · rw [writer_requestIf]

theorem Serves.of_answer {b b₁ b' : Bench} {q : Request} {reply : q.Reply} {es : List Exchange}
    (h : b.answer q = (reply, b₁)) (hs : b₁.Serves es b') : b.Serves (⟨q, reply⟩ :: es) b' := by
  have hcons : b.Serves (⟨q, (b.answer q).1⟩ :: es) b' := .cons q (by rw [h]; exact hs)
  rwa [h] at hcons

theorem Serves.append {b b₁ b' : Bench} {es es' : List Exchange} (h : b.Serves es b₁) (h' : b₁.Serves es' b') :
    b.Serves (es ++ es') b' := by
  induction h with
  | nil => exact h'
  | cons q _ ih => exact .cons q (ih h')

end Bench

namespace LineReport

variable {α : Type}

/-- **Putting data at a bench** does what the bench's writer does, round by round. -/
theorem put_serves (rounds : Nat) : ∀ (b : Bench) (data : Bytes), data.length + b.writer.spare < rounds →
    ∃ wrote b', b.Serves wrote b' ∧ b'.writer = (Writer.writeRounds rounds b.writer data).2 ∧
      ∀ (next : Except Failure Sink → Program α) rest p,
        (next (putResult (Writer.writeRounds rounds b.writer data).1)).Proceeds rest p →
        (Program.loop .put (.output, data) next).Proceeds (wrote ++ rest) p := by
  induction rounds with
  | zero => exact fun _ _ h => absurd h (Nat.not_lt_zero _)
  | succ rounds ih =>
    intro b data hrounds
    cases data with
    | nil => exact ⟨[], b, .nil b, rfl, fun next rest p hp => .enter hp⟩
    | cons c data =>
      obtain ⟨reply, w, stop, hwrite, hwrites, hion, -, hreply⟩ := b.writer.write_cases (c :: data)
      obtain ⟨b₁, hanswer, rfl⟩ := Bench.answer_write hwrite
      have hspare : b₁.writer.spare ≤ b.writer.spare := by
        unfold Writer.spare
        rw [hion, hwrites]
        cases b.writer.interruptOn with
        | none => simp
        | some n =>
          simp only [Option.any_some, decide_eq_true_eq]
          split <;> split <;> omega
      rw [Writer.writeRounds_succ (List.cons_ne_nil c data) hwrite]
      rcases hreply with ⟨rfl, hnow⟩ | ⟨f, rfl, hf⟩ | ⟨n, rfl, hn⟩
      -- Cut short: the same data again, and no other write is cut short.
      · have hfewer : b₁.writer.spare < b.writer.spare := by simp [Writer.spare, hion, hwrites, hnow]
        obtain ⟨wrote, b', hb', hw, hp⟩ := ih b₁ (c :: data) (by omega)
        exact ⟨_, b', hb'.of_answer hanswer, hw, fun next rest p h => .enter (.ask _ (hp next rest p h))⟩
      · have hover : ∀ w, Writer.afterWrite rounds w (c :: data) (.error f) = (.error f, w) := by
          intro w
          cases f <;> first | rfl | exact absurd rfl hf
        rw [hover]
        refine ⟨_, b₁, (Bench.Serves.nil _).of_answer hanswer, rfl, fun next rest p h => .enter (.ask _ ?_)⟩
        cases f <;> first | exact h | exact absurd rfl hf
      · match n with
        | 0 => exact ⟨_, b₁, (Bench.Serves.nil _).of_answer hanswer, rfl, fun next rest p h => .enter (.ask _ h)⟩
        | n + 1 =>
          obtain ⟨wrote, b', hb', hw, hp⟩ := ih b₁ ((c :: data).drop (n + 1)) (by
            rw [List.length_drop]
            omega)
          exact ⟨_, b', hb'.of_answer hanswer, hw, fun next rest p h => .enter (.ask _ (hp next rest p h))⟩

theorem writeAll_serves (b : Bench) (data : Bytes) :
    ∃ wrote b', b.Serves wrote b' ∧ b'.writer = (b.writer.writeAll data).2 ∧
      ∀ (next : Except Failure Sink → Program α) rest p, (next (putResult (b.writer.writeAll data).1)).Proceeds rest p →
        (Program.loop .put (.output, data) next).Proceeds (wrote ++ rest) p := by
  refine put_serves (data.length + 2) b data ?_
  have hspare : b.writer.spare ≤ 1 := by
    unfold Writer.spare
    split <;> omega
  omega

theorem tellPieces_serves (pieces : List String) : ∀ b : Bench,
    ∃ wrote b', b.Serves wrote b' ∧ b'.writer = (writePieces pieces b.writer).2 ∧
      ∀ (k : Except Failure Unit → Program α) rest p, (k (failing (writePieces pieces b.writer).1)).Proceeds rest p →
        (Program.bind (tellPieces pieces) k).Proceeds (wrote ++ rest) p := by
  induction pieces with
  | nil => exact fun b => ⟨[], b, .nil b, rfl, fun k rest p hp => hp⟩
  | cons piece pieces ih =>
    intro b
    obtain ⟨wrote, b₁, hb₁, hw₁, hp₁⟩ := writeAll_serves (α := α) b (Bytes.ofString piece)
    cases hwrite : b.writer.writeAll (Bytes.ofString piece) with
    | mk result w =>
      rw [hwrite] at hw₁ hp₁
      cases result with
      | error f =>
        simp only [writePieces, hwrite]
        exact ⟨wrote, b₁, hb₁, hw₁, fun k rest p hp => hp₁ _ rest p hp⟩
      | ok =>
        simp only [writePieces, hwrite]
        obtain ⟨wrote', b', hb', hw', hp'⟩ := ih b₁
        rw [show b₁.writer = w from hw₁] at hw' hp'
        refine ⟨wrote ++ wrote', b', hb₁.append hb', hw', fun k rest p hp => ?_⟩
        rw [List.append_assoc]
        exact hp₁ _ _ p (hp' k rest p hp)

def delivered (r : LineReport) (w : Writer) : Except Fault LineOutcome :=
  match if r.flushes then w.flush else .ok () with
  | .ok () => .ok r.outcome
  | .error f => .error f

theorem ending_serves (r : LineReport) (b : Bench) : ∃ es, b.Serves es b ∧
    r.ending.Proceeds es (.done (failing (r.delivered b.writer))) := by
  unfold ending delivered
  by_cases hflush : r.flushes = true
  · simp only [hflush, if_true]
    refine ⟨[⟨.flush, b.writer.flush⟩], .cons .flush (.nil b), Program.Proceeds.ask (q := .flush) b.writer.flush ?_⟩
    cases b.writer.flush with
    | ok => exact .refl _
    | error f => exact .refl _
  · simp only [hflush]
    exact ⟨[], .nil b, .refl _⟩

/-- **Delivering a report** is telling it to a writer that follows a script. -/
theorem deliver_serves (r : LineReport) (b : Bench) : ∃ es b', b.Serves es b' ∧ b'.writer = (r.deliver b.writer).2 ∧
    r.telling.Proceeds es (.done (failing (r.deliver b.writer).1)) := by
  obtain ⟨wrote, b₁, hb₁, hw₁, hp₁⟩ := tellPieces_serves (α := Except Failure LineOutcome) r.pieces b
  cases hpieces : writePieces r.pieces b.writer with
  | mk told w =>
    rw [hpieces] at hw₁ hp₁
    cases told with
    | error f =>
      simp only [deliver, hpieces]
      refine ⟨wrote ++ [], b₁, by rwa [List.append_nil], hw₁, ?_⟩
      exact hp₁ _ [] _ (.refl _)
    | ok =>
      obtain rfl : b₁.writer = w := hw₁
      have hdeliver : r.deliver b.writer = (r.delivered b₁.writer, b₁.writer) := by
        simp only [deliver, hpieces, delivered]
        cases if r.flushes then b₁.writer.flush else .ok () <;> rfl
      rw [hdeliver]
      obtain ⟨es, hes, hp⟩ := ending_serves r b₁
      exact ⟨wrote ++ es, b₁, hb₁.append hes, rfl, hp₁ _ es _ hp⟩

end LineReport

/-! ## Willing writers -/

/-- A writer that never fails.  It may accept little at a time, and be cut short. -/
structure Writer.Willing (w : Writer) : Prop where
  most : w.most ≠ some 0
  failOn : w.failOn = none
  zeroOn : w.zeroOn = none
  failFlush : w.failFlush = false

theorem Writer.Willing.write {w w' : Writer} {data : Bytes} {reply : Except Fault Nat} {stop : Bool} (hw : w.Willing)
    (h : w.write data = (reply, w', stop)) : w'.Willing ∧ ¬ Exchange.Fails ⟨.write data, reply⟩ := by
  unfold Writer.write at h
  simp only [hw.failOn, hw.zeroOn] at h
  split at h
  · cases h
    exact ⟨⟨hw.most, rfl, rfl, hw.failFlush⟩, fun hf => hf rfl⟩
  · cases h
    refine ⟨⟨hw.most, rfl, rfl, hw.failFlush⟩, ?_⟩
    cases data with
    | nil => cases w.most <;> simp [Exchange.Fails]
    | cons c data =>
      rcases hm : w.most with _ | _ | most
      · exact fun h => h
      · exact absurd hm hw.most
      · exact fun h => h

namespace Bench

theorem Serves.accepted {b b' : Bench} {es : List Exchange} (h : b.Serves es b') :
    b'.writer.accepted.bytes = b.writer.accepted.bytes ++ es.flatMap Exchange.accepted := by
  induction h with
  | nil => exact (List.append_nil _).symm
  | @cons b b' es q _ ih =>
    rw [ih, List.flatMap_cons, ← List.append_assoc]
    congr 1
    by_cases hq : ∃ data, q = .write data
    · obtain ⟨data, rfl⟩ := hq
      obtain ⟨reply, w, stop, hwrite, -, -, hacc, -⟩ := b.writer.write_cases data
      obtain ⟨b₁, hanswer, rfl⟩ := answer_write hwrite
      rw [hanswer]
      exact hacc
    · rw [writer_answer b (not_exists.1 hq)]
      cases q with
      | write data => exact absurd ⟨data, rfl⟩ hq
      | _ => exact (List.append_nil _).symm

theorem Serves.willing {b b' : Bench} {es : List Exchange} (h : b.Serves es b') (hw : b.writer.Willing) :
    ∀ e ∈ es, ¬ e.Fails := by
  induction h with
  | nil => exact nofun
  | @cons b b' es q _ ih =>
    by_cases hq : ∃ data, q = .write data
    · obtain ⟨data, rfl⟩ := hq
      obtain ⟨reply, w, stop, hwrite, -⟩ := b.writer.write_cases data
      obtain ⟨b₁, hanswer, rfl⟩ := answer_write hwrite
      obtain ⟨hw₁, hnot⟩ := hw.write hwrite
      rw [hanswer] at ih ⊢
      exact List.forall_mem_cons.2 ⟨hnot, ih hw₁⟩
    · rw [writer_answer b (not_exists.1 hq)] at ih
      refine List.forall_mem_cons.2 ⟨?_, ih hw⟩
      cases q with
      | write data => exact absurd ⟨data, rfl⟩ hq
      | flush =>
        have hflush : (b.answer .flush).1 = .ok () := by
          show b.writer.flush = _
          simp [Writer.flush, hw.failFlush]
        rw [hflush]
        exact fun h => h
      | _ => exact fun h => h

end Bench

/-- **A willing writer is told everything.** -/
theorem LineReport.deliver_of_willing (r : LineReport) {w : Writer} (hw : w.Willing) :
    (r.deliver w).1 = .ok r.outcome ∧ (r.deliver w).2.accepted.bytes = w.accepted.bytes ++ Bytes.ofString r.text := by
  obtain ⟨es, b', hb', hw', hp⟩ := r.deliver_serves { writer := w, files := .blank }
  obtain ⟨hresult, -, hall⟩ | ⟨f, -, ⟨e, he, hfails⟩, -⟩ := telling_cases hp
  · refine ⟨?_, by rw [← hw', hb'.accepted, hall]⟩
    cases hd : (r.deliver w).1 with
    | ok outcome =>
      rw [hd] at hresult
      cases hresult
      rfl
    | error f =>
      rw [hd] at hresult
      cases hresult
  · exact absurd hfails (hb'.willing hw e he)

end LineShell
