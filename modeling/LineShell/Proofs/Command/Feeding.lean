import LineShell.Proofs.Command.Calm
/-!
# Feeding — a bench where a reader delivers its data

A script delivers some data if that is what comes in before the first read that delivers nothing, in whatever pieces and
however often reads are cut short (`Delivers`).  A program that ends well on the data (`Program.Ends`) comes to its end at
every bench where they are delivered, nobody asks for a stop and the writer accepts everything, and leaves the files
there as they are (`Ends.leads`).
-/
namespace LineShell

/-- **A script delivers some data** before the first read that delivers nothing, without a stop and without a fault. -/
inductive Delivers : List ReadEvent → Bytes → Prop
  | nil : Delivers [] []
  | eof (events : List ReadEvent) : Delivers (.eof :: events) []
  | data {events : List ReadEvent} {data : Bytes} (piece : Bytes) (h : Delivers events data) :
      Delivers (.data piece :: events) (piece ++ data)
  | interrupted {events : List ReadEvent} {data : Bytes} (h : Delivers events data) :
      Delivers (.interrupted :: events) data

namespace Reader

variable {events : List ReadEvent} {data : Bytes} {limit : Nat}

/-- How a read of a script ends that delivers some data: it was cut short, or it takes a piece off the front, which is
empty at the end only. -/
def Serves (limit : Nat) (events : List ReadEvent) (data : Bytes) : Except Fault Bytes → List ReadEvent → Prop
  | .ok [], _ => data = []
  | .ok piece, rest => piece.length ≤ limit ∧ ∃ left, data = piece ++ left ∧ Delivers rest left
  | .error f, rest => f = .interrupted ∧ rest.length < events.length ∧ Delivers rest data

theorem readFrom_of_delivers (h : Delivers events data) (hl : 0 < limit) : ∃ reply rest,
    readFrom limit false events = (reply, ⟨rest⟩, false) ∧ Serves limit events data reply rest := by
  induction h with
  | nil => exact ⟨.ok [], [], rfl, rfl⟩
  | eof events => exact ⟨.ok [], events, rfl, rfl⟩
  | @interrupted events data h ih => exact ⟨.error .interrupted, events, rfl, rfl, Nat.lt_succ_self _, h⟩
  | @data events data piece h ih =>
    cases piece with
    | nil =>
      obtain ⟨reply, rest, hread, hserves⟩ := ih
      refine ⟨reply, rest, hread, ?_⟩
      match reply, hserves with
      | .ok [], hserves => exact hserves
      | .ok (_ :: _), hserves => exact hserves
      | .error _, hserves => exact ⟨hserves.1, Nat.lt_succ_of_lt hserves.2.1, hserves.2.2⟩
    | cons b piece =>
      obtain ⟨limit, rfl⟩ : ∃ k, limit = k + 1 := ⟨limit - 1, by omega⟩
      refine ⟨.ok (b :: piece.take limit), _, rfl, ?_, piece.drop limit ++ data, ?_, ?_⟩
      · rw [List.length_cons, List.length_take]
        omega
      · rw [← List.append_assoc]
        exact congrArg (b :: · ++ data) (List.take_append_drop limit piece).symm
      · show Delivers (if (piece.drop limit).isEmpty then events else .data (piece.drop limit) :: events) _
        split
        · next hnil => rwa [List.isEmpty_iff.1 hnil]
        · exact .data _ h

end Reader

namespace Bench

variable {α : Type} {b : Bench} {files : Files} {n limit : Nat} {rest : Option Bytes} {data out : Bytes}

/-- **A bench that delivers some data**: nobody asks for a stop, the writer accepts everything, and the reader delivers
the data; nothing is asked of it once it has. -/
structure Gives (files : Files) (rest : Option Bytes) (b : Bench) : Prop where
  slot : b.slot = .empty
  writer : b.writer.Open
  files : b.files = files
  reader : ∀ data, rest = some data → Delivers b.reader.events data

theorem leads_read {next : Except Fault Bytes → Program α} (hb : b.Gives files (some data)) (hl : 0 < limit)
    (hagain : Program.Retries limit next) : ∃ events,
      (data = [] ∧ Leads (.ask (.read limit) next) b (next (.ok [])) { b with reader := ⟨events⟩ }) ∨
      ∃ k, 0 < k ∧ k ≤ limit ∧ k ≤ data.length ∧ Delivers events (data.drop k) ∧
        Leads (.ask (.read limit) next) b (next (.ok (data.take k))) { b with reader := ⟨events⟩ } := by
  generalize hsize : b.reader.events.length = size
  induction size using Nat.strongRecOn generalizing b with
  | _ size ih =>
    obtain ⟨reply, events, hread, hserves⟩ := Reader.readFrom_of_delivers (hb.reader data rfl) hl
    have hstep : ∀ {p : Program α} {b' : Bench}, Leads (next reply) { b with reader := ⟨events⟩ } p b' →
        Leads (.ask (.read limit) next) b p b' := by
      intro p b' h
      refine .ask ?_
      rw [answer_read_freely hread]
      exact h
    match reply, hserves with
    | .ok [], hnil => exact ⟨events, .inl ⟨hnil, hstep (.refl _ _)⟩⟩
    | .ok (x :: piece), ⟨hlength, left, hdata, hleft⟩ =>
      subst hdata
      refine ⟨events, .inr ⟨(x :: piece).length, Nat.succ_pos _, hlength, ?_, ?_, ?_⟩⟩
      · rw [List.length_append]
        omega
      · rwa [List.drop_left]
      · rw [List.take_left]
        exact hstep (.refl _ _)
    | .error _, ⟨rfl, hless, hrest⟩ =>
      obtain ⟨l, state, again, hloop, henter⟩ := hagain
      have hb' : Gives files (some data) { b with reader := ⟨events⟩ } :=
        ⟨hb.slot, hb.writer, hb.files, fun _ hsome => Option.some.inj hsome ▸ hrest⟩
      have hretry : ∀ {p : Program α} {b' : Bench}, Leads (.ask (.read limit) next) { b with reader := ⟨events⟩ } p b' →
          Leads (.ask (.read limit) next) b p b' := by
        intro p b' h
        refine hstep ?_
        rw [hloop]
        refine .enter ?_
        rwa [henter]
      obtain ⟨events', ⟨hnil, hleads⟩ | ⟨k, hpos, hk, hle, hleft, hleads⟩⟩ := ih _ (hsize ▸ hless) hb' rfl
      · exact ⟨events', .inl ⟨hnil, hretry hleads⟩⟩
      · exact ⟨events', .inr ⟨k, hpos, hk, hle, hleft, hretry hleads⟩⟩

/-- **A run at a bench is over** and has written what it owed, but for what it still owes; the files are as they
were. -/
def Brings (files : Files) (p : Program α) (b : Bench) (out : Bytes) (Q : α → Option Bytes → Bytes → Prop) : Prop :=
  ∃ a rest' out' b' told, Leads p b (.done a) b' ∧ Q a rest' out' ∧ b'.files = files ∧ out = told ++ out' ∧
    b'.writer.accepted.bytes = b.writer.accepted.bytes ++ told

theorem Brings.after {p p' : Program α} {b' : Bench} {out' told : Bytes} {Q : α → Option Bytes → Bytes → Prop}
    (h : Brings files p' b' out' Q) (hleads : Leads p b p' b') (hout : out = told ++ out')
    (htold : b'.writer.accepted.bytes = b.writer.accepted.bytes ++ told) : Brings files p b out Q := by
  obtain ⟨a, rest'', out'', b'', told', hrest, hQ, hfiles, rfl, htold'⟩ := h
  refine ⟨a, rest'', out'', b'', told ++ told', hleads.trans hrest, hQ, hfiles, ?_, ?_⟩
  · rw [hout, List.append_assoc]
  · rw [htold', htold, List.append_assoc]

theorem Brings.quietly {p p' : Program α} {b' : Bench} {Q : α → Option Bytes → Bytes → Prop}
    (h : Brings files p' b' out Q) (hleads : Leads p b p' b') (hwriter : b'.writer = b.writer) :
    Brings files p b out Q :=
  h.after hleads (List.nil_append out).symm (by rw [hwriter, List.append_nil])

end Bench

/-- **A program that ends well comes to its end at a bench** that delivers its data. -/
theorem Program.Ends.brings {α : Type} {p : Program α} {files : Files} {n : Nat} {rest : Option Bytes} {out : Bytes}
    {Q : α → Option Bytes → Bytes → Prop} (h : p.Ends files n rest out Q) {b : Bench} (hb : b.Gives files rest) :
    b.Brings files p out Q := by
  induction n generalizing p b rest out with
  | zero => exact h.elim
  | succ n ih =>
    cases p with
    | done a => exact ⟨a, rest, out, b, [], .refl _ _, h, hb.files, rfl, (List.append_nil _).symm⟩
    | loop l state next => exact (ih h hb).quietly (.enter (.refl _ _)) rfl
    | ask q next =>
      cases q with
      | poll =>
        refine (ih h hb).quietly (.ask ?_) rfl
        rw [Bench.answer_poll_freely hb.slot]
        exact .refl _ _
      | flush =>
        have hanswer : b.answer .flush = (.ok (), b) := Prod.ext hb.writer.flush rfl
        refine (ih h hb).quietly (.ask ?_) rfl
        rw [hanswer]
        exact .refl _ _
      | moveTo path =>
        have hb' : { b with path }.Gives files rest := ⟨hb.slot, hb.writer, hb.files, hb.reader⟩
        exact (ih h hb').quietly (.ask (.refl _ _)) rfl
      | files q =>
        obtain ⟨hq, h⟩ := h
        have hanswer : b.answer (.files q) = ((b.files.serve q).1, b) := by
          show ((b.files.serve q).1, { b with files := (b.files.serve q).2 }) = _
          rw [Files.serve_of_isReading b.files q hq]
        refine (ih h hb).quietly (.ask ?_) rfl
        rw [hanswer, hb.files]
        exact .refl _ _
      | read limit =>
        obtain ⟨data, rfl, hl, hagain, hend, hmore⟩ := h
        obtain ⟨events, ⟨hnil, hleads⟩ | ⟨k, hpos, hk, hle, hleft, hleads⟩⟩ := Bench.leads_read hb hl hagain
        · have hb' : { b with reader := ⟨events⟩ }.Gives files none := ⟨hb.slot, hb.writer, hb.files, nofun⟩
          exact (ih (hend hnil) hb').quietly hleads rfl
        · have hb' : { b with reader := ⟨events⟩ }.Gives files (some (data.drop k)) :=
            ⟨hb.slot, hb.writer, hb.files, fun _ hsome => Option.some.inj hsome ▸ hleft⟩
          exact (ih (hmore k hpos hk hle) hb').quietly hleads rfl
      | write data =>
        obtain ⟨hne, ⟨more, rfl⟩, hmore⟩ := h
        obtain ⟨w, hwrite, hopen, htold⟩ := hb.writer.write data
        have hb' : { b with writer := w }.Gives files rest := ⟨hb.slot, hopen, hb.files, hb.reader⟩
        have h := hmore data.length (List.length_pos_iff.2 hne) (Nat.le_refl _)
        rw [List.drop_left] at h
        refine (ih h hb').after (.ask ?_) rfl htold
        rw [Bench.answer_write_freely hwrite]
        exact .refl _ _
      | ownPath | resolve | connect | note | isArmed | interrupt | streams => exact h.elim

end LineShell
