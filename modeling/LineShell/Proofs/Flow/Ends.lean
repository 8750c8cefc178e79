import LineShell.Command.Checked
/-!
# Ends — programs that come to an end

`Program.Ends files n p rest out Q` says that a program comes to its end in fewer than `n` steps, whatever pieces its
input comes in, however often a read is cut short and however much of each write is taken: it has read all it wants of
`rest` and written all it wants of `out`, and `Q` holds of its result and of what is left of the two.  After the first
read that delivers nothing, nothing more can be read, and `rest` is `none`.  It is asked for no stop and meets no fault,
and of the files it asks only what leaves them as they are.  A program may write only what is next in `out`; so `out` is
settled before any schedule is.
-/
namespace LineShell

theorem Files.readAt_of_data? {files : Files} {id : NodeId} {data : Bytes} (h : files.data? id = some data)
    (offset limit : Nat) : files.readAt id offset limit = .ok ((data.drop offset).take limit) := by
  unfold Files.data? at h
  split at h
  · next hnode =>
    cases h
    rw [Files.readAt, hnode]
    rfl
  · cases h

namespace Program

variable {α β : Type} {files : Files}

def Retries (limit : Nat) (next : Except Fault Bytes → Program α) : Prop :=
  ∃ l state again, next (.error .interrupted) = loop l state again ∧ enter l state again = ask (.read limit) next

/-- **A program ends well**, within a number of steps, on some input and for some output. -/
def Ends (files : Files) :
    Nat → Program α → (rest : Option Bytes) → (out : Bytes) → (α → Option Bytes → Bytes → Prop) → Prop
  | 0, _, _, _, _ => False
  | _ + 1, done a, rest, out, Q => Q a rest out
  | n + 1, ask q next, rest, out, Q =>
    match q, next with
    | .poll, next => Ends files n (next false) rest out Q
    -- Nothing is read at the end of the input only.
    | .read limit, next =>
      ∃ data, rest = some data ∧ 0 < limit ∧ Retries limit next ∧ (data = [] → Ends files n (next (.ok [])) none out Q) ∧
        ∀ k, 0 < k → k ≤ limit → k ≤ data.length → Ends files n (next (.ok (data.take k))) (some (data.drop k)) out Q
    | .write data, next =>
      data ≠ [] ∧ data <+: out ∧ ∀ k, 0 < k → k ≤ data.length → Ends files n (next (.ok k)) rest (out.drop k) Q
    | .flush, next => Ends files n (next (.ok ())) rest out Q
    | .moveTo _, next => Ends files n (next ()) rest out Q
    | .files q, next => q.isReading = true ∧ Ends files n (next (files.serve q).1) rest out Q
    | _, _ => False
  | n + 1, loop l state next, rest, out, Q => Ends files n (enter l state next) rest out Q

variable {n m : Nat} {rest : Option Bytes} {data out : Bytes} {Q : α → Option Bytes → Bytes → Prop}

theorem Ends.mono {Q' : α → Option Bytes → Bytes → Prop} (hQ : ∀ a rest out, Q a rest out → Q' a rest out)
    {p : Program α} (hn : n ≤ m) (h : Ends files n p rest out Q) : Ends files m p rest out Q' := by
  induction n generalizing p rest out m with
  | zero => exact h.elim
  | succ n ih =>
    obtain ⟨m, rfl⟩ : ∃ k, m = k + 1 := ⟨m - 1, by omega⟩
    have ih : ∀ {p : Program α} {rest out}, Ends files n p rest out Q → Ends files m p rest out Q' :=
      fun h => ih (Nat.le_of_succ_le_succ hn) h
    cases p with
    | done a => exact hQ a rest out h
    | loop l state next => exact ih h
    | ask q next =>
      cases q with
      | poll | flush | moveTo => exact ih h
      | files q => exact ⟨h.1, ih h.2⟩
      | read limit =>
        obtain ⟨data, rfl, hl, hagain, hend, hmore⟩ := h
        exact ⟨data, rfl, hl, hagain, fun hnil => ih (hend hnil), fun k h0 hl hk => ih (hmore k h0 hl hk)⟩
      | write data => exact ⟨h.1, h.2.1, fun k h0 hk => ih (h.2.2 k h0 hk)⟩
      | ownPath | resolve | connect | note | isArmed | interrupt | streams => exact h.elim

theorem Ends.le {p : Program α} (h : Ends files n p rest out Q) (hn : n ≤ m) : Ends files m p rest out Q :=
  h.mono (fun _ _ _ => id) hn

theorem Ends.unread {p : Program α} (h : Ends files n p none out Q) (data : Bytes) :
    Ends files n p (some data) out (fun a rest out => rest = some data ∧ Q a none out) := by
  induction n generalizing p out with
  | zero => exact h.elim
  | succ n ih =>
    cases p with
    | done a => exact ⟨rfl, h⟩
    | loop l state next => exact ih h
    | ask q next =>
      cases q with
      | poll | flush | moveTo => exact ih h
      | files q => exact ⟨h.1, ih h.2⟩
      | read limit =>
        obtain ⟨_, hnone, -⟩ := h
        cases hnone
      | write data => exact ⟨h.1, h.2.1, fun k h0 hk => ih (h.2.2 k h0 hk)⟩
      | ownPath | resolve | connect | note | isArmed | interrupt | streams => exact h.elim

theorem enter_bind (l : Loop) (state : l.State) (next : Except Failure l.Value → Program α) (f : α → Program β) :
    (enter l state next).bind f = enter l state (fun result => (next result).bind f) := by
  refine (bind_assoc (l.turn state : Program (Except Failure (Turn l.State l.Value))) _ f).trans ?_
  refine congrArg (Program.bind (l.turn state)) (funext fun result => ?_)
  match result with
  | .ok (.again _) => rfl
  | .ok (.finished _) => rfl
  | .error _ => rfl

theorem Retries.bind {limit : Nat} {next : Except Fault Bytes → Program α} (h : Retries limit next)
    (f : α → Program β) : Retries limit (fun reply => (next reply).bind f) := by
  obtain ⟨l, state, again, hloop, henter⟩ := h
  refine ⟨l, state, fun result => (again result).bind f, congrArg (Program.bind · f) hloop, ?_⟩
  rw [← enter_bind, henter]
  rfl

/-- **A program ends that goes on with the result of one that ends.** -/
theorem Ends.bind {Q : β → Option Bytes → Bytes → Prop} {p : Program α} {f : α → Program β}
    (h : Ends files n p rest out (fun a rest out => Ends files m (f a) rest out Q)) :
    Ends files (n + m) (p.bind f) rest out Q := by
  induction n generalizing p rest out with
  | zero => exact h.elim
  | succ n ih =>
    rw [Nat.add_right_comm]
    cases p with
    | done a =>
      have h : Ends files m (f a) rest out Q := h
      exact h.le (by omega)
    | loop l state next =>
      have h : Ends files n (enter l state next) rest out (fun a rest out => Ends files m (f a) rest out Q) := h
      show Ends files (n + m) (enter l state (fun result => (next result).bind f)) rest out Q
      rw [← enter_bind]
      exact ih h
    | ask q next =>
      cases q with
      | poll | flush | moveTo => exact ih h
      | files q => exact ⟨h.1, ih h.2⟩
      | read limit =>
        obtain ⟨data, rfl, hl, hagain, hend, hmore⟩ := h
        exact ⟨data, rfl, hl, hagain.bind f, fun hnil => ih (hend hnil), fun k h0 hl hk => ih (hmore k h0 hl hk)⟩
      | write data => exact ⟨h.1, h.2.1, fun k h0 hk => ih (h.2.2 k h0 hk)⟩
      | ownPath | resolve | connect | note | isArmed | interrupt | streams => exact h.elim

/-! ## Loops -/

variable {γ : Type} {R : γ → Option Bytes → Bytes → Prop}

theorem ends_take {limit : Nat} {next : Except Failure Loop.take.Value → Program γ} (hl : 0 < limit)
    (hend : data = [] → Ends files n (next (.ok ([], .input))) none out R)
    (hmore : ∀ k, 0 < k → k ≤ limit → k ≤ data.length →
      Ends files n (next (.ok (data.take k, .input))) (some (data.drop k)) out R) :
    Ends files (n + 2) (loop .take (.input, limit) next) (some data) out R :=
  ⟨data, rfl, hl, ⟨.take, (.input, limit), next, rfl, rfl⟩, hend, hmore⟩

theorem ends_take_file {id : NodeId} {offset limit : Nat} {next : Except Failure Loop.take.Value → Program γ}
    (hdata : files.data? id = some data)
    (h : Ends files n (next (.ok ((data.drop offset).take limit,
      .file id (offset + ((data.drop offset).take limit).length)))) rest out R) :
    Ends files (n + 2) (loop .take (.file id offset, limit) next) rest out R := by
  refine ⟨rfl, ?_⟩
  show Ends files n (Program.bind (Loop.takeReply (.file id offset) limit (files.readAt id offset limit)) _) rest out R
  rw [Files.readAt_of_data? hdata]
  exact h

theorem ends_put (next : Except Failure Loop.put.Value → Program γ) :
    ∀ (size : Nat) (data : Bytes), data.length ≤ size → Ends files n (next (.ok .output)) rest out R →
      Ends files (n + 2 * size + 1) (loop .put (.output, data) next) rest (data ++ out) R
  | size, [], _, h => h.le (by omega)
  | 0, b :: data, hlen, _ => absurd hlen (by simp)
  | size + 1, b :: data, hlen, h => by
    refine ⟨List.cons_ne_nil b data, List.prefix_append _ _, fun k h0 hk => ?_⟩
    obtain ⟨k, rfl⟩ : ∃ j, k = j + 1 := ⟨k - 1, by omega⟩
    have hle : ((b :: data).drop (k + 1)).length ≤ size := by
      rw [List.length_drop]
      omega
    have hrest := ends_put next size ((b :: data).drop (k + 1)) hle h
    rw [← List.drop_append_of_le_length hk] at hrest
    exact hrest

theorem enter_gather (held : Transcript) (next : Except Failure Loop.gather.Value → Program γ) :
    enter .gather held next = ask .poll (fun
      | true => next (.error .stopped)
      | false => loop .take (.input, chunkSize) (fun
        | .ok (data, _) => if data.isEmpty then next (.ok held.bytes) else loop .gather (held.write data) next
        | .error e => next (.error e))) := by
  refine congrArg (ask .poll) (funext fun stop => ?_)
  cases stop with
  | true => rfl
  | false =>
    refine congrArg (loop .take (.input, chunkSize)) (funext fun result => ?_)
    match result with
    | .error e => rfl
    | .ok ([], _) => rfl
    | .ok (b :: data, _) => rfl

/-- **Gathering the input** gives all of it. -/
theorem ends_gather (next : Except Failure Loop.gather.Value → Program γ) :
    ∀ (size : Nat) (held : Transcript) (data : Bytes), data.length ≤ size →
      Ends files n (next (.ok (held.bytes ++ data))) none out R →
      Ends files (n + 4 * size + 4) (loop .gather held next) (some data) out R
  | size, held, data, hlen, h => by
    show Ends files (n + 4 * size + 3) (enter .gather held next) (some data) out R
    rw [enter_gather]
    refine ends_take (show 0 < chunkSize by decide) (fun hr => ?_) (fun k h0 hl hk => ?_)
    · subst hr
      rw [List.append_nil] at h
      exact h.le (by omega)
    · obtain ⟨size, rfl⟩ : ∃ j, size = j + 1 := ⟨size - 1, by omega⟩
      have hne : (data.take k).isEmpty = false := by
        rw [List.isEmpty_eq_false_iff, ← List.length_pos_iff, List.length_take]
        omega
      have hle : (data.drop k).length ≤ size := by
        rw [List.length_drop]
        omega
      have hmore := ends_gather next size (held.write (data.take k)) (data.drop k) hle
      rw [Transcript.bytes_write, List.append_assoc, List.take_append_drop] at hmore
      simp only [hne]
      exact (hmore h).le (by omega)

theorem enter_copy (source : Source) (sink : Sink) (moved : Nat) (next : Except Failure Loop.copy.Value → Program γ) :
    enter .copy (source, sink, moved) next = ask .poll (fun
      | true => next (.error .stopped)
      | false => loop .take (source, chunkSize) (fun
        | .ok (data, source) =>
          if data.isEmpty then next (.ok (moved, sink))
          else ask .poll (fun
            | true => next (.error .stopped)
            | false => loop .put (sink, data) (fun
              | .ok sink => loop .copy (source, sink, moved + data.length) next
              | .error e => next (.error e)))
        | .error e => next (.error e))) := by
  refine congrArg (ask .poll) (funext fun stop => ?_)
  cases stop with
  | true => rfl
  | false =>
    refine congrArg (loop .take (source, chunkSize)) (funext fun result => ?_)
    match result with
    | .error e => rfl
    | .ok ([], _) => rfl
    | .ok (b :: data, source) =>
      refine congrArg (ask .poll) (funext fun stop => ?_)
      cases stop with
      | true => rfl
      | false =>
        refine congrArg (loop .put (sink, b :: data)) (funext fun result => ?_)
        match result with
        | .ok sink => rfl
        | .error e => rfl

/-- **Copying the input to the output** writes all of it. -/
theorem ends_copy (next : Except Failure Loop.copy.Value → Program γ)
    (h : ∀ moved, Ends files n (next (.ok (moved, .output))) none out R) :
    ∀ (size moved : Nat) (data : Bytes), data.length ≤ size →
      Ends files (n + 8 * size + 4) (loop .copy (.input, .output, moved) next) (some data) (data ++ out) R
  | size, moved, data, hlen => by
    show Ends files (n + 8 * size + 3) (enter .copy (.input, .output, moved) next) (some data) (data ++ out) R
    rw [enter_copy]
    refine ends_take (show 0 < chunkSize by decide) (fun hr => ?_) (fun k h0 hl hk => ?_)
    · subst hr
      exact (h moved).le (by omega)
    · obtain ⟨j, rfl⟩ : ∃ j, size = j + k := ⟨size - k, by omega⟩
      have hne : (data.take k).isEmpty = false := by
        rw [List.isEmpty_eq_false_iff, ← List.length_pos_iff, List.length_take]
        omega
      have hle : (data.drop k).length ≤ j := by
        rw [List.length_drop]
        omega
      have hmore := ends_copy next h j (moved + (data.take k).length) (data.drop k) hle
      have hput := ends_put (fun
        | .ok sink => loop .copy (.input, sink, moved + (data.take k).length) next
        | .error e => next (.error e)) k (data.take k) (List.length_take_le _ _) hmore
      rw [← List.append_assoc, List.take_append_drop] at hput
      simp only [hne]
      exact Ends.le (n := n + 8 * j + 4 + 2 * k + 1 + 1) hput (by omega)

/-- **Copying a file** puts all of it from an offset on.  `P` says of a sink what is still to be put there, and of the
output what is still owed. -/
theorem ends_copy_file {id : NodeId} (hdata : files.data? id = some data) {P : Bytes → Sink → Bytes → Prop}
    (next : Except Failure Loop.copy.Value → Program γ)
    (hput : ∀ {piece left sink out}, piece ≠ [] → P (piece ++ left) sink out → ∃ sink' out', P left sink' out' ∧
      ∀ {n} (next : Except Failure Loop.put.Value → Program γ), Ends files n (next (.ok sink')) rest out' R →
        ∃ m, Ends files m (loop .put (sink, piece) next) rest out R)
    (hend : ∀ moved {sink out}, P [] sink out → ∃ n, Ends files n (next (.ok (moved, sink))) rest out R) :
    ∀ (size offset moved : Nat) {sink : Sink} {out : Bytes}, (data.drop offset).length ≤ size →
      P (data.drop offset) sink out → ∃ n, Ends files n (loop .copy (.file id offset, sink, moved) next) rest out R
  | size, offset, moved, sink, out, hlen, hP => by
    -- What is read is nothing only where nothing is left.
    by_cases hnil : data.drop offset = []
    · rw [hnil] at hP
      obtain ⟨n, hn⟩ := hend moved hP
      refine ⟨n + 2 + 1 + 1, ?_⟩
      show Ends files (n + 2 + 1) (enter .copy (.file id offset, sink, moved) next) rest out R
      rw [enter_copy]
      refine ends_take_file hdata ?_
      rw [hnil]
      exact hn
    · have hpos : 0 < (data.drop offset).length := List.length_pos_iff.2 hnil
      generalize hpiece : (data.drop offset).take chunkSize = piece
      have hlength : piece.length = min chunkSize (data.drop offset).length := by rw [← hpiece, List.length_take]
      have hchunk : 0 < chunkSize := by decide
      have hne : piece ≠ [] := List.length_pos_iff.1 (by omega)
      have hsplit : data.drop offset = piece ++ data.drop (offset + piece.length) := by
        rw [← List.drop_drop, hlength, ← List.drop_eq_drop_min, ← hpiece, List.take_append_drop]
      rw [hsplit] at hP
      obtain ⟨sink', out', hP', hstep⟩ := hput hne hP
      obtain ⟨size, rfl⟩ : ∃ k, size = k + 1 := ⟨size - 1, by omega⟩
      have hle : (data.drop (offset + piece.length)).length ≤ size := by
        rw [List.length_drop] at hpos hlen hlength ⊢
        omega
      obtain ⟨n, hn⟩ := ends_copy_file hdata next hput hend size (offset + piece.length) (moved + piece.length) hle hP'
      obtain ⟨m, hm⟩ := hstep (fun
        | .ok sink => loop .copy (.file id (offset + piece.length), sink, moved + piece.length) next
        | .error e => next (.error e)) hn
      refine ⟨m + 1 + 2 + 1 + 1, ?_⟩
      show Ends files (m + 1 + 2 + 1) (enter .copy (.file id offset, sink, moved) next) rest out R
      rw [enter_copy]
      refine ends_take_file hdata ?_
      rw [hpiece]
      simp only [List.isEmpty_eq_false_iff.2 hne]
      exact hm

end Program
end LineShell
