import LineShell.Proofs.Flow.Ends
import LineShell.Proofs.Session.Roster
/-!
# Channels — the data between the stages of a run

The data that a run moves stands in a row of channels: the console input or a file before the first stage, a pipe before
each later one, and the console output behind the last (`Session.held`).  What a stage reads comes off the front of the
channel before it, and what it writes is put behind the one after it.
-/
namespace LineShell

inductive Supply where
  | console
  | file (id : NodeId) (data : Bytes)

def Supply.input : Supply → (front : Bytes) → Input
  | console, _ => .console
  | file id data, front => .file id (data.length - front.length)

theorem Supply.input_ne_pipe (supply : Supply) (front : Bytes) (n : Nat) : supply.input front ≠ .pipe n := by
  cases supply <;> nofun

namespace Session

/-- What is there for the first stage to read; a stage that reads a file leaves the console alone. -/
def Feeds (s u : Session) (front : Bytes) : Supply → Prop
  | .console => u.console.unread = front
  | .file id data => u.console.unread = s.console.unread ∧ u.files.data? id = some data ∧ front <:+ data

/-! ## Pipes -/

/-- What leaves the data where they are, and every pipe open or closed as it is. -/
structure Still (u v : Session) : Prop where
  console : v.console = u.console
  pipes : v.pipes = u.pipes
  capacity : v.pipeCapacity = u.pipeCapacity
  files : v.files = u.files

structure Carries (u v : Session) : Prop where
  size : v.pipes.size = u.pipes.size
  ends : ∀ n, (v.pipe n).readable = (u.pipe n).readable ∧ (v.pipe n).writable = (u.pipe n).writable
  capacity : v.pipeCapacity = u.pipeCapacity
  files : v.files = u.files

theorem Still.pipe {u v : Session} (h : Still u v) (n : Nat) : v.pipe n = u.pipe n := by
  rw [Session.pipe, Session.pipe, h.pipes]

theorem Still.carries {u v : Session} (h : Still u v) : Carries u v where
  size := by rw [h.pipes]
  ends := by
    intro n
    rw [h.pipe n]
    exact ⟨rfl, rfl⟩
  capacity := h.capacity
  files := h.files

theorem Feeds.of_unread {s u v : Session} {front : Bytes} {supply : Supply} (h : Feeds s u front supply)
    (hunread : v.console.unread = u.console.unread) (hfiles : v.files = u.files) : Feeds s v front supply := by
  cases supply with
  | console => exact hunread.trans h
  | file id data => exact ⟨hunread.trans h.1, hfiles ▸ h.2.1, h.2.2⟩

theorem Carries.modifyHeld (u : Session) {n : Nat} (g : Bytes → Bytes) (hn : n < u.pipes.size) :
    Carries u (u.modifyPipe n (fun p => { p with held := g p.held })) where
  size := by simp [modifyPipe]
  ends := by
    intro i
    rw [pipe_modifyPipe u _ hn]
    split <;> exact ⟨rfl, rfl⟩
  capacity := rfl
  files := rfl

/-! ## One stage changes -/

structure Touches (u w : Session) (id : Nat) (stage stage' : Stage) : Prop where
  before : u.stages[id]? = some stage
  after : w.stages[id]? = some stage'
  others : ∀ i, i ≠ id → w.stages[i]? = u.stages[i]?
  size : w.stages.size = u.stages.size

theorem Touches.of_eq {u v : Session} {id : Nat} {stage : Stage} (hs : u.stages[id]? = some stage)
    (hv : v.stages = u.stages) : Touches u v id stage stage :=
  ⟨hs, by rw [hv, hs], fun _ _ => by rw [hv], by rw [hv]⟩

theorem Touches.modifyStage {u v : Session} {id : Nat} {stage stage' : Stage} (h : Touches u v id stage stage')
    (g : Stage → Stage) : Touches u (v.modifyStage id g) id stage (g stage') where
  before := h.before
  after := by rw [Session.modifyStage, Array.getElem?_modify, if_pos rfl, h.after]; rfl
  others := by intro i hi; rw [Session.modifyStage, Array.getElem?_modify, if_neg (Ne.symm hi), h.others i hi]
  size := by rw [Session.modifyStage, Array.size_modify, h.size]

/-! ## The row of channels -/

def planOf (s : Session) (count : Nat) : Wiring.Plan := ⟨s.path, false, s.pipes.size, count⟩

def inputOf (s : Session) (supply : Supply) (front : Bytes) : Nat → Input
  | 0 => supply.input front
  | j + 1 => .pipe (s.pipes.size + j)

section

variable (s : Session) (count : Nat)

theorem output_last {j : Nat} (h : j + 1 = count) : (s.planOf count).output j = .console := by
  simp [Wiring.Plan.output, planOf, h]

theorem output_of_lt {j : Nat} (h : j + 1 < count) : (s.planOf count).output j = .pipe (s.pipes.size + j) := by
  simp [Wiring.Plan.output, planOf, h]

/-- What stands before a stage of the run that is started in `s`, and behind the last one; `front` is what the first has
not read so far. -/
def held (front : Bytes) (u : Session) : Nat → Bytes
  | 0 => front
  | j + 1 => if j + 1 = count then u.console.output.bytes else (u.pipe (s.pipes.size + j)).held

end

variable {s u v : Session} {count : Nat} {front : Bytes} {supply : Supply} {id j limit most : Nat}

theorem held_succ (h : j + 1 < count) : s.held count front u (j + 1) = (u.pipe (s.pipes.size + j)).held :=
  if_neg (Nat.ne_of_lt h)

theorem held_last (h : j + 1 = count) : s.held count front u (j + 1) = u.console.output.bytes := if_pos h

theorem held_of_still (h : Still u v) (i : Nat) : s.held count front v i = s.held count front u i := by
  cases i with
  | zero => rfl
  | succ i => rw [held, held, h.console, h.pipe]

theorem held_modifyPipe {g : Pipe → Pipe} (hj : j + 1 < count) (hn : s.pipes.size + j < u.pipes.size) (i : Nat)
    (hi : i ≤ count) :
    s.held count front (u.modifyPipe (s.pipes.size + j) g) i =
      if i = j + 1 then (g (u.pipe (s.pipes.size + j))).held else s.held count front u i := by
  cases i with
  | zero => rfl
  | succ i =>
    by_cases hij : i = j
    · subst hij
      rw [if_pos rfl, held_succ hj, pipe_modifyPipe u g hn, if_pos rfl]
    · rw [if_neg (by omega)]
      by_cases hlast : i + 1 = count
      · rw [held_last hlast, held_last hlast]
        rfl
      · rw [held_succ (by omega), held_succ (by omega), pipe_modifyPipe u g hn, if_neg (by omega)]

/-- **A stage has read a piece** of `k` bytes off the front of the channel before it.  It has read nothing only if nothing
stands there and nobody can add to it. -/
structure Picks (s : Session) (count : Nat) (supply : Supply) (output : Output) (id j k : Nat) (front front' : Bytes)
    (stage : Stage) (u v : Session) : Prop where
  size : k ≤ (s.held count front u j).length
  dry : k = 0 → s.held count front u j = [] ∧ ∀ i, j = i + 1 → (u.pipe (s.pipes.size + i)).writable = false
  held : ∀ i ≤ count, s.held count front' v i =
    if i = j then (s.held count front u i).drop k else s.held count front u i
  feeds : Feeds s v front' supply
  touches : Touches u v id stage { stage with streams := ⟨s.inputOf supply front' j, output⟩ }
  carries : Carries u v

theorem with_streams {stage : Stage} {streams : Streams} (h : stage.streams = streams) :
    { stage with streams } = stage := by rw [← h]

section Reads

variable {reply : Except Fault Bytes} {output : Output} {stage : Stage}

theorem picks_console (hs : u.stages[id]? = some stage) (hstreams : stage.streams = ⟨.console, output⟩)
    (hfeeds : Feeds s u front .console) (hl : 0 < limit)
    (h : u.readInput? id stage.streams limit most = some (reply, v)) : ∃ k front',
      reply = .ok (front.take k) ∧ k ≤ limit ∧ Picks s count .console output id 0 k front front' stage u v := by
  obtain rfl : u.console.unread = front := hfeeds
  rw [hstreams] at h
  cases h
  refine ⟨min limit u.console.unread.length, u.console.unread.drop (min limit u.console.unread.length), ?_,
    Nat.min_le_left _ _, Nat.min_le_right _ _, fun hk => ⟨?_, nofun⟩, fun i _ => ?_, ?_, ?_, ⟨rfl, fun _ => ⟨rfl, rfl⟩, rfl,
    rfl⟩⟩
  · rw [← List.take_eq_take_min]
  · show u.console.unread = []
    exact List.length_eq_zero_iff.1 (by omega)
  · cases i <;> rfl
  · exact List.drop_eq_drop_min
  · exact (with_streams hstreams).symm ▸ Touches.of_eq hs rfl

theorem picks_file {file : NodeId} {data : Bytes} (hs : u.stages[id]? = some stage)
    (hstreams : stage.streams = ⟨Supply.input (.file file data) front, output⟩) (hfeeds : Feeds s u front (.file file data))
    (hl : 0 < limit) (h : u.readInput? id stage.streams limit most = some (reply, v)) : ∃ k front',
      reply = .ok (front.take k) ∧ k ≤ limit ∧ Picks s count (.file file data) output id 0 k front front' stage u v := by
  obtain ⟨hunread, hdata, hsuffix⟩ := hfeeds
  have hread : u.files.readAt file (data.length - front.length) limit = .ok (front.take limit) := by
    rw [Files.readAt_of_data? hdata, ← List.suffix_iff_eq_drop.1 hsuffix]
  rw [hstreams] at h
  simp only [readInput?, Supply.input, hread] at h
  cases h
  have hle := hsuffix.length_le
  refine ⟨min limit front.length, front.drop (min limit front.length), ?_, Nat.min_le_left _ _, Nat.min_le_right _ _,
    fun hk => ⟨?_, nofun⟩, fun i _ => ?_, ⟨hunread, hdata, (List.drop_suffix _ _).trans hsuffix⟩, ?_,
    ⟨rfl, fun _ => ⟨rfl, rfl⟩, rfl, rfl⟩⟩
  · rw [← List.take_eq_take_min]
  · show front = []
    exact List.length_eq_zero_iff.1 (by omega)
  · cases i <;> rfl
  · have hoffset : data.length - (front.drop (min limit front.length)).length =
        data.length - front.length + (front.take limit).length := by
      rw [List.length_drop, List.length_take]
      omega
    rw [inputOf, Supply.input, hoffset]
    exact (Touches.of_eq hs rfl).modifyStage _

theorem picks_pipe (hs : u.stages[id]? = some stage) (hstreams : stage.streams = ⟨.pipe (s.pipes.size + j), output⟩)
    (hfeeds : Feeds s u front supply) (hj : j + 1 < count) (hn : s.pipes.size + j < u.pipes.size) (hl : 0 < limit)
    (h : u.readInput? id stage.streams limit most = some (reply, v)) : ∃ k front',
      reply = .ok ((s.held count front u (j + 1)).take k) ∧ k ≤ limit ∧
        Picks s count supply output id (j + 1) k front front' stage u v := by
  have hheld : s.held count front u (j + 1) = (u.pipe (s.pipes.size + j)).held := held_succ hj
  have hsame := with_streams hstreams
  rw [hstreams] at h
  simp only [readInput?, Nat.ne_of_gt hl, if_false] at h
  by_cases hempty : (u.pipe (s.pipes.size + j)).held.isEmpty = true
  · rw [if_pos hempty] at h
    split at h
    · cases h
    · next hwr =>
      cases h
      have hnil : s.held count front u (j + 1) = [] := hheld.trans (List.isEmpty_iff.1 hempty)
      refine ⟨0, front, rfl, Nat.zero_le _, Nat.zero_le _, fun _ => ⟨hnil, ?_⟩, fun i _ => ?_, hfeeds,
        hsame.symm ▸ Touches.of_eq hs rfl, ⟨rfl, fun _ => ⟨rfl, rfl⟩, rfl, rfl⟩⟩
      · intro i hi
        cases hi
        simpa using hwr
      · split <;> rfl
  · rw [if_neg hempty] at h
    cases h
    have hpos : 0 < (s.held count front u (j + 1)).length := by
      rw [hheld, List.length_pos_iff]
      exact fun hnil => hempty (List.isEmpty_iff.2 hnil)
    refine ⟨min (min limit (most + 1)) (s.held count front u (j + 1)).length, front, ?_, by omega, Nat.min_le_right _ _,
      fun hk => absurd hk (by omega), fun i hi => ?_, hfeeds.of_unread rfl rfl,
      hsame.symm ▸ Touches.of_eq hs rfl, Carries.modifyHeld u (fun b => b.drop (min limit (most + 1))) hn⟩
    · rw [← List.take_eq_take_min, hheld]
    · rw [held_modifyPipe hj hn i hi]
      by_cases hij : i = j + 1
      · rw [if_pos hij, if_pos hij, hij, ← List.drop_eq_drop_min, hheld]
      · rw [if_neg hij, if_neg hij]

/-- **A read takes a piece off the front of the channel before the stage.** -/
theorem picks_of_readInput? (hs : u.stages[id]? = some stage) (hstreams : stage.streams = ⟨s.inputOf supply front j, output⟩)
    (hfeeds : Feeds s u front supply) (hj : j < count) (hw : ∀ i, j = i + 1 → s.pipes.size + i < u.pipes.size)
    (hl : 0 < limit) (h : u.readInput? id stage.streams limit most = some (reply, v)) : ∃ k front',
      reply = .ok ((s.held count front u j).take k) ∧ k ≤ limit ∧
        Picks s count supply output id j k front front' stage u v := by
  cases j with
  | succ j => exact picks_pipe hs hstreams hfeeds hj (hw j rfl) hl h
  | zero =>
    cases supply with
    | console => exact picks_console hs hstreams hfeeds hl h
    | file file data => exact picks_file hs hstreams hfeeds hl h

end Reads

/-- **A write puts a piece behind the channel after the stage**, if someone reads there. -/
theorem writeOutput?_held (front : Bytes) {reply : Except Fault Nat} {input : Input} {data : Bytes} (hj : j < count)
    (hw : j + 1 < count → s.pipes.size + j < u.pipes.size)
    (hr : j + 1 < count → (u.pipe (s.pipes.size + j)).readable = true) (hd : data ≠ [])
    (h : u.writeOutput? id ⟨input, (s.planOf count).output j⟩ data most = some (reply, v)) :
    ∃ k, 0 < k ∧ k ≤ data.length ∧ reply = .ok k ∧
      (∀ i ≤ count, s.held count front v i =
        if i = j + 1 then s.held count front u i ++ data.take k else s.held count front u i) ∧
      v.stages = u.stages ∧ v.console.unread = u.console.unread ∧ Carries u v := by
  have hlen : 0 < data.length := List.length_pos_iff.2 hd
  by_cases hlast : j + 1 = count
  · rw [writeOutput?, output_last s count hlast] at h
    cases h
    refine ⟨data.length, hlen, Nat.le_refl _, rfl, fun i _ => ?_, rfl, rfl, ⟨rfl, fun _ => ⟨rfl, rfl⟩, rfl, rfl⟩⟩
    cases i with
    | zero => rfl
    | succ i =>
      by_cases hij : i = j
      · subst hij
        rw [if_pos rfl, held_last hlast, held_last hlast, List.take_length]
        exact Transcript.bytes_write _ _
      · rw [if_neg (by omega), held, held, if_neg (by omega), if_neg (by omega)]
        rfl
  · have hlt : j + 1 < count := by omega
    have hn := hw hlt
    simp only [writeOutput?, output_of_lt s count hlt, hr hlt, Bool.not_true, Bool.false_eq_true, if_false] at h
    split at h
    · cases h
    · next hroom =>
      cases h
      generalize u.pipeCapacity - (u.pipe (s.pipes.size + j)).held.length = room at hroom ⊢
      refine ⟨(data.take (min room (most + 1))).length, ?_, List.length_take_le' _ _, rfl, fun i hi => ?_, rfl, rfl,
        Carries.modifyHeld u (fun b => b ++ data.take (min room (most + 1))) hn⟩
      · rw [List.length_take]
        omega
      · rw [held_modifyPipe hlt hn i hi]
        by_cases hij : i = j + 1
        · subst hij
          rw [if_pos rfl, if_pos rfl, held_succ hlt, List.length_take, ← List.take_eq_take_min]
        · rw [if_neg hij, if_neg hij]

/-- What closes the pipe before a stage for reading and the pipe after it for writing. -/
structure Shuts (s : Session) (count : Nat) (j : Nat) (u v : Session) : Prop where
  stages : v.stages = u.stages
  size : v.pipes.size = u.pipes.size
  capacity : v.pipeCapacity = u.pipeCapacity
  console : v.console = u.console
  files : v.files = u.files
  pipe : ∀ i, i + 1 < count → v.pipe (s.pipes.size + i) =
    ⟨(u.pipe (s.pipes.size + i)).held, if i + 1 = j then false else (u.pipe (s.pipes.size + i)).readable,
      if i = j then false else (u.pipe (s.pipes.size + i)).writable⟩

theorem held_of_shuts (h : Shuts s count j u v) {i : Nat} (hi : i ≤ count) :
    s.held count front v i = s.held count front u i := by
  cases i with
  | zero => rfl
  | succ i =>
    by_cases hlast : i + 1 = count
    · rw [held_last hlast, held_last hlast, h.console]
    · rw [held_succ (by omega), held_succ (by omega), h.pipe i (by omega)]

theorem size_modifyPipe (u : Session) (n : Nat) (g : Pipe → Pipe) : (u.modifyPipe n g).pipes.size = u.pipes.size := by
  simp [modifyPipe]

theorem closeEnds_input (u : Session) (supply : Supply) (front : Bytes) (output : Output) :
    u.closeEnds ⟨supply.input front, output⟩ = u.closeEnds ⟨.console, output⟩ := by cases supply <;> rfl

theorem shuts_closeEnds (supply : Supply) (front : Bytes) (hj : j < count) (hw : u.pipes.size = s.pipes.size + (count - 1)) :
    Shuts s count j u (u.closeEnds ⟨s.inputOf supply front j, (s.planOf count).output j⟩) := by
  by_cases hlast : j + 1 = count
  · rw [output_last s count hlast]
    cases j with
    | zero =>
      rw [inputOf, closeEnds_input]
      exact ⟨rfl, rfl, rfl, rfl, rfl, fun i hi => absurd hi (by omega)⟩
    | succ j =>
      refine ⟨rfl, size_modifyPipe _ _ _, rfl, rfl, rfl, fun i hi => ?_⟩
      show (u.modifyPipe (s.pipes.size + j) (fun p => { p with readable := false })).pipe (s.pipes.size + i) = _
      rw [pipe_modifyPipe u _ (by omega)]
      by_cases hij : i = j
      · subst hij
        rw [if_pos rfl, if_pos rfl, if_neg (by omega)]
      · rw [if_neg (by omega), if_neg (by omega), if_neg (by omega)]
  · rw [output_of_lt s count (by omega)]
    cases j with
    | zero =>
      rw [inputOf, closeEnds_input]
      refine ⟨rfl, size_modifyPipe _ _ _, rfl, rfl, rfl, fun i hi => ?_⟩
      show (u.modifyPipe (s.pipes.size + 0) (fun p => { p with writable := false })).pipe (s.pipes.size + i) = _
      rw [pipe_modifyPipe u _ (by omega)]
      by_cases hi0 : i = 0
      · subst hi0
        rw [if_pos rfl, if_neg (by omega), if_pos rfl]
      · rw [if_neg (by omega), if_neg (by omega), if_neg (by omega)]
    | succ j =>
      refine ⟨rfl, (size_modifyPipe _ _ _).trans (size_modifyPipe _ _ _), rfl, rfl, rfl, fun i hi => ?_⟩
      show ((u.modifyPipe (s.pipes.size + j) (fun p => { p with readable := false })).modifyPipe
        (s.pipes.size + (j + 1)) (fun p => { p with writable := false })).pipe (s.pipes.size + i) = _
      rw [pipe_modifyPipe _ _ (by rw [size_modifyPipe]; omega), pipe_modifyPipe u _ (by omega)]
      by_cases hij : i = j + 1
      · subst hij
        rw [if_pos rfl, if_neg (by omega), if_neg (by omega), if_pos rfl]
      · rw [if_neg (by omega)]
        by_cases hij' : i = j
        · subst hij'
          rw [if_pos rfl, if_pos rfl, if_neg hij]
        · rw [if_neg (by omega), if_neg (by omega), if_neg hij]

end Session
end LineShell
