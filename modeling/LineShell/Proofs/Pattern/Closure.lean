import LineShell.Pattern.Machine
import Mathlib
/-!
# Closure — following what takes no character

Places in a row that can be reached from others without a character (`Reached`) are followed with the places that still
wait (`Exploring`): each is entered once, and what it leads to is waited for.  The rounds that following is given are
enough to come to an end, so it finds everything that is reached, and nothing else (`explored_of_follow`).
-/
namespace LineShell
namespace Pattern

variable {code : Array Instruction} {point : Nat} {before after : Option Char} {origin waiting : List Nat} {i j : Nat}
  {r : Reach}

/-- The places that an instruction leads to without a character. -/
def onward (code : Array Instruction) (before after : Option Char) (i : Nat) : List Nat :=
  match code[i]? with
  | some (.fork next) => next
  | some (.look l next) => if l.holds before after then [next] else []
  | _ => []

def takerAt (code : Array Instruction) (i : Nat) : List (CharSet × Nat) :=
  match code[i]? with
  | some (.take s next) => [(s, next)]
  | _ => []

def acceptsAt (code : Array Instruction) (i : Nat) : Bool :=
  match code[i]? with
  | some .accept => true
  | _ => false

/-- **What is reached** from some places without a character. -/
inductive Reached (code : Array Instruction) (before after : Option Char) (origin : List Nat) : Nat → Prop
  | start {i : Nat} (h : i ∈ origin) : Reached code before after origin i
  | on {i j : Nat} (h : Reached code before after origin i) (hj : j ∈ onward code before after i) :
      Reached code before after origin j

def Reach.Entered (r : Reach) (point i : Nat) : Prop := r.marks[i]? = some point

instance : Decidable (r.Entered point i) := inferInstanceAs (Decidable (_ = _))

def Reach.enter (r : Reach) (code : Array Instruction) (point i : Nat) : Reach where
  marks := r.marks.setIfInBounds i point
  takers := takerAt code i ++ r.takers
  accepted := acceptsAt code i || r.accepted

theorem follow_cons_of_entered {fuel : Nat} (h : r.Entered point i) :
    follow code point before after (fuel + 1) (i :: waiting) r = follow code point before after fuel waiting r := by
  rw [follow, if_pos (by simpa [Reach.Entered] using h)]

theorem follow_cons_of_not_entered {fuel : Nat} (h : ¬ r.Entered point i) :
    follow code point before after (fuel + 1) (i :: waiting) r =
      follow code point before after fuel (onward code before after i ++ waiting) (r.enter code point i) := by
  rw [follow, if_neg (by simpa [Reach.Entered] using h), onward, Reach.enter, takerAt, acceptsAt]
  cases code[i]? with
  | none => rfl
  | some instruction =>
    cases instruction with
    | look l next =>
      dsimp only
      split <;> rfl
    | take | fork | accept => rfl

/-- **Places are being followed** that are reached from some others: of what is entered everything it leads to is
entered too, or waits. -/
structure Exploring (code : Array Instruction) (point : Nat) (before after : Option Char) (origin waiting : List Nat)
    (r : Reach) : Prop where
  size : r.marks.size = code.size
  marks_le : ∀ i m : Nat, r.marks[i]? = some m → m ≤ point
  sound : ∀ i : Nat, i ∈ waiting ∨ r.Entered point i → Reached code before after origin i
  covers : ∀ i ∈ origin, i < code.size → r.Entered point i ∨ i ∈ waiting
  closed : ∀ i j : Nat, r.Entered point i → j ∈ onward code before after i → j < code.size → r.Entered point j ∨ j ∈ waiting
  takers : ∀ s next, (s, next) ∈ r.takers ↔ ∃ i, r.Entered point i ∧ code[i]? = some (.take s next)
  accepted : r.accepted = true ↔ ∃ i, r.Entered point i ∧ code[i]? = some .accept

theorem entered_enter_iff (hsize : r.marks.size = code.size) :
    (r.enter code point i).Entered point j ↔ r.Entered point j ∨ j = i ∧ i < code.size := by
  unfold Reach.Entered Reach.enter
  by_cases hj : j = i
  · subst hj
    by_cases hlt : j < code.size
    · simp [hlt, hsize]
    · rw [Array.getElem?_setIfInBounds]
      simp [hlt, hsize]
  · simp [Array.getElem?_setIfInBounds_ne (Ne.symm hj), hj]

theorem mem_takerAt {s : CharSet} {next : Nat} : (s, next) ∈ takerAt code i ↔ code[i]? = some (.take s next) := by
  unfold takerAt
  split
  · next s' next' h => simp [h, eq_comm]
  · next h =>
    simp only [List.not_mem_nil, false_iff]
    exact h s next

theorem acceptsAt_iff : acceptsAt code i = true ↔ code[i]? = some .accept := by
  unfold acceptsAt
  split
  · next h => simp [h]
  · next h =>
    simp only [Bool.false_eq_true, false_iff]
    exact h

theorem lt_size_of_getElem? {a : Instruction} (h : code[i]? = some a) : i < code.size := (Array.getElem?_eq_some_iff.1 h).1

theorem lt_size_of_mem_onward (h : j ∈ onward code before after i) : i < code.size := by
  unfold onward at h
  split at h
  · next hi => exact lt_size_of_getElem? hi
  · next hi => exact lt_size_of_getElem? hi
  · cases h

theorem exists_entered_enter_iff (hsize : r.marks.size = code.size) {a : Instruction} :
    (∃ j, (r.enter code point i).Entered point j ∧ code[j]? = some a) ↔
      code[i]? = some a ∨ ∃ j, r.Entered point j ∧ code[j]? = some a := by
  simp only [entered_enter_iff hsize]
  constructor
  · rintro ⟨j, hj | ⟨rfl, -⟩, ha⟩
    · exact .inr ⟨j, hj, ha⟩
    · exact .inl ha
  · rintro (ha | ⟨j, hj, ha⟩)
    · exact ⟨i, .inr ⟨rfl, lt_size_of_getElem? ha⟩, ha⟩
    · exact ⟨j, .inl hj, ha⟩

namespace Exploring

variable (h : Exploring code point before after origin (i :: waiting) r)

include h

theorem pass (hi : r.Entered point i) : Exploring code point before after origin waiting r := by
  have waits : ∀ {j}, r.Entered point j ∨ j ∈ i :: waiting → r.Entered point j ∨ j ∈ waiting := by
    rintro j (hj | hj)
    · exact .inl hj
    · rcases List.mem_cons.1 hj with rfl | hj
      · exact .inl hi
      · exact .inr hj
  exact { h with
    sound := fun j hj => h.sound j (hj.imp_left (List.mem_cons_of_mem _))
    covers := fun j hj hlt => waits (h.covers j hj hlt)
    closed := fun j k hj hk hlt => waits (h.closed j k hj hk hlt) }

/-- **A place is entered**, and what it leads to waits. -/
theorem enter : Exploring code point before after origin (onward code before after i ++ waiting) (r.enter code point i) := by
  have hentered : ∀ j, (r.enter code point i).Entered point j ↔ r.Entered point j ∨ j = i ∧ i < code.size :=
    fun j => entered_enter_iff h.size
  have hreached : Reached code before after origin i := h.sound i (.inl List.mem_cons_self)
  have waits : ∀ {j}, j < code.size → r.Entered point j ∨ j ∈ i :: waiting →
      (r.enter code point i).Entered point j ∨ j ∈ onward code before after i ++ waiting := by
    rintro j hlt (hj | hj)
    · exact .inl ((hentered j).2 (.inl hj))
    · rcases List.mem_cons.1 hj with rfl | hj
      · exact .inl ((hentered j).2 (.inr ⟨rfl, hlt⟩))
      · exact .inr (List.mem_append_right _ hj)
  refine ⟨?_, ?_, ?_, ?_, ?_, ?_, ?_⟩
  · rw [← h.size]
    exact Array.size_setIfInBounds
  · intro j m hm
    by_cases hj : j = i
    · subst hj
      have hlt : j < r.marks.size := by
        have := (Array.getElem?_eq_some_iff.1 hm).1
        simpa [Reach.enter] using this
      rw [Reach.enter, Array.getElem?_setIfInBounds_self_of_lt hlt] at hm
      exact Nat.le_of_eq (Option.some.inj hm).symm
    · rw [Reach.enter, Array.getElem?_setIfInBounds_ne (Ne.symm hj)] at hm
      exact h.marks_le j m hm
  · rintro j (hj | hj)
    · rcases List.mem_append.1 hj with hj | hj
      · exact .on hreached hj
      · exact h.sound j (.inl (List.mem_cons_of_mem _ hj))
    · rcases (hentered j).1 hj with hj | ⟨rfl, -⟩
      · exact h.sound j (.inr hj)
      · exact hreached
  · exact fun j hj hlt => waits hlt (h.covers j hj hlt)
  · intro j k hj hk hlt
    rcases (hentered j).1 hj with hj | ⟨rfl, -⟩
    · exact waits hlt (h.closed j k hj hk hlt)
    · exact .inr (List.mem_append_left _ hk)
  · intro s next
    show (s, next) ∈ takerAt code i ++ r.takers ↔ _
    rw [List.mem_append, mem_takerAt, h.takers, exists_entered_enter_iff h.size]
  · show (acceptsAt code i || r.accepted) = true ↔ _
    rw [Bool.or_eq_true, acceptsAt_iff, h.accepted, exists_entered_enter_iff h.size]

end Exploring

/-! ## Rounds -/

def load (code : Array Instruction) (point : Nat) (before after : Option Char) (r : Reach) : Nat :=
  ∑ i ∈ Finset.range code.size, if r.Entered point i then 0 else (onward code before after i).length

theorem load_enter (hsize : r.marks.size = code.size) (hi : ¬ r.Entered point i) :
    load code point before after (r.enter code point i) + (onward code before after i).length =
      load code point before after r := by
  by_cases hlt : i < code.size
  · have hmem : i ∈ Finset.range code.size := Finset.mem_range.2 hlt
    have hself : (r.enter code point i).Entered point i := (entered_enter_iff hsize).2 (.inr ⟨rfl, hlt⟩)
    rw [load, load, ← Finset.add_sum_erase _ _ hmem, ← Finset.add_sum_erase _ _ hmem, if_pos hself, if_neg hi, Nat.zero_add,
      Nat.add_comm]
    refine congrArg (_ + ·) (Finset.sum_congr rfl fun j hj => ?_)
    have hne := Finset.ne_of_mem_erase hj
    have hiff : (r.enter code point i).Entered point j ↔ r.Entered point j := by
      rw [entered_enter_iff hsize, or_iff_left fun hsame => hne hsame.1]
    simp only [hiff]
  · have hnone : onward code before after i = [] := by
      rw [onward, Array.getElem?_eq_none (Nat.le_of_not_lt hlt)]
    have hsame : ∀ j, (r.enter code point i).Entered point j ↔ r.Entered point j := fun j => by
      rw [entered_enter_iff hsize, or_iff_left fun hsame => hlt hsame.2]
    rw [hnone, load, load]
    simp only [hsame, List.length_nil, Nat.add_zero]

/-- **Following comes to an end** in as many rounds as places wait and are still to be led to. -/
theorem explored_of_follow : ∀ (fuel : Nat) (waiting : List Nat) (r : Reach),
    Exploring code point before after origin waiting r → waiting.length + load code point before after r ≤ fuel →
      Exploring code point before after origin [] (follow code point before after fuel waiting r)
  | 0, waiting, r, h, hfuel => by
    obtain rfl : waiting = [] := List.length_eq_zero_iff.1 (by omega)
    exact h
  | _ + 1, [], r, h, _ => h
  | fuel + 1, i :: waiting, r, h, hfuel => by
    rw [List.length_cons] at hfuel
    by_cases hi : r.Entered point i
    · rw [follow_cons_of_entered hi]
      exact explored_of_follow fuel waiting r (h.pass hi) (by omega)
    · rw [follow_cons_of_not_entered hi]
      have hload : load code point before after (r.enter code point i) + _ = load code point before after r :=
        load_enter h.size hi
      refine explored_of_follow fuel _ _ h.enter ?_
      rw [List.length_append]
      omega

def roundsAt : Instruction → Nat
  | .fork next => 1 + next.length
  | _ => 2

theorem foldl_rounds {add : Nat → Instruction → Nat} (hadd : ∀ n a, add n a = n + roundsAt a) (n : Nat)
    (instructions : List Instruction) : instructions.foldl add n = n + (instructions.map roundsAt).sum := by
  induction instructions generalizing n with
  | nil => rfl
  | cons a rest ih => rw [List.foldl_cons, ih, hadd, List.map_cons, List.sum_cons, Nat.add_assoc]

theorem sum_range_le {f : Nat → Nat} : ∀ {instructions : List Instruction},
    (∀ i a, instructions[i]? = some a → f i ≤ roundsAt a) →
      ∑ i ∈ Finset.range instructions.length, f i ≤ (instructions.map roundsAt).sum
  | [], _ => Nat.le_refl 0
  | a :: rest, h => by
    rw [List.length_cons, Finset.sum_range_succ', List.map_cons, List.sum_cons, Nat.add_comm]
    exact Nat.add_le_add (h 0 a rfl) (sum_range_le fun i b hb => h (i + 1) b hb)

theorem length_onward_le {a : Instruction} (h : code[i]? = some a) : (onward code before after i).length ≤ roundsAt a := by
  rw [onward, h]
  cases a with
  | fork next => exact Nat.le_add_left _ _
  | look l next =>
    show (if l.holds before after = true then [next] else []).length ≤ 2
    split
    · exact Nat.le_succ 1
    · exact Nat.zero_le 2
  | take | accept => exact Nat.zero_le 2

/-- **The rounds that following is given are enough.** -/
theorem load_lt_followRounds : load code point before after r + 1 ≤ followRounds code := by
  have hrounds : followRounds code = 2 + (code.toList.map roundsAt).sum := by
    rw [followRounds, ← Array.foldl_toList]
    refine foldl_rounds (fun n a => ?_) 2 code.toList
    cases a with
    | fork next => exact Nat.add_assoc ..
    | take | look | accept => rfl
  rw [hrounds, load, ← Array.length_toList]
  have hsum : ∑ i ∈ Finset.range code.toList.length, (if r.Entered point i then 0 else (onward code before after i).length) ≤
      (code.toList.map roundsAt).sum := by
    refine sum_range_le fun i a ha => ?_
    rw [Array.getElem?_toList] at ha
    split
    · exact Nat.zero_le _
    · exact length_onward_le ha
  omega

/-! ## What is found -/

theorem Exploring.start {marks : Array Nat} (hsize : marks.size = code.size)
    (hmarks : ∀ i m : Nat, marks[i]? = some m → m < point) : Exploring code point before after origin origin { marks } := by
  have hnone : ∀ i, ¬ Reach.Entered { marks } point i := fun i hi => Nat.lt_irrefl _ (hmarks i point hi)
  refine ⟨hsize, fun i m hm => (hmarks i m hm).le, ?_, fun i hi _ => .inr hi, fun i j hi => absurd hi (hnone i), ?_, ?_⟩
  · rintro i (hi | hi)
    · exact .start hi
    · exact absurd hi (hnone i)
  · simp [hnone]
  · simp [hnone]

theorem Exploring.entered_iff (h : Exploring code point before after origin [] r) (hlt : i < code.size) :
    r.Entered point i ↔ Reached code before after origin i := by
  refine ⟨fun hi => h.sound i (.inr hi), fun hreached => ?_⟩
  induction hreached with
  | start hi => exact (h.covers _ hi hlt).resolve_right List.not_mem_nil
  | on hreached hj ih =>
    have hentered := ih (lt_size_of_mem_onward hj)
    exact (h.closed _ _ hentered hj hlt).resolve_right List.not_mem_nil

/-- **What following finds** at a point that no place is marked with: all that is reached. -/
structure Found (code : Array Instruction) (point : Nat) (before after : Option Char) (origin : List Nat) (r : Reach) :
    Prop where
  size : r.marks.size = code.size
  marks_le : ∀ i m : Nat, r.marks[i]? = some m → m ≤ point
  takers : ∀ s next, (s, next) ∈ r.takers ↔ ∃ i, Reached code before after origin i ∧ code[i]? = some (.take s next)
  accepted : r.accepted = true ↔ ∃ i, Reached code before after origin i ∧ code[i]? = some .accept

theorem found_of_follow {marks : Array Nat} {fuel : Nat} (hsize : marks.size = code.size)
    (hmarks : ∀ i m : Nat, marks[i]? = some m → m < point) (hfuel : origin.length ≤ fuel + 1) :
    Found code point before after origin
      (follow code point before after (followRounds code + fuel) origin { marks }) := by
  have hload : load code point before after { marks } + 1 ≤ followRounds code := load_lt_followRounds
  have hstart : Exploring code point before after origin origin { marks } := .start hsize hmarks
  have h := explored_of_follow (followRounds code + fuel) origin { marks } hstart (by omega)
  have hfound : ∀ {r a}, Exploring code point before after origin [] r →
      ((∃ i, r.Entered point i ∧ code[i]? = some a) ↔ ∃ i, Reached code before after origin i ∧ code[i]? = some a) := by
    intro r a h
    exact exists_congr fun i => and_congr_left fun ha => h.entered_iff (lt_size_of_getElem? ha)
  exact ⟨h.size, h.marks_le, fun s next => (h.takers s next).trans (hfound h), h.accepted.trans (hfound h)⟩

end Pattern
end LineShell
