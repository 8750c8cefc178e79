import LineShell.Proofs.Pattern.Matching
import Mathlib.Data.List.Forall2
/-!
# Assembling — a machine accepts what its expression spans

A machine runs from an instruction at a place of a line until it accepts (`Accepts`).  The instructions that are added
for an expression lead from where they are entered to where they go on, over exactly what the expression spans
(`builds_assemble`), whatever is put behind them and whatever they go on to.  So a machine accepts from a place exactly
where its expression spans something (`accepts_ofExpr_iff`).
-/
namespace LineShell
namespace Pattern

/-- **A run of a machine** from an instruction at a place, by the instructions it goes on from before it accepts. -/
inductive Accepts (code : Array Instruction) : Nat → Nat → Spot → Prop
  | accept {i : Nat} (p : Spot) (hi : code[i]? = some .accept) : Accepts code 0 i p
  | take {n i next : Nat} {s : CharSet} {c : Char} {p q : Spot} (hi : code[i]? = some (.take s next))
      (hc : s.contains c = true) (htakes : Spot.Takes c p q) (h : Accepts code n next q) : Accepts code (n + 1) i p
  | fork {n i j : Nat} {next : List Nat} {p : Spot} (hi : code[i]? = some (.fork next)) (hj : j ∈ next)
      (h : Accepts code n j p) : Accepts code (n + 1) i p
  | look {n i next : Nat} {l : Look} {p : Spot} (hi : code[i]? = some (.look l next)) (hl : l.At p)
      (h : Accepts code n next p) : Accepts code (n + 1) i p

/-- **Some instructions lead from one to another** over what a relation says: a run from the first comes by the other
where the relation holds, and every run from there can be had from the first. -/
structure Carries (code : Array Instruction) (spans : Spot → Spot → Prop) (start next : Nat) : Prop where
  comes {n : Nat} {p : Spot} (h : Accepts code n start p) : ∃ q m, m ≤ n ∧ spans p q ∧ Accepts code m next q
  goes {n : Nat} {p q : Spot} (hspan : spans p q) (h : Accepts code n next q) : ∃ m, Accepts code m start p

namespace Carries

variable {code : Array Instruction} {r s : Spot → Spot → Prop} {start mid next : Nat}

theorem refl (code : Array Instruction) (i : Nat) : Carries code Eq i i where
  comes h := ⟨_, _, Nat.le_refl _, rfl, h⟩
  goes hspan h := ⟨_, hspan ▸ h⟩

theorem trans (h : Carries code r start mid) (h' : Carries code s mid next) :
    Carries code (fun p q => ∃ between, r p between ∧ s between q) start next where
  comes hrun := by
    obtain ⟨between, m, hle, hr, hmid⟩ := h.comes hrun
    obtain ⟨q, k, hle', hs, hnext⟩ := h'.comes hmid
    exact ⟨q, k, Nat.le_trans hle' hle, ⟨between, hr, hs⟩, hnext⟩
  goes := by
    rintro n p q ⟨between, hr, hs⟩ hrun
    obtain ⟨m, hmid⟩ := h'.goes hs hrun
    exact h.goes hr hmid

theorem congr (h : Carries code r start next) (heq : ∀ p q, r p q ↔ s p q) : Carries code s start next :=
  have hrs : r = s := funext fun p => funext fun q => propext (heq p q)
  hrs ▸ h

theorem take {set : CharSet} (hi : code[start]? = some (.take set next)) :
    Carries code (Expr.set set).Spans start next where
  comes hrun := by
    cases hrun with
    | accept _ hi' => cases hi.symm.trans hi'
    | take hi' hc htakes h =>
      cases hi.symm.trans hi'
      exact ⟨_, _, Nat.le_succ _, ⟨_, hc, htakes⟩, h⟩
    | fork hi' => cases hi.symm.trans hi'
    | look hi' => cases hi.symm.trans hi'
  goes := by
    rintro n p q ⟨c, hc, htakes⟩ h
    exact ⟨_, .take hi hc htakes h⟩

theorem look {l : Look} (hi : code[start]? = some (.look l next)) : Carries code (Expr.look l).Spans start next where
  comes hrun := by
    cases hrun with
    | accept _ hi' => cases hi.symm.trans hi'
    | take hi' => cases hi.symm.trans hi'
    | fork hi' => cases hi.symm.trans hi'
    | look hi' hl h =>
      cases hi.symm.trans hi'
      exact ⟨_, _, Nat.le_succ _, ⟨hl, rfl⟩, h⟩
  goes := by
    rintro n p q ⟨hl, rfl⟩ h
    exact ⟨_, .look hi hl h⟩

theorem fork_cases {n : Nat} {p : Spot} {branches : List Nat} (hi : code[start]? = some (.fork branches))
    (h : Accepts code n start p) : ∃ m j, m < n ∧ j ∈ branches ∧ Accepts code m j p := by
  cases h with
  | accept _ hi' => cases hi.symm.trans hi'
  | take hi' => cases hi.symm.trans hi'
  | fork hi' hj h =>
    cases hi.symm.trans hi'
    exact ⟨_, _, Nat.lt_succ_self _, hj, h⟩
  | look hi' => cases hi.symm.trans hi'

theorem fork_two_cases {n branch : Nat} {p : Spot} (hi : code[start]? = some (.fork [branch, next]))
    (h : Accepts code n start p) : ∃ m < n, Accepts code m branch p ∨ Accepts code m next p := by
  obtain ⟨m, j, hlt, hj, hrun⟩ := fork_cases hi h
  rcases List.mem_cons.1 hj with rfl | hj
  · exact ⟨m, hlt, .inl hrun⟩
  · obtain rfl := List.mem_singleton.1 hj
    exact ⟨m, hlt, .inr hrun⟩

/-- **A fork** whose second branch is where the first leads to in the end. -/
theorem optional {branch : Nat} (hi : code[start]? = some (.fork [branch, next])) (h : Carries code r branch next) :
    Carries code (fun p q => r p q ∨ p = q) start next where
  comes hrun := by
    obtain ⟨m, hlt, hrun | hrun⟩ := fork_two_cases hi hrun
    · obtain ⟨q, k, hle, hr, hnext⟩ := h.comes hrun
      exact ⟨q, k, by omega, .inl hr, hnext⟩
    · exact ⟨_, m, by omega, .inr rfl, hrun⟩
  goes := by
    rintro n p q (hr | rfl) hrun
    · obtain ⟨m, hbranch⟩ := h.goes hr hrun
      exact ⟨_, .fork hi List.mem_cons_self hbranch⟩
    · exact ⟨_, .fork hi (List.mem_cons_of_mem _ (List.mem_singleton_self _)) hrun⟩

/-- **A loop** whose body leads back to where it is entered. -/
theorem loop {body : Nat} (hi : code[start]? = some (.fork [body, next])) (h : Carries code r body start) :
    Carries code (fun p q => ∃ n, Iterates r n p q) start next where
  comes {n p} hrun := by
    -- Each round takes fewer instructions than were left before it.
    induction n using Nat.strongRecOn generalizing p with
    | _ n ih =>
      obtain ⟨m, hlt, hrun | hrun⟩ := fork_two_cases hi hrun
      · obtain ⟨between, k, hle, hr, hback⟩ := h.comes hrun
        obtain ⟨q, k', hle', ⟨rounds, hrounds⟩, hnext⟩ := ih k (by omega) hback
        exact ⟨q, k', by omega, ⟨rounds + 1, .succ hr hrounds⟩, hnext⟩
      · exact ⟨p, m, by omega, ⟨0, .zero p⟩, hrun⟩
  goes := by
    rintro n p q ⟨rounds, hrounds⟩ hrun
    induction hrounds with
    | zero p => exact ⟨_, .fork hi (List.mem_cons_of_mem _ (List.mem_singleton_self _)) hrun⟩
    | succ hr _ ih =>
      obtain ⟨m, hback⟩ := ih hrun
      obtain ⟨k, hbody⟩ := h.goes hr hback
      exact ⟨_, .fork hi List.mem_cons_self hbody⟩

/-- **A fork** into several expressions. -/
theorem branches {es : List Expr} {starts : List Nat} (hi : code[start]? = some (.fork starts))
    (h : List.Forall₂ (fun e j => Carries code e.Spans j next) es starts) :
    Carries code (Expr.SpansAny es) start next where
  comes hrun := by
    obtain ⟨m, j, hlt, hj, hrun⟩ := fork_cases hi hrun
    clear hi
    induction h with
    | nil => cases hj
    | cons hone _ ih =>
      rcases List.mem_cons.1 hj with rfl | hj
      · obtain ⟨q, k, hle, hspan, hnext⟩ := hone.comes hrun
        exact ⟨q, k, by omega, .inl hspan, hnext⟩
      · obtain ⟨q, k, hle, hspan, hnext⟩ := ih hj
        exact ⟨q, k, hle, .inr hspan, hnext⟩
  goes {n p q} hspan hrun := by
    obtain ⟨j, hj, m, hbranch⟩ : ∃ j ∈ starts, ∃ m, Accepts code m j p := by
      clear hi
      induction h with
      | nil => cases hspan
      | cons hone _ ih =>
        rcases hspan with hspan | hspan
        · exact ⟨_, List.mem_cons_self, hone.goes hspan hrun⟩
        · obtain ⟨j, hj, hbranch⟩ := ih hspan
          exact ⟨j, List.mem_cons_of_mem _ hj, hbranch⟩
    exact ⟨_, .fork hi hj hbranch⟩

end Carries

/-! ## Adding instructions -/

section

variable {i : Instruction} {code : Array Instruction} {j : Nat}

theorem size_push : (push i code).2.size = code.size + 1 := Array.size_push ..

theorem getElem?_push_self : (push i code).2[code.size]? = some i := Array.getElem?_push_size

theorem getElem?_push_of_lt (h : j < code.size) : (push i code).2[j]? = code[j]? := by
  rw [push, Array.getElem?_push, if_neg (Nat.ne_of_lt h)]

end

def Holds (before added full : Array Instruction) : Prop := ∀ i, before.size ≤ i → i < added.size → full[i]? = added[i]?

/-- **What is added leads to where it is to go on**, over what a relation says, in whatever row it stands; what stood
there before is left as it was. -/
structure Built (spans : Spot → Spot → Prop) (after entered : Nat × Array Instruction) : Prop where
  size_le : after.2.size ≤ entered.2.size
  keeps {i : Nat} (hi : i < after.2.size) : entered.2[i]? = after.2[i]?
  carries {full : Array Instruction} (h : Holds after.2 entered.2 full) : Carries full spans entered.1 after.1

namespace Built

variable {r s : Spot → Spot → Prop} {after mid entered : Nat × Array Instruction}

theorem refl (after : Nat × Array Instruction) : Built Eq after after where
  size_le := Nat.le_refl _
  keeps _ := rfl
  carries _ := .refl _ _

theorem trans (h : Built s after mid) (h' : Built r mid entered) :
    Built (fun p q => ∃ between, r p between ∧ s between q) after entered where
  size_le := Nat.le_trans h.size_le h'.size_le
  keeps hi := (h'.keeps (Nat.lt_of_lt_of_le hi h.size_le)).trans (h.keeps hi)
  carries hfull := by
    refine (h'.carries fun i hi hi' => hfull i (Nat.le_trans h.size_le hi) hi').trans (h.carries fun i hi hi' => ?_)
    rw [hfull i hi (Nat.lt_of_lt_of_le hi' h'.size_le), h'.keeps hi']

theorem congr (h : Built r after entered) (heq : ∀ p q, r p q ↔ s p q) : Built s after entered where
  size_le := h.size_le
  keeps := h.keeps
  carries hfull := (h.carries hfull).congr heq

theorem push {i : Instruction} (h : ∀ full : Array Instruction, full[after.2.size]? = some i →
    Carries full r after.2.size after.1) : Built r after (Pattern.push i after.2) where
  size_le := size_push ▸ Nat.le_succ _
  keeps hi := getElem?_push_of_lt hi
  carries hfull := h _ ((hfull _ (Nat.le_refl _) (size_push ▸ Nat.lt_succ_self _)).trans getElem?_push_self)

theorem optional (h : Built r after entered) :
    Built (fun p q => r p q ∨ p = q) after (Pattern.push (.fork [entered.1, after.1]) entered.2) where
  size_le := size_push ▸ Nat.le_succ_of_le h.size_le
  keeps hi := (getElem?_push_of_lt (Nat.lt_of_lt_of_le hi h.size_le)).trans (h.keeps hi)
  carries hfull := by
    have hsize := h.size_le
    refine .optional ?_ (h.carries fun i hi hi' => ?_)
    · exact (hfull _ hsize (size_push ▸ Nat.lt_succ_self _)).trans getElem?_push_self
    · exact (hfull i hi (size_push ▸ Nat.lt_succ_of_lt hi')).trans (getElem?_push_of_lt hi')

/-- **A loop**: its fork stands first, and is set when its body stands. -/
theorem loop (h : Built r (Pattern.push (.fork []) after.2) entered) :
    Built (fun p q => ∃ n, Iterates r n p q) after
      (after.2.size, entered.2.setIfInBounds after.2.size (.fork [entered.1, after.1])) := by
  have hsize : after.2.size + 1 ≤ entered.2.size := size_push ▸ h.size_le
  refine ⟨by rw [Array.size_setIfInBounds]; omega, fun hi => ?_, fun hfull => .loop ?_ (h.carries fun i hi hi' => ?_)⟩
  · rw [Array.getElem?_setIfInBounds_ne (Nat.ne_of_gt hi), h.keeps (size_push ▸ Nat.lt_succ_of_lt hi)]
    exact getElem?_push_of_lt hi
  · rw [hfull _ (Nat.le_refl _) (by rw [Array.size_setIfInBounds]; omega)]
    exact Array.getElem?_setIfInBounds_self_of_lt hsize
  · rw [size_push] at hi
    rw [hfull i (by omega) (by rwa [Array.size_setIfInBounds]), Array.getElem?_setIfInBounds_ne (by omega)]

end Built

/-! ## Repetitions -/

theorem times_succ {α : Type} (f : α → α) : ∀ (n : Nat) (a : α), times f (n + 1) a = f (times f n a)
  | 0, _ => rfl
  | n + 1, a => times_succ f n (f a)

namespace Iterates

variable {r : Spot → Spot → Prop} {n m : Nat} {p q : Spot}

theorem zero_iff : p = q ↔ Iterates r 0 p q :=
  ⟨fun h => h ▸ .zero p, fun h => by
    cases h
    rfl⟩

theorem succ_iff : (∃ between, r p between ∧ Iterates r n between q) ↔ Iterates r (n + 1) p q :=
  ⟨fun ⟨_, h, hmore⟩ => .succ h hmore, fun h => by
    cases h with
    | succ h hmore => exact ⟨_, h, hmore⟩⟩

theorem add_iff : (∃ between, Iterates r n p between ∧ Iterates r m between q) ↔ Iterates r (n + m) p q := by
  induction n generalizing p with
  | zero =>
    rw [Nat.zero_add]
    constructor
    · rintro ⟨between, hnone, h⟩
      exact zero_iff.2 hnone ▸ h
    · exact fun h => ⟨p, .zero p, h⟩
  | succ n ih =>
    rw [Nat.add_right_comm, ← succ_iff]
    constructor
    · rintro ⟨between, hfirst, h⟩
      obtain ⟨first, hr, hmore⟩ := succ_iff.2 hfirst
      exact ⟨first, hr, ih.1 ⟨between, hmore, h⟩⟩
    · rintro ⟨first, hr, h⟩
      obtain ⟨between, hmore, hlast⟩ := ih.2 h
      exact ⟨between, .succ hr hmore, hlast⟩

end Iterates

section

variable {r : Spot → Spot → Prop} {body : Nat × Array Instruction → Nat × Array Instruction}
  (hbody : ∀ after, Built r after (body after))

include hbody

theorem built_times (after : Nat × Array Instruction) : ∀ n, Built (Iterates r n) after (times body n after)
  | 0 => (Built.refl after).congr fun _ _ => Iterates.zero_iff
  | n + 1 => by
    rw [times_succ]
    exact ((built_times after n).trans (hbody _)).congr fun _ _ => Iterates.succ_iff

theorem built_optional_times (after : Nat × Array Instruction) : ∀ n,
    Built (fun p q => ∃ m ≤ n, Iterates r m p q) after
      (times (fun entry => push (.fork [(body entry).1, after.1]) (body entry).2) n after)
  | 0 => (Built.refl after).congr fun p q => by
    constructor
    · rintro rfl
      exact ⟨0, Nat.le_refl 0, .zero p⟩
    · rintro ⟨m, hm, h⟩
      obtain rfl := Nat.le_zero.1 hm
      exact Iterates.zero_iff.2 h
  | n + 1 => by
    rw [times_succ]
    refine ((built_optional_times after n).trans (hbody _)).optional.congr fun p q => ?_
    constructor
    · rintro (⟨between, hr, m, hm, h⟩ | rfl)
      · exact ⟨m + 1, Nat.succ_le_succ hm, .succ hr h⟩
      · exact ⟨0, Nat.zero_le _, .zero p⟩
    · rintro ⟨m, hm, h⟩
      cases h with
      | zero => exact .inr rfl
      | succ hr h => exact .inl ⟨_, hr, _, Nat.le_of_succ_le_succ hm, h⟩

/-- **A repetition** spans what its body does, as often as it may. -/
theorem built_repeated (least : Nat) (most : Option Nat) (after : Nat × Array Instruction) :
    Built (fun p q => ∃ n, least ≤ n ∧ (∀ m ∈ most, n ≤ max least m) ∧ Iterates r n p q) after
      (assembleRepeated body least most after) := by
  have hsum : ∀ {n p q}, least ≤ n → Iterates r n p q →
      ∃ between, Iterates r least p between ∧ Iterates r (n - least) between q := by
    intro n p q hle h
    rw [← Nat.add_sub_cancel' hle] at h
    exact Iterates.add_iff.2 h
  cases most with
  | none =>
    refine ((Built.loop (hbody _)).trans (built_times hbody _ least)).congr fun p q => ?_
    constructor
    · rintro ⟨between, hleast, n, h⟩
      exact ⟨least + n, Nat.le_add_right _ _, nofun, Iterates.add_iff.1 ⟨between, hleast, h⟩⟩
    · rintro ⟨n, hle, -, h⟩
      obtain ⟨between, hleast, hmore⟩ := hsum hle h
      exact ⟨between, hleast, _, hmore⟩
  | some most =>
    refine ((built_optional_times hbody after (most - least)).trans (built_times hbody _ least)).congr fun p q => ?_
    constructor
    · rintro ⟨between, hleast, n, hn, h⟩
      refine ⟨least + n, Nat.le_add_right _ _, ?_, Iterates.add_iff.1 ⟨between, hleast, h⟩⟩
      rintro _ ⟨⟩
      omega
    · rintro ⟨n, hle, hmost, h⟩
      obtain ⟨between, hleast, hmore⟩ := hsum hle h
      have := hmost most rfl
      exact ⟨between, hleast, _, by omega, hmore⟩

end

/-! ## Expressions -/

structure BuiltBranches (es : List Expr) (after : Nat × Array Instruction) (entered : List Nat × Array Instruction) :
    Prop where
  size_le : after.2.size ≤ entered.2.size
  keeps {i : Nat} (hi : i < after.2.size) : entered.2[i]? = after.2[i]?
  carries {full : Array Instruction} (h : Holds after.2 entered.2 full) :
    List.Forall₂ (fun e j => Carries full e.Spans j after.1) es entered.1

theorem BuiltBranches.cons {e : Expr} {es : List Expr} {after entered : Nat × Array Instruction}
    {more : List Nat × Array Instruction} (h : Built e.Spans after entered)
    (hmore : BuiltBranches es (after.1, entered.2) more) : BuiltBranches (e :: es) after (entered.1 :: more.1, more.2) where
  size_le := Nat.le_trans h.size_le hmore.size_le
  keeps hi := (hmore.keeps (Nat.lt_of_lt_of_le hi h.size_le)).trans (h.keeps hi)
  carries hfull := by
    refine .cons (h.carries fun i hi hi' => ?_) (hmore.carries fun i hi hi' => hfull i (Nat.le_trans h.size_le hi) hi')
    exact (hfull i hi (Nat.lt_of_lt_of_le hi' hmore.size_le)).trans (hmore.keeps hi')

theorem BuiltBranches.push {es : List Expr} {after : Nat × Array Instruction} {entered : List Nat × Array Instruction}
    (h : BuiltBranches es after entered) :
    Built (Expr.SpansAny es) after (Pattern.push (.fork entered.1) entered.2) where
  size_le := size_push ▸ Nat.le_succ_of_le h.size_le
  keeps hi := (getElem?_push_of_lt (Nat.lt_of_lt_of_le hi h.size_le)).trans (h.keeps hi)
  carries hfull := by
    refine .branches ?_ (h.carries fun i hi hi' => ?_)
    · exact (hfull _ h.size_le (size_push ▸ Nat.lt_succ_self _)).trans getElem?_push_self
    · exact (hfull i hi (size_push ▸ Nat.lt_succ_of_lt hi')).trans (getElem?_push_of_lt hi')

mutual

/-- **The instructions of an expression** lead to where they are to go on over what it spans. -/
theorem built_assemble : ∀ (e : Expr) (after : Nat × Array Instruction), Built e.Spans after (assemble e after)
  | .empty, after => .refl after
  | .set _, _ => .push fun _ => .take
  | .look _, _ => .push fun _ => .look
  | .group body, after => built_assemble body after
  | .concat parts, after => built_assembleConcat parts after
  | .alternation branches, after => (built_assembleBranches branches after).push
  | .repetition least most body, after => built_repeated (built_assemble body) least most after

theorem built_assembleConcat : ∀ (es : List Expr) (after : Nat × Array Instruction),
    Built (Expr.SpansAll es) after (assembleConcat es after)
  | [], after => .refl after
  | e :: es, after => (built_assembleConcat es after).trans (built_assemble e _)

theorem built_assembleBranches : ∀ (es : List Expr) (after : Nat × Array Instruction),
    BuiltBranches es after (assembleBranches es after)
  | [], _ => ⟨Nat.le_refl _, fun _ => rfl, fun _ => .nil⟩
  | e :: es, after => .cons (built_assemble e after) (built_assembleBranches es _)

end

/-- **A machine accepts** from a place exactly where its expression spans something. -/
theorem accepts_ofExpr_iff {e : Expr} {p : Spot} :
    (∃ n, Accepts (Machine.ofExpr e).code n (Machine.ofExpr e).entry p) ↔ ∃ q, e.Spans p q := by
  have hbuilt : Built e.Spans (0, #[.accept]) (assemble e (0, #[.accept])) := built_assemble e _
  have hcarries : Carries (assemble e (0, #[.accept])).2 e.Spans (assemble e (0, #[.accept])).1 0 :=
    hbuilt.carries fun _ _ _ => rfl
  have haccept : (assemble e (0, #[.accept])).2[0]? = some .accept := hbuilt.keeps Nat.one_pos
  constructor
  · rintro ⟨n, h⟩
    obtain ⟨q, -, -, hspan, -⟩ := hcarries.comes h
    exact ⟨q, hspan⟩
  · rintro ⟨q, hspan⟩
    exact hcarries.goes hspan (.accept q haccept)

end Pattern
end LineShell
