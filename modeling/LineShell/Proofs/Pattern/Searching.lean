import LineShell.Pattern.Matcher
import LineShell.Proofs.Pattern.Assembling
import LineShell.Proofs.Pattern.Closure
/-!
# Searching — a line is searched for what an expression spans

At each point of a line the places that wait are those from which a match that began before can still be ended, and the
entry of the machine joins them.  So a search finds out exactly whether a run of the machine accepts from one of the
places that wait, or from the entry at some place to come (`searchFrom_iff`), which is whether some part of the line is
spanned (`matchesLine_iff`).
-/
namespace LineShell
namespace Pattern

variable {code : Array Instruction} {origin waiting : List Nat} {i j : Nat} {p : Spot} {before : Option Char} {c : Char}
  {rest : List Char}

/-- A run can accept from an instruction at a place. -/
def Live (code : Array Instruction) (p : Spot) (i : Nat) : Prop := ∃ n, Accepts code n i p

theorem Live.of_onward (hj : j ∈ onward code p.before p.rest.head? i) (h : Live code p j) : Live code p i := by
  obtain ⟨n, h⟩ := h
  unfold onward at hj
  split at hj
  · next hi => exact ⟨_, .fork hi hj h⟩
  · next hi =>
    split at hj
    · next hl =>
      obtain rfl := List.mem_singleton.1 hj
      exact ⟨_, .look hi hl h⟩
    · cases hj
  · cases hj

/-- **A run accepts** from one of some places if it does where they lead to without a character. -/
theorem Live.of_reached (hreached : Reached code p.before p.rest.head? origin j) (h : Live code p j) :
    ∃ i ∈ origin, Live code p i := by
  induction hreached with
  | start hi => exact ⟨_, hi, h⟩
  | on _ hj ih => exact ih (.of_onward hj h)

/-- What a run comes to before its next character: it accepts, or it takes that. -/
def Meets (code : Array Instruction) (p : Spot) (j : Nat) : Prop :=
  code[j]? = some .accept ∨
    ∃ s next c q, code[j]? = some (.take s next) ∧ s.contains c = true ∧ Spot.Takes c p q ∧ Live code q next

theorem Meets.live (h : Meets code p j) : Live code p j := by
  rcases h with hj | ⟨s, next, c, q, hj, hc, htakes, n, h⟩
  · exact ⟨0, .accept p hj⟩
  · exact ⟨_, .take hj hc htakes h⟩

/-- **A run** first goes on without a character. -/
theorem exists_meets {n : Nat} (h : Accepts code n i p) (hi : Reached code p.before p.rest.head? origin i) :
    ∃ j, Reached code p.before p.rest.head? origin j ∧ Meets code p j := by
  induction h with
  | accept p hj => exact ⟨_, hi, .inl hj⟩
  | take hj hc htakes h => exact ⟨_, hi, .inr ⟨_, _, _, _, hj, hc, htakes, _, h⟩⟩
  | fork hfork hj _ ih =>
    refine ih (.on hi ?_)
    rw [onward, hfork]
    exact hj
  | look hlook hl _ ih =>
    refine ih (.on hi ?_)
    rw [onward, hlook]
    exact List.mem_ite_nil_right.2 ⟨hl, List.mem_singleton_self _⟩

theorem exists_live_iff : (∃ i ∈ origin, Live code p i) ↔
    ∃ j, Reached code p.before p.rest.head? origin j ∧ Meets code p j := by
  constructor
  · rintro ⟨i, hi, n, h⟩
    exact exists_meets h (.start hi)
  · rintro ⟨j, hreached, hmeets⟩
    exact hmeets.live.of_reached hreached

def passing (c : Char) (r : Reach) : List Nat :=
  r.takers.filterMap (fun (s, next) => if s.contains c then some next else none)

theorem mem_passing {r : Reach} : j ∈ passing c r ↔ ∃ s, (s, j) ∈ r.takers ∧ s.contains c = true := by
  simp [passing]

theorem Found.live_iff_of_nil {point : Nat} {r : Reach} (h : Found code point before none origin r) :
    r.accepted = true ↔ ∃ i ∈ origin, Live code ⟨before, []⟩ i := by
  rw [h.accepted, exists_live_iff]
  refine exists_congr fun j => and_congr_right fun _ => ⟨.inl, ?_⟩
  rintro (hj | ⟨_, _, _, _, _, _, htakes, _⟩)
  · exact hj
  · cases htakes

/-- **What is found at a point** tells of the runs from there: they have accepted, or they go on behind the next
character. -/
theorem Found.live_iff_of_cons {point : Nat} {r : Reach} (h : Found code point before (some c) origin r) :
    (r.accepted = true ∨ ∃ i ∈ passing c r, Live code ⟨some c, rest⟩ i) ↔
      ∃ i ∈ origin, Live code ⟨before, c :: rest⟩ i := by
  refine Iff.trans ?_ exists_live_iff.symm
  simp only [h.accepted, mem_passing, h.takers]
  constructor
  · rintro (⟨j, hreached, hj⟩ | ⟨next, ⟨s, ⟨j, hreached, hj⟩, hc⟩, hlive⟩)
    · exact ⟨j, hreached, .inl hj⟩
    · exact ⟨j, hreached, .inr ⟨s, next, c, _, hj, hc, .take .., hlive⟩⟩
  · rintro ⟨j, hreached, hj | ⟨s, next, _, _, hj, hc, ⟨⟩, hlive⟩⟩
    · exact .inl ⟨j, hreached, hj⟩
    · exact .inr ⟨next, ⟨s, ⟨j, hreached, hj⟩, hc⟩, hlive⟩

theorem exists_live_append_entry {entry : Nat} :
    (∃ i ∈ waiting ++ [entry], Live code p i) ↔ (∃ i ∈ waiting, Live code p i) ∨ Live code p entry := by
  simp only [List.mem_append, List.mem_singleton, or_and_right, exists_or, exists_eq_left]

theorem Spot.onward_nil_iff {q : Spot} : Onward ⟨before, []⟩ q ↔ q = ⟨before, []⟩ := by
  constructor
  · rintro (_ | ⟨⟨⟩, _⟩)
    rfl
  · rintro rfl
    exact .here _

theorem Spot.onward_cons_iff {q : Spot} :
    Onward ⟨before, c :: rest⟩ q ↔ q = ⟨before, c :: rest⟩ ∨ Onward ⟨some c, rest⟩ q := by
  constructor
  · rintro (_ | ⟨⟨⟩, hon⟩)
    · exact .inl rfl
    · exact .inr hon
  · rintro (rfl | hon)
    · exact .here _
    · exact .on (.take ..) hon

/-- **A search** from some places that wait finds a run that accepts from one of them here, or from the entry here or
further on. -/
theorem searchFrom_iff (m : Machine) : ∀ (rest : List Char) {point : Nat} {before : Option Char} {waiting : List Nat}
    {marks : Array Nat}, marks.size = m.code.size → (∀ i k : Nat, marks[i]? = some k → k < point) →
      (m.searchFrom (followRounds m.code) point before rest waiting marks = true ↔
        (∃ i ∈ waiting, Live m.code ⟨before, rest⟩ i) ∨ ∃ q, Spot.Onward ⟨before, rest⟩ q ∧ Live m.code q m.entry)
  | [], point, before, waiting, marks, hsize, hmarks => by
    have hfound : Found m.code point before none (waiting ++ [m.entry]) (follow m.code point before none
        (followRounds m.code + waiting.length) (waiting ++ [m.entry]) { marks }) :=
      found_of_follow hsize hmarks (by simp)
    simp only [Spot.onward_nil_iff, exists_eq_left]
    rw [← exists_live_append_entry, ← hfound.live_iff_of_nil, Machine.searchFrom, List.head?_nil]
    simp only [Bool.if_true_left, Bool.or_false, Bool.decide_eq_true]
  | c :: rest, point, before, waiting, marks, hsize, hmarks => by
    have hfound : Found m.code point before (some c) (waiting ++ [m.entry]) (follow m.code point before (some c)
        (followRounds m.code + waiting.length) (waiting ++ [m.entry]) { marks }) :=
      found_of_follow hsize hmarks (by simp)
    simp only [Spot.onward_cons_iff, or_and_right, exists_or, exists_eq_left]
    rw [← or_assoc, ← exists_live_append_entry, ← hfound.live_iff_of_cons, Machine.searchFrom, List.head?_cons]
    generalize follow m.code point before (some c) (followRounds m.code + waiting.length) (waiting ++ [m.entry])
      { marks } = r at hfound ⊢
    have hlater : m.searchFrom (followRounds m.code) (point + 1) (some c) rest (passing c r) r.marks = true ↔ _ :=
      searchFrom_iff m rest hfound.size fun i k hk => Nat.lt_succ_of_le (hfound.marks_le i k hk)
    rw [or_assoc, ← hlater]
    show (if r.accepted = true then true else m.searchFrom _ (point + 1) (some c) rest (passing c r) r.marks) = true ↔ _
    simp only [Bool.if_true_left, Bool.or_eq_true, decide_eq_true_eq]

theorem search_iff (m : Machine) (line : List Char) :
    m.search line = true ↔ ∃ q, Spot.Onward ⟨none, line⟩ q ∧ Live m.code q m.entry := by
  have hmarks : ∀ i k : Nat, (Array.replicate m.code.size 0)[i]? = some k → k < 1 := by
    intro i k hk
    obtain ⟨_, rfl⟩ := Array.getElem?_eq_some_iff.1 hk
    simp
  refine (searchFrom_iff m line Array.size_replicate hmarks).trans (or_iff_right ?_)
  rintro ⟨_, hi, -⟩
  cases hi

/-- **A pattern matches a line** if its expression spans some part of it. -/
theorem search_ofExpr_iff (e : Expr) (line : List Char) : (Machine.ofExpr e).search line = true ↔ e.MatchesIn line := by
  rw [search_iff, Expr.MatchesIn]
  refine exists_congr fun p => ?_
  rw [Live, accepts_ofExpr_iff, exists_and_left]

end Pattern
end LineShell
