import LineShell.Pattern.Reading
/-!
# Behind — readers where something stands behind the text

A pattern is read where a parenthesis and a word boundary stand behind it (`closing`).  Every reader then reads what it
reads of the pattern alone, with the same behind it, unless that has gone into a comment that the pattern leaves open
(`Cursor.Follows`); a reader that refuses the pattern alone either refuses it then too or has taken the parenthesis for
its own (`Fits`).
-/
namespace LineShell
namespace Pattern

theorem head?_ne_of_forall {c : Char} {cs : List Char} (h : ∀ rest, cs = c :: rest → False) : cs.head? ≠ some c :=
  fun hhead => by
    obtain ⟨rest, hrest⟩ := List.head?_eq_some_iff.1 hhead
    exact h rest hrest

def closing : List Char := [')', '\\', 'b']

namespace Cursor

def closed (k : Cursor) : Cursor := k.moveTo (k.rest ++ closing)

/-- **The cursor in a text with something behind it**, which has been skipped where a comment was left open. -/
inductive Follows : Cursor → Cursor → Prop
  | closed (k : Cursor) : Follows k k.closed
  | swallowed {k : Cursor} (h : k.rest = []) : Follows k k

variable {k k' : Cursor} {c : Char} {cs : List Char}

@[simp] theorem rest_closed (k : Cursor) : k.closed.rest = k.rest ++ closing := rfl

theorem rest_closed_of_cons (h : k.rest = c :: cs) : k.closed.rest = c :: (cs ++ closing) := by
  rw [rest_closed, h, List.cons_append]

@[simp] theorem verbose_closed (k : Cursor) : k.closed.verbose = k.verbose := rfl

@[simp] theorem names_closed (k : Cursor) : k.closed.names = k.names := rfl

@[simp] theorem rest_moveTo (k : Cursor) (rest : List Char) : (k.moveTo rest).rest = rest := rfl

/-! ## Blanks -/

theorem skipBlanks_suffix (comment : Bool) (cs : List Char) : skipBlanks comment cs <:+ cs := by
  induction cs generalizing comment with
  | nil => exact List.suffix_refl []
  | cons c cs ih =>
    rw [skipBlanks]
    split
    · exact (ih _).trans (List.suffix_cons c cs)
    · split
      · exact (ih _).trans (List.suffix_cons c cs)
      · split
        · exact (ih _).trans (List.suffix_cons c cs)
        · exact List.suffix_refl _

theorem skipBlanks_append (comment : Bool) (cs : List Char) :
    skipBlanks comment (cs ++ closing) = skipBlanks comment cs ++ closing ∨
      skipBlanks comment cs = [] ∧ skipBlanks comment (cs ++ closing) = [] := by
  induction cs generalizing comment with
  | nil =>
    cases comment with
    | true => exact .inr ⟨rfl, rfl⟩
    | false => exact .inl rfl
  | cons c cs ih =>
    rw [List.cons_append, skipBlanks, skipBlanks]
    split
    · exact ih _
    · split
      · exact ih _
      · split
        · exact ih _
        · exact .inl rfl

theorem settle_suffix (k : Cursor) : k.settle.rest <:+ k.rest := by
  unfold settle
  split
  · exact skipBlanks_suffix _ _
  · exact List.suffix_refl _

theorem Follows.settle (h : k.Follows k') : k.settle.Follows k'.settle := by
  cases h with
  | swallowed hnil => exact .swallowed (List.suffix_nil.1 (hnil ▸ k.settle_suffix))
  | closed =>
    unfold Cursor.settle
    rw [verbose_closed]
    split
    · rcases skipBlanks_append false k.rest with h | ⟨hnil, hnil'⟩
      · rw [rest_closed, h]
        exact .closed { k with rest := skipBlanks false k.rest }
      · rw [rest_closed, hnil', ← hnil]
        exact .swallowed hnil
    · exact .closed k

theorem Follows.verbose_eq (h : k.Follows k') : k'.verbose = k.verbose := by
  cases h with
  | closed => rfl
  | swallowed => rfl

theorem Follows.withVerbose (h : k.Follows k') (verbose : Bool) :
    ({ k with verbose } : Cursor).Follows { k' with verbose } := by
  cases h with
  | closed => exact .closed { k with verbose }
  | swallowed hnil => exact .swallowed hnil

theorem Follows.eq_closed (h : k.Follows k') (hrest : k.rest = c :: cs) : k' = k.closed := by
  cases h with
  | closed => rfl
  | swallowed hnil => cases hnil.symm.trans hrest

theorem Follows.tail_suffix (h : k.Follows k') (hrest : k.rest = []) : k'.rest.tail <:+ ['\\', 'b'] := by
  cases h with
  | closed =>
    rw [rest_closed, hrest]
    exact List.suffix_refl _
  | swallowed hnil =>
    rw [hnil]
    exact List.nil_suffix

theorem Follows.head?_iff (h : k.Follows k') (hc : c ≠ ')') : k'.rest.head? = some c ↔ k.rest.head? = some c := by
  cases hrest : k.rest with
  | cons d ds => rw [h.eq_closed hrest, rest_closed, hrest, List.cons_append, List.head?_cons, List.head?_cons]
  | nil =>
    cases h with
    | swallowed hnil => rw [hnil]
    | closed =>
      rw [rest_closed, hrest]
      exact iff_of_false (fun h => hc (Option.some.inj h).symm) nofun

theorem next_suffix (k : Cursor) : k.next.rest <:+ k.rest.tail := settle_suffix _

theorem Follows.pass (h : k.Follows k') (hrest : k.rest = c :: cs) :
    (k.moveTo k.rest.tail).Follows (k'.moveTo k'.rest.tail) := by
  rw [h.eq_closed hrest, rest_closed, hrest]
  exact .closed (k.moveTo cs)

theorem Follows.next (h : k.Follows k') (hrest : k.rest = c :: cs) : k.next.Follows k'.next := (h.pass hrest).settle

theorem follows_next (h : k.rest = c :: cs) : k.next.Follows k.closed.next := (Follows.closed k).next h

theorem length_next_lt (h : k.rest = c :: cs) : k.next.rest.length < k.rest.length := by
  have hlength := (next_suffix k).length_le
  rw [h, List.tail_cons] at hlength
  rw [h]
  exact Nat.lt_succ_of_le hlength

theorem length_next_le (h : k.rest = c :: cs) : k.next.rest.length ≤ (c :: cs).length := h ▸ Nat.le_of_lt (length_next_lt h)

end Cursor

/-! ## Runs -/

section

variable {p : Char → Bool} {k k' : Cursor} {n m : Nat}

theorem takeRun_suffix (p : Char → Bool) (n : Nat) (k : Cursor) : (takeRun p n k).2.rest <:+ k.rest := by
  induction n generalizing k with
  | zero => exact List.suffix_refl _
  | succ n ih =>
    rw [takeRun]
    split
    · next c cs h =>
      split
      · exact ((ih k.next).trans k.next_suffix).trans (List.tail_suffix _)
      · exact List.suffix_refl _
    · exact List.suffix_refl _

theorem takeRun_of_nil (h : k.rest = []) : takeRun p n k = ([], k) := by
  cases n with
  | zero => rfl
  | succ n => rw [takeRun, h]

theorem takeRun_of_cons {c : Char} {cs : List Char} (h : k.rest = c :: cs) : takeRun p (n + 1) k =
    if p c then (c :: (takeRun p n k.next).1, (takeRun p n k.next).2) else ([], k) := by
  rw [takeRun, h]

theorem rest_takeRun_of_all (hp : ∀ c ∈ k.rest, p c = true) (hn : k.rest.length ≤ n) : (takeRun p n k).2.rest = [] := by
  induction n generalizing k with
  | zero => exact List.length_eq_zero_iff.1 (Nat.le_zero.1 hn)
  | succ n ih =>
    cases h : k.rest with
    | nil => rw [takeRun_of_nil h, h]
    | cons c cs =>
      have htail : k.next.rest <:+ k.rest := k.next_suffix.trans (List.tail_suffix _)
      have hlt := Cursor.length_next_lt h
      rw [takeRun_of_cons h, if_pos (hp c (h ▸ List.mem_cons_self))]
      exact ih (fun d hd => hp d (htail.subset hd)) (by omega)

theorem takeRun_follows_of_nil (hp : p ')' = true → ∀ c ∈ closing, p c = true) (hnil : k.rest = []) (h : k.Follows k')
    (hm : k'.rest.length ≤ m) :
    ((takeRun p m k').1 = (takeRun p n k).1 ∧ (takeRun p n k).2.Follows (takeRun p m k').2) ∨
      p ')' = true ∧ (takeRun p n k).2.rest = [] ∧ (takeRun p m k').2.rest = [] := by
  rw [takeRun_of_nil hnil]
  cases h with
  | swallowed hnil =>
    rw [takeRun_of_nil hnil]
    exact .inl ⟨rfl, .swallowed hnil⟩
  | closed =>
    have hrest' : k.closed.rest = ')' :: ['\\', 'b'] := by rw [Cursor.rest_closed, hnil]; rfl
    by_cases hparen : p ')' = true
    · exact .inr ⟨hparen, hnil, rest_takeRun_of_all (hrest' ▸ hp hparen) hm⟩
    · have hlt' := Cursor.length_next_lt hrest'
      obtain ⟨m, rfl⟩ : ∃ m', m = m' + 1 := Nat.exists_eq_add_of_le' (Nat.one_le_of_lt (Nat.lt_of_lt_of_le hlt' hm))
      rw [takeRun_of_cons hrest', if_neg hparen]
      exact .inl ⟨rfl, .closed k⟩

/-- **A run** that the parenthesis behind the text ends is the same there, and one that goes on behind it goes to the
end, as it does in the text alone. -/
theorem takeRun_follows_or (hp : p ')' = true → ∀ c ∈ closing, p c = true) (h : k.Follows k') (hn : k.rest.length ≤ n)
    (hm : k'.rest.length ≤ m) :
    ((takeRun p m k').1 = (takeRun p n k).1 ∧ (takeRun p n k).2.Follows (takeRun p m k').2) ∨
      p ')' = true ∧ (takeRun p n k).2.rest = [] ∧ (takeRun p m k').2.rest = [] := by
  induction n generalizing k k' m with
  | zero => exact takeRun_follows_of_nil hp (List.length_eq_zero_iff.1 (Nat.le_zero.1 hn)) h hm
  | succ n ih =>
    cases hrest : k.rest with
    | nil => exact takeRun_follows_of_nil hp hrest h hm
    | cons c cs =>
      obtain rfl := h.eq_closed hrest
      have hrest' : k.closed.rest = c :: (cs ++ closing) := Cursor.rest_closed_of_cons hrest
      have hlt := Cursor.length_next_lt hrest
      have hlt' := Cursor.length_next_lt hrest'
      obtain ⟨m, rfl⟩ : ∃ m', m = m' + 1 := Nat.exists_eq_add_of_le' (Nat.one_le_of_lt (Nat.lt_of_lt_of_le hlt' hm))
      rw [takeRun_of_cons hrest, takeRun_of_cons hrest']
      split
      · rcases ih (m := m) (Cursor.follows_next hrest) (by omega) (by omega) with ⟨hrun, hfollows⟩ | hnil
        · exact .inl ⟨congrArg (c :: ·) hrun, hfollows⟩
        · exact .inr hnil
      · exact .inl ⟨rfl, .closed k⟩

theorem takeRun_follows (hp : p ')' = false) (h : k.Follows k') (hn : k.rest.length ≤ n) (hm : k'.rest.length ≤ m) :
    (takeRun p m k').1 = (takeRun p n k).1 ∧ (takeRun p n k).2.Follows (takeRun p m k').2 :=
  (takeRun_follows_or (fun hparen => absurd (hp.symm.trans hparen) (by decide)) h hn hm).resolve_right
    fun hnil => absurd (hp.symm.trans hnil.1) (by decide)

end

/-! ## Readers -/

/-- **What a reader makes of a text**, and of the text with something behind it.  Where it refuses the text alone it may
take the parenthesis behind it, and then goes on in what stands behind that. -/
inductive Fits {α : Type} : Option (α × Cursor) → Option (α × Cursor) → Prop
  | reads (a : α) {k k' : Cursor} (h : k.Follows k') : Fits (some (a, k)) (some (a, k'))
  | refused : Fits none none
  | beyond (a : α) {k : Cursor} (h : k.rest <:+ ['\\', 'b']) : Fits none (some (a, k))

section

variable {α : Type}

theorem Fits.of_swallowed {a : Option (α × Cursor)} (h : ∀ b k, a = some (b, k) → k.rest = []) : Fits a a := by
  match a with
  | none => exact .refused
  | some (b, k) => exact .reads b (.swallowed (h b k rfl))

theorem Fits.of_none {a : Option (α × Cursor)} (h : ∀ b k, a = some (b, k) → k.rest <:+ ['\\', 'b']) : Fits none a := by
  match a with
  | none => exact .refused
  | some (b, k) => exact .beyond b (h b k rfl)

end

theorem Fits.map {α β : Type} {a a' : Option (α × Cursor)} (h : Fits a a') (f : α → β) :
    Fits (a.map fun (b, k) => (f b, k)) (a'.map fun (b, k) => (f b, k)) := by
  cases h with
  | reads b h => exact .reads (f b) h
  | refused => exact .refused
  | beyond b h => exact .beyond (f b) h

theorem fits_map {α β : Type} {k k' : Cursor} (h : k.Follows k') (a : Option α) (f : α → β) :
    Fits (a.map fun b => (f b, k)) (a.map fun b => (f b, k')) := by
  cases a with
  | none => exact .refused
  | some b => exact .reads (f b) h

theorem Fits.bind {α β : Type} {a a' : Option (α × Cursor)} {f : α × Cursor → Option (β × Cursor)} (h : Fits a a')
    (hf : ∀ a k k', k.Follows k' → Fits (f (a, k)) (f (a, k')))
    (hsuffix : ∀ a b k k', f (a, k) = some (b, k') → k'.rest <:+ k.rest) : Fits (a.bind f) (a'.bind f) := by
  cases h with
  | reads a h => exact hf a _ _ h
  | refused => exact .refused
  | beyond a h => exact .of_none fun b k hb => (hsuffix a b _ _ hb).trans h

theorem fits_behind {α : Type} {a : α} {k k' : Cursor} (h : k.Follows k') : Fits
    (match k.rest with
      | [] => none
      | _ :: rest => some (a, k.moveTo rest))
    (match k'.rest with
      | [] => none
      | _ :: rest => some (a, k'.moveTo rest)) := by
  cases hrest : k.rest with
  | nil =>
    refine .of_none fun b k₁ hb => ?_
    have hsuffix := h.tail_suffix hrest
    split at hb
    · cases hb
    · next heq =>
      cases hb
      rwa [heq] at hsuffix
  | cons c cs =>
    obtain rfl := h.eq_closed hrest
    rw [Cursor.rest_closed, hrest]
    exact .reads a (.closed (k.moveTo cs))

end Pattern
end LineShell
