import LineShell.Proofs.Pattern.Behind
/-!
# Escapes — what a backslash stands for where something stands behind the text

The readers of what may follow a backslash (`readProperty`, `readCode`, `readBoundary`) are opened case by case, and
each reads what it reads of the text alone (`fits_readEscape`).  Only a word boundary that looks behind a brace it finds
open at the end of the text refuses the text alone, and leaves the brace where the parenthesis follows.
-/
namespace LineShell
namespace Pattern

section

variable {k : Cursor} {c d : Char} {cs ds : List Char}

theorem readProperty_of_cons (h : k.next.rest = d :: ds) : readProperty k =
    if d = '\x7b' then
      match (takeRun (· != '\x7d') (d :: ds).length k.next.next).2.rest with
      | [] => none
      | _ :: rest => some (propertyName (k.rest.head? == some 'P') (takeRun (· != '\x7d') (d :: ds).length k.next.next).1,
          (takeRun (· != '\x7d') (d :: ds).length k.next.next).2.moveTo rest)
    else if d = '\\' then none
    else some (.property (.single (String.singleton d)) (k.rest.head? == some 'P'), k.next.next) := by
  unfold readProperty
  dsimp only
  rw [h]
  split
  · next heq => cases heq
  · next heq =>
    cases heq
    rfl
  · next heq =>
    cases heq
    rfl
  · next hbrace hback heq =>
    cases heq
    rw [if_neg hbrace, if_neg hback]

theorem readProperty_of_nil (h : k.next.rest = []) : readProperty k = none := by
  unfold readProperty
  dsimp only
  rw [h]

theorem readProperty_suffix {e : Escape} {k' : Cursor} (h : readProperty k = some (e, k')) :
    k'.rest <:+ k.next.rest.tail := by
  cases hrest : k.next.rest with
  | nil =>
    rw [readProperty_of_nil hrest] at h
    cases h
  | cons d ds =>
    rw [readProperty_of_cons hrest] at h
    have hnext : k.next.next.rest <:+ ds := by simpa [hrest] using k.next.next_suffix
    split at h
    · split at h
      · cases h
      · next c rest hrun =>
        cases h
        have hsuffix := takeRun_suffix (· != '\x7d') (d :: ds).length k.next.next
        rw [hrun] at hsuffix
        exact ((List.suffix_cons c rest).trans hsuffix).trans hnext
    · split at h
      · cases h
      · cases h
        exact hnext

theorem fits_readProperty (hk : k.rest = c :: cs) : Fits (readProperty k) (readProperty k.closed) := by
  have hhead : k.closed.rest.head? = k.rest.head? := by rw [Cursor.rest_closed, hk]; rfl
  have hnext := Cursor.follows_next hk
  cases hrest : k.next.rest with
  | nil =>
    rw [readProperty_of_nil hrest]
    exact .of_none fun e k' h => (readProperty_suffix h).trans (hnext.tail_suffix hrest)
  | cons d ds =>
    have hclosed : k.closed.next = k.next.closed := hnext.eq_closed hrest
    have hrest' : k.closed.next.rest = d :: (ds ++ closing) := by rw [hclosed, Cursor.rest_closed, hrest, List.cons_append]
    have hafter : k.next.next.Follows k.closed.next.next := hclosed ▸ Cursor.follows_next hrest
    rw [readProperty_of_cons hrest, readProperty_of_cons hrest', hhead]
    split
    · have hp : ∀ c ∈ closing, (c != '\x7d') = true := List.all_eq_true.1 rfl
      rcases takeRun_follows_or (fun _ => hp) hafter (Cursor.length_next_le hrest) (Cursor.length_next_le hrest') with
        ⟨hrun, hfollows⟩ | ⟨-, hnil, hnil'⟩
      · rw [hrun]
        exact fits_behind hfollows
      · rw [hnil, hnil']
        exact .refused
    · split
      · exact .refused
      · exact .reads _ hafter

theorem readDigits_succ {count : Nat} {digits : List Char} {k' : Cursor}
    (h : readDigits (count + 1) k = some (digits, k')) : ∃ more, readDigits count k.next = some (more, k') := by
  rw [readDigits] at h
  split at h
  · split at h
    · obtain ⟨⟨more, k₁⟩, hmore, heq⟩ := Option.map_eq_some_iff.1 h
      cases heq
      exact ⟨more, hmore⟩
    · cases h
  · cases h

theorem readDigits_suffix {count : Nat} {digits : List Char} {k' : Cursor} (h : readDigits count k = some (digits, k')) :
    k'.rest <:+ k.rest := by
  induction count generalizing k digits with
  | zero =>
    cases h
    exact List.suffix_refl _
  | succ count ih =>
    obtain ⟨more, hmore⟩ := readDigits_succ h
    exact ((ih hmore).trans k.next_suffix).trans (List.tail_suffix _)

theorem fits_readDigits {count : Nat} {k k' : Cursor} (h : k.Follows k') :
    Fits (readDigits count k) (readDigits count k') := by
  induction count generalizing k k' with
  | zero => exact .reads [] h
  | succ count ih =>
    cases hrest : k.rest with
    | nil =>
      cases h with
      | swallowed hnil => exact .of_swallowed fun _ _ hb => List.suffix_nil.1 (hnil ▸ readDigits_suffix hb)
      | closed =>
        rw [readDigits, readDigits, Cursor.rest_closed, hrest]
        exact .refused
    | cons c cs =>
      obtain rfl := h.eq_closed hrest
      rw [readDigits, readDigits, Cursor.rest_closed, hrest, List.cons_append]
      dsimp only
      split
      · exact (ih (Cursor.follows_next hrest)).map (c :: ·)
      · exact .refused

theorem readCode_of_nil (h : k.next.rest = []) : readCode k = none := by
  unfold readCode
  dsimp only
  rw [h]

def codeLength (k : Cursor) : Nat := if k.rest.head? = some 'x' then 2 else if k.rest.head? = some 'u' then 4 else 8

theorem exists_codeLength (k : Cursor) : ∃ n, codeLength k = n + 1 := by
  unfold codeLength
  split
  · exact ⟨1, rfl⟩
  · split
    · exact ⟨3, rfl⟩
    · exact ⟨7, rfl⟩

theorem readCode_of_cons (h : k.next.rest = d :: ds) : readCode k =
    if d = '\x7b' then
      let run := takeRun (fun c => (CharSet.hexDigit? c).isSome) (d :: ds).length k.next.next
      if run.2.rest.head? = some '\x7d' ∧ run.1 ≠ [] then
        (charOf? (valueOf 16 run.1)).map fun c => (.letter ⟨c, false⟩, run.2.next)
      else none
    else
      (readDigits (codeLength k) k.next).bind fun (digits, k') =>
        (charOf? (valueOf 16 digits)).map fun c => (.letter ⟨c, codeLength k == 2⟩, k') := by
  unfold readCode
  dsimp only
  rw [h]
  split
  · next heq => cases heq
  · next heq =>
    cases heq
    rw [if_pos rfl]
    generalize takeRun (fun c => (CharSet.hexDigit? c).isSome) ('\x7b' :: ds).length k.next.next = run
    split
    · next hrun => simp only [hrun, List.head?_cons, List.isEmpty_iff, true_and, ne_eq, ite_not]
    · next hrun =>
      rw [if_neg fun hends => head?_ne_of_forall hrun hends.1]
  · next hbrace =>
    have hd : ¬ d = '\x7b' := fun heq => hbrace ds (by rw [heq])
    rw [if_neg hd]
    unfold codeLength
    generalize (if k.rest.head? = some 'x' then 2 else if k.rest.head? = some 'u' then 4 else 8) = count
    cases readDigits count k.next <;> rfl

theorem readCode_suffix {e : Escape} {k' : Cursor} (h : readCode k = some (e, k')) : k'.rest <:+ k.next.rest.tail := by
  cases hrest : k.next.rest with
  | nil =>
    rw [readCode_of_nil hrest] at h
    cases h
  | cons d ds =>
    rw [readCode_of_cons hrest] at h
    have hafter : k.next.next.rest <:+ ds := by simpa [hrest] using k.next.next_suffix
    split at h
    · dsimp only at h
      split at h
      · obtain ⟨c, -, heq⟩ := Option.map_eq_some_iff.1 h
        cases heq
        have hrun := takeRun_suffix (fun c => (CharSet.hexDigit? c).isSome) (d :: ds).length k.next.next
        exact ((Cursor.next_suffix _).trans (List.tail_suffix _)).trans (hrun.trans hafter)
      · cases h
    · obtain ⟨⟨digits, k₁⟩, hdigits, hmap⟩ := Option.bind_eq_some_iff.1 h
      obtain ⟨c, -, heq⟩ := Option.map_eq_some_iff.1 hmap
      cases heq
      obtain ⟨n, hn⟩ := exists_codeLength k
      rw [hn] at hdigits
      obtain ⟨more, hmore⟩ := readDigits_succ hdigits
      exact (readDigits_suffix hmore).trans hafter

theorem fits_readCode (hk : k.rest = c :: cs) : Fits (readCode k) (readCode k.closed) := by
  have hlength : codeLength k.closed = codeLength k := by rw [codeLength, codeLength, Cursor.rest_closed, hk]; rfl
  have hnext := Cursor.follows_next hk
  cases hrest : k.next.rest with
  | nil =>
    rw [readCode_of_nil hrest]
    exact .of_none fun e k' h => (readCode_suffix h).trans (hnext.tail_suffix hrest)
  | cons d ds =>
    have hclosed : k.closed.next = k.next.closed := hnext.eq_closed hrest
    have hrest' : k.closed.next.rest = d :: (ds ++ closing) := by rw [hclosed, Cursor.rest_closed, hrest, List.cons_append]
    have hafter : k.next.next.Follows k.closed.next.next := hclosed ▸ Cursor.follows_next hrest
    rw [readCode_of_cons hrest, readCode_of_cons hrest', hlength]
    split
    · have hp : (CharSet.hexDigit? ')').isSome = false := rfl
      obtain ⟨hrun, hfollows⟩ := takeRun_follows (p := fun c => (CharSet.hexDigit? c).isSome) hp hafter
        (Cursor.length_next_le hrest) (Cursor.length_next_le hrest')
      dsimp only
      rw [hrun]
      simp only [hfollows.head?_iff (by decide : '\x7d' ≠ ')')]
      split
      · next hends =>
        obtain ⟨rest, hbrace⟩ := List.head?_eq_some_iff.1 hends.1
        exact fits_map (hfollows.next hbrace) _ _
      · exact .refused
    · exact (fits_readDigits hnext).bind (fun digits k k' h => fits_map h _ _) fun digits e k k' h => by
        obtain ⟨c, -, heq⟩ := Option.map_eq_some_iff.1 h
        cases heq
        exact List.suffix_refl _

def isBoundaryChar (c : Char) : Bool := c.isAlpha || c == '-'

theorem readBoundary_of_ne (h : k.rest.head? ≠ some '\x7b') : readBoundary k = some (.anchor .wordBoundary, k) := by
  unfold readBoundary
  split
  · next hrest => exact absurd (by rw [hrest]; rfl) h
  · rfl

def boundaryOf (run : List Char × Cursor) : Option (Escape × Cursor) :=
  if run.2.rest.head? = some '\x7d' then
    (boundaryNamed? run.1).map fun a => (.anchor a, run.2.moveTo run.2.rest.tail)
  else none

theorem boundaryOf_eq (run : List Char × Cursor) : (match run.2.rest with
    | '\x7d' :: rest => (boundaryNamed? run.1).map fun a => (Escape.anchor a, run.2.moveTo rest)
    | _ => none) = boundaryOf run := by
  unfold boundaryOf
  split
  · next hrun => simp only [hrun, List.head?_cons, if_true, List.tail_cons]
  · next hrun => rw [if_neg (head?_ne_of_forall hrun)]

theorem readBoundary_of_brace (h : k.rest.head? = some '\x7b') : readBoundary k =
    match k.next.rest with
    | [] => none
    | c :: cs =>
      if isBoundaryChar c then boundaryOf (takeRun isBoundaryChar (c :: cs).length k.next)
      else some (.anchor .wordBoundary, k) := by
  obtain ⟨rest, hrest⟩ := List.head?_eq_some_iff.1 h
  unfold readBoundary
  rw [hrest]
  dsimp only
  cases hnext : k.next.rest with
  | nil => rfl
  | cons c cs =>
    dsimp only
    by_cases hc : isBoundaryChar c = true
    · rw [if_pos hc]
      exact (if_pos hc).trans (boundaryOf_eq (takeRun isBoundaryChar (c :: cs).length k.next))
    · rw [if_neg hc]
      exact if_neg hc

theorem readBoundary_suffix {e : Escape} {k' : Cursor} (h : readBoundary k = some (e, k')) : k'.rest <:+ k.rest := by
  by_cases hbrace : k.rest.head? = some '\x7b'
  · rw [readBoundary_of_brace hbrace] at h
    split at h
    · cases h
    · next c cs hnext =>
      split at h
      · unfold boundaryOf at h
        split at h
        · obtain ⟨a, -, heq⟩ := Option.map_eq_some_iff.1 h
          cases heq
          exact (((List.tail_suffix _).trans (takeRun_suffix _ _ _)).trans k.next_suffix).trans (List.tail_suffix _)
        · cases h
      · cases h
        exact List.suffix_refl _
  · rw [readBoundary_of_ne hbrace] at h
    cases h
    exact List.suffix_refl _

/-- **What an escape makes of a text**, and of the text with something behind it, where a word boundary whose brace the
text alone leaves open leaves it to be read as something else. -/
def FitsEscape (a a' : Option (Escape × Cursor)) : Prop :=
  Fits a a' ∨ a = none ∧ ∃ k : Cursor, a' = some (.anchor .wordBoundary, k.closed) ∧ k.rest.head? = some '\x7b' ∧
    k.next.rest = []

theorem fits_readBoundary (k : Cursor) : FitsEscape (readBoundary k) (readBoundary k.closed) := by
  have hhead : k.closed.rest.head? = some '\x7b' ↔ k.rest.head? = some '\x7b' :=
    (Cursor.Follows.closed k).head?_iff (by decide)
  by_cases hbrace : k.rest.head? = some '\x7b'
  · obtain ⟨rest, hrest⟩ := List.head?_eq_some_iff.1 hbrace
    have hnext := Cursor.follows_next hrest
    rw [readBoundary_of_brace hbrace, readBoundary_of_brace (hhead.2 hbrace)]
    cases hinside : k.next.rest with
    | nil =>
      generalize k.closed.next = inside at hnext
      cases hnext with
      | swallowed hnil =>
        rw [hnil]
        exact .inl .refused
      | closed =>
        rw [Cursor.rest_closed, hinside]
        exact .inr ⟨rfl, k, rfl, hbrace, hinside⟩
    | cons c cs =>
      have hclosed : k.closed.next.rest = c :: (cs ++ closing) := by
        rw [hnext.eq_closed hinside, Cursor.rest_closed, hinside, List.cons_append]
      rw [hclosed]
      dsimp only
      split
      · have hp : isBoundaryChar ')' = false := rfl
        have hn : k.next.rest.length ≤ (c :: cs).length := hinside ▸ Nat.le_refl _
        have hm : k.closed.next.rest.length ≤ (c :: (cs ++ closing)).length := hclosed ▸ Nat.le_refl _
        obtain ⟨hrun, hfollows⟩ := takeRun_follows hp hnext hn hm
        unfold boundaryOf
        rw [hrun]
        simp only [hfollows.head?_iff (by decide : '\x7d' ≠ ')')]
        split
        · next hends =>
          obtain ⟨rest, hrest⟩ := List.head?_eq_some_iff.1 hends
          exact .inl (fits_map (hfollows.pass hrest) _ _)
        · exact .inl .refused
      · exact .inl (.reads _ (.closed k))
  · rw [readBoundary_of_ne hbrace, readBoundary_of_ne (mt hhead.1 hbrace)]
    exact .inl (.reads _ (.closed k))

/-- What a character stands for behind a backslash, where nothing else belongs to it. -/
def plainEscape? (c : Char) : Option Escape :=
  if isEscapable c then some (.letter ⟨c, false⟩)
  else
    match c with
    | 'd' => some (.shorthand .digit false)
    | 'D' => some (.shorthand .digit true)
    | 's' => some (.shorthand .blank false)
    | 'S' => some (.shorthand .blank true)
    | 'w' => some (.shorthand .word false)
    | 'W' => some (.shorthand .word true)
    | 'a' => some (.letter ⟨Char.ofNat 0x07, false⟩)
    | 'f' => some (.letter ⟨Char.ofNat 0x0C, false⟩)
    | 't' => some (.letter ⟨Char.ofNat 0x09, false⟩)
    | 'n' => some (.letter ⟨Char.ofNat 0x0A, false⟩)
    | 'r' => some (.letter ⟨Char.ofNat 0x0D, false⟩)
    | 'v' => some (.letter ⟨Char.ofNat 0x0B, false⟩)
    | 'A' => some (.anchor .textStart)
    | 'z' => some (.anchor .textEnd)
    | 'B' => some (.anchor .notWordBoundary)
    | '<' => some (.anchor .wordStart)
    | '>' => some (.anchor .wordEnd)
    | _ => none

theorem readEscape_of_nil (h : k.rest.tail = []) : readEscape k = none := by
  unfold readEscape
  dsimp only [Cursor.moveTo]
  rw [h]

theorem readEscape_of_cons (h : k.rest.tail = c :: cs) : readEscape k =
    if c.isDigit then none
    else if c = 'x' ∨ c = 'u' ∨ c = 'U' then readCode (k.moveTo (c :: cs))
    else if c = 'p' ∨ c = 'P' then readProperty (k.moveTo (c :: cs))
    else if c = 'b' then readBoundary (k.moveTo cs)
    else (plainEscape? c).map fun e => (e, k.moveTo cs) := by
  unfold readEscape
  dsimp only
  rw [h]
  dsimp only [Cursor.rest_moveTo]
  split
  · rfl
  split
  · rfl
  split
  · rfl
  unfold plainEscape?
  by_cases hb : c = 'b'
  · subst hb
    rfl
  · rw [if_neg hb]
    split
    · rfl
    · -- The letters are the same in both, but for the `b`.
      split <;> first | rfl | exact absurd rfl hb | (split <;> first | rfl | contradiction)

theorem readEscape_suffix {e : Escape} {k' : Cursor} (h : readEscape k = some (e, k')) : k'.rest <:+ k.rest.tail.tail := by
  cases hrest : k.rest.tail with
  | nil =>
    rw [readEscape_of_nil hrest] at h
    cases h
  | cons c cs =>
    have hnext : (k.moveTo (c :: cs)).next.rest <:+ cs := (k.moveTo (c :: cs)).next_suffix
    rw [readEscape_of_cons hrest] at h
    split at h
    · cases h
    split at h
    · exact ((readCode_suffix h).trans (List.tail_suffix _)).trans hnext
    split at h
    · exact ((readProperty_suffix h).trans (List.tail_suffix _)).trans hnext
    split at h
    · exact readBoundary_suffix h
    · obtain ⟨e, -, heq⟩ := Option.map_eq_some_iff.1 h
      cases heq
      exact List.suffix_refl _

/-- **An escape** is read as it is in the text alone. -/
theorem fits_readEscape (hk : k.rest = c :: cs) : FitsEscape (readEscape k) (readEscape k.closed) := by
  have htail : k.closed.rest.tail = cs ++ closing := by rw [Cursor.rest_closed, hk]; rfl
  cases cs with
  | nil =>
    rw [readEscape_of_nil (by rw [hk]; rfl)]
    refine .inl (.of_none fun e k' h => ?_)
    have hsuffix := readEscape_suffix h
    rwa [htail] at hsuffix
  | cons d ds =>
    rw [readEscape_of_cons (by rw [hk]; rfl : k.rest.tail = d :: ds),
      readEscape_of_cons (htail.trans (List.cons_append ..) : k.closed.rest.tail = d :: (ds ++ closing))]
    split
    · exact .inl .refused
    split
    · exact .inl (fits_readCode (k := k.moveTo (d :: ds)) rfl)
    split
    · exact .inl (fits_readProperty (k := k.moveTo (d :: ds)) rfl)
    split
    · exact fits_readBoundary (k.moveTo ds)
    · exact .inl (fits_map (.closed (k.moveTo ds)) _ _)

end

end Pattern
end LineShell
