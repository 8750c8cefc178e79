import LineShell.Proofs.Pattern.Classes
/-!
# Parts — the steps of a pattern where something stands behind the text

A pattern is read step by step (`readPart`, `readBody_succ`).  Every step is read as in the text alone; where that has
ended, the parenthesis behind it comes next, and where that is refused, nothing that closes a group is left behind the
step (`fits_readPart`).
-/
namespace LineShell
namespace Pattern

section

variable {k k' : Cursor} {c d : Char} {cs ds : List Char}

/-! ## Opening parentheses -/

theorem readSwitches_ne_nil {items read : List SwitchItem} (h : readSwitches items cs = some (read, ds)) : ds ≠ [] := by
  induction cs generalizing items with
  | nil => cases h
  | cons c cs ih =>
    rw [readSwitches] at h
    split at h
    · split at h
      · cases h
      · cases h
        exact List.cons_ne_nil c cs
    · dsimp only at h
      split at h
      · cases h
      · split at h
        · cases h
        · exact ih h

theorem readSwitches_suffix {items read : List SwitchItem} (h : readSwitches items cs = some (read, ds)) : ds <:+ cs := by
  induction cs generalizing items with
  | nil => cases h
  | cons c cs ih =>
    rw [readSwitches] at h
    split at h
    · split at h
      · cases h
      · cases h
        exact List.suffix_refl _
    · dsimp only at h
      split at h
      · cases h
      · split at h
        · cases h
        · exact (ih h).trans (List.suffix_cons c cs)

theorem readSwitches_closed (items : List SwitchItem) (cs : List Char) :
    readSwitches items (cs ++ closing) = (readSwitches items cs).map (fun (read, rest) => (read, rest ++ closing)) ∨
      readSwitches items cs = none ∧ ∃ read, readSwitches items (cs ++ closing) = some (read, closing) := by
  induction cs generalizing items with
  | nil =>
    rw [List.nil_append, closing, readSwitches, readSwitches, if_pos (.inr rfl)]
    split
    · exact .inl rfl
    · exact .inr ⟨rfl, _, rfl⟩
  | cons c cs ih =>
    rw [List.cons_append, readSwitches, readSwitches]
    split
    · split
      · exact .inl rfl
      · exact .inl rfl
    · dsimp only
      split
      · exact .inl rfl
      · split
        · exact .inl rfl
        · exact ih _

theorem readName_suffix {name read : List Char} (h : readName name cs = some (read, ds)) : ds <:+ cs := by
  induction cs generalizing name with
  | nil => cases h
  | cons c cs ih =>
    unfold readName at h
    split at h
    · next heq => cases heq
    · next heq =>
      cases heq
      split at h
      · cases h
      · cases h
        exact List.suffix_cons _ _
    · next heq =>
      cases heq
      split at h
      · exact (ih h).trans (List.suffix_cons c cs)
      · cases h

theorem readName_of_not_mem {name : List Char} (h : '>' ∉ cs) : readName name cs = none := by
  induction cs generalizing name with
  | nil => rfl
  | cons c cs ih =>
    unfold readName
    split
    · rfl
    · next heq =>
      cases heq
      exact absurd List.mem_cons_self h
    · next heq =>
      cases heq
      rw [ih fun hmem => h (List.mem_cons_of_mem _ hmem), ite_self]

theorem readName_closed (name cs : List Char) :
    readName name (cs ++ closing) = (readName name cs).map fun (read, rest) => (read, rest ++ closing) := by
  induction cs generalizing name with
  | nil => exact readName_of_not_mem (by decide)
  | cons c cs ih =>
    by_cases hmark : c = '>'
    · subst hmark
      rw [List.cons_append, readName, readName]
      split <;> rfl
    · have hread : ∀ cs, readName name (c :: cs) = if isNameChar name.isEmpty c then readName (c :: name) cs else none := by
        intro cs
        rw [readName]
        exact hmark
      rw [List.cons_append, hread, hread]
      split
      · exact ih _
      · rfl

theorem prefix_closed_iff (h : ')' ∉ ds) : ds <+: cs ++ closing ↔ ds <+: cs := by
  induction ds generalizing cs with
  | nil => exact iff_of_true List.nil_prefix List.nil_prefix
  | cons d ds ih =>
    cases cs with
    | nil =>
      refine iff_of_false (fun hprefix => h ?_) fun hprefix => by cases List.prefix_nil.1 hprefix
      rw [(List.cons_prefix_cons.1 hprefix).1]
      exact List.mem_cons_self
    | cons c cs =>
      rw [List.cons_append, List.cons_prefix_cons, List.cons_prefix_cons, ih fun hmem => h (List.mem_cons_of_mem d hmem)]

def LooksAround (text : List Char) : Prop :=
  ['='] <+: text ∨ ['!'] <+: text ∨ ['<', '='] <+: text ∨ ['<', '!'] <+: text

instance (text : List Char) : Decidable (LooksAround text) :=
  inferInstanceAs (Decidable (_ ∨ _ ∨ _ ∨ _))

theorem looksAround_closed (cs : List Char) : LooksAround (cs ++ closing) ↔ LooksAround cs := by
  unfold LooksAround
  rw [prefix_closed_iff (by decide), prefix_closed_iff (by decide), prefix_closed_iff (by decide),
    prefix_closed_iff (by decide)]

def readNamed (k : Cursor) (text : List Char) : Option (Opening × Cursor) :=
  (readName [] text).bind fun (name, rest) =>
    if k.names.contains name then none else some (.group .capturing, { k with rest, names := name :: k.names })

def readFlags (k : Cursor) (text : List Char) : Option (Opening × Cursor) :=
  (readSwitches [] text).bind fun (items, rest) =>
    if rest.head? = some ')' then if items.isEmpty then none else some (.switches items, k.moveTo rest.tail)
    else if rest = [] then none
    else some (.group (.plain items), k.moveTo rest.tail)

theorem readNamed_eq (k : Cursor) (text : List Char) : (match readName [] text with
    | some (name, rest) =>
      if k.names.contains name then none
      else some (Opening.group .capturing, { k with rest, names := name :: k.names })
    | none => none) = readNamed k text := by
  unfold readNamed
  cases readName [] text <;> rfl

theorem readOpening_of_ne (h : k.next.rest.head? ≠ some '?') : readOpening k = some (.group .capturing, k.next) := by
  have hne : ∀ cs, k.next.rest ≠ '?' :: cs := fun cs heq => h (by rw [heq]; rfl)
  unfold readOpening
  dsimp only
  split
  · next heq => exact absurd heq (hne _)
  · next heq => exact absurd heq (hne _)
  · next heq => exact absurd heq (hne _)
  · next heq => exact absurd heq (hne _)
  · next heq => exact absurd heq (hne _)
  · next heq => exact absurd heq (hne _)
  · next heq => exact absurd heq (hne _)
  · rfl

theorem readOpening_of_question (h : k.next.rest = '?' :: cs) : readOpening k =
    if LooksAround cs then none
    else if ['P', '<'] <+: cs then readNamed k.next (cs.drop 2)
    else if ['<'] <+: cs then readNamed k.next cs.tail
    else readFlags k.next cs := by
  unfold readOpening
  dsimp only
  rw [h]
  split
  · next heq =>
    cases heq
    rw [if_pos (.inl ⟨_, rfl⟩)]
  · next heq =>
    cases heq
    rw [if_pos (.inr (.inl ⟨_, rfl⟩))]
  · next heq =>
    cases heq
    rw [if_pos (.inr (.inr (.inl ⟨_, rfl⟩)))]
  · next heq =>
    cases heq
    rw [if_pos (.inr (.inr (.inr ⟨_, rfl⟩)))]
  · next rest heq =>
    cases heq
    have hlooks : ¬ LooksAround ('P' :: '<' :: rest) := by simp [LooksAround]
    rw [if_neg hlooks, if_pos ⟨rest, rfl⟩]
    exact readNamed_eq k.next rest
  · next rest hbehind hbefore heq =>
    cases heq
    have hlooks : ¬ LooksAround ('<' :: rest) := by
      rintro (⟨_, h⟩ | ⟨_, h⟩ | ⟨_, h⟩ | ⟨_, h⟩)
      · cases h
      · cases h
      · exact hbehind _ (List.cons.inj h).2.symm
      · exact hbefore _ (List.cons.inj h).2.symm
    rw [if_neg hlooks, if_neg (by simp), if_pos ⟨rest, rfl⟩]
    exact readNamed_eq k.next rest
  · next rest hequal hexclaim hbehind hbefore hlong hshort heq =>
    cases heq
    have hlooks : ¬ LooksAround cs := by
      rintro (⟨_, h⟩ | ⟨_, h⟩ | ⟨_, h⟩ | ⟨_, h⟩)
      · exact hequal _ h.symm
      · exact hexclaim _ h.symm
      · exact hbehind _ h.symm
      · exact hbefore _ h.symm
    rw [if_neg hlooks, if_neg fun ⟨_, h⟩ => hlong _ h.symm, if_neg fun ⟨_, h⟩ => hshort _ h.symm, readFlags]
    cases readSwitches [] cs with
    | none => rfl
    | some read =>
      obtain ⟨items, after⟩ := read
      dsimp only [Option.bind_some]
      split
      · next heq =>
        cases heq
        rfl
      · next hparen heq =>
        cases heq
        rw [if_neg, if_neg (List.cons_ne_nil _ _)]
        · rfl
        · intro hhead
          cases Option.some.inj hhead
          exact hparen rfl
      · next hparen hcons =>
        cases after with
        | nil => rfl
        | cons c cs => cases hcons _ _ _ rfl
  · next hne => cases hne _ rfl

theorem readNamed_suffix {opening : Opening} (h : readNamed k cs = some (opening, k')) : k'.rest <:+ cs := by
  obtain ⟨⟨name, rest⟩, hname, h⟩ := Option.bind_eq_some_iff.1 h
  dsimp only at h
  split at h
  · cases h
  · cases h
    exact readName_suffix hname

theorem readFlags_suffix {opening : Opening} (h : readFlags k cs = some (opening, k')) : k'.rest <:+ cs := by
  obtain ⟨⟨items, rest⟩, hitems, h⟩ := Option.bind_eq_some_iff.1 h
  have hsuffix := readSwitches_suffix hitems
  dsimp only at h
  split at h
  · split at h
    · cases h
    · cases h
      exact (List.tail_suffix _).trans hsuffix
  · split at h
    · cases h
    · cases h
      exact (List.tail_suffix _).trans hsuffix

theorem readOpening_suffix {opening : Opening} (h : readOpening k = some (opening, k')) : k'.rest <:+ k.rest.tail := by
  refine List.IsSuffix.trans ?_ k.next_suffix
  by_cases hquestion : k.next.rest.head? = some '?'
  · obtain ⟨cs, hrest⟩ := List.head?_eq_some_iff.1 hquestion
    rw [readOpening_of_question hrest] at h
    refine List.IsSuffix.trans ?_ (hrest ▸ List.suffix_cons '?' cs)
    split at h
    · cases h
    split at h
    · exact (readNamed_suffix h).trans (List.drop_suffix 2 cs)
    split at h
    · exact (readNamed_suffix h).trans (List.tail_suffix cs)
    · exact readFlags_suffix h
  · rw [readOpening_of_ne hquestion] at h
    cases h
    exact List.suffix_refl _

theorem fits_readNamed (k : Cursor) (cs : List Char) : Fits (readNamed k cs) (readNamed k.closed (cs ++ closing)) := by
  unfold readNamed
  rw [readName_closed]
  cases readName [] cs with
  | none => exact .refused
  | some read =>
    dsimp only [Option.map_some, Option.bind_some]
    by_cases htaken : k.names.contains read.1 = true
    · rw [if_pos htaken, Cursor.names_closed, if_pos htaken]
      exact .refused
    · rw [if_neg htaken, Cursor.names_closed, if_neg htaken]
      exact .reads _ (.closed { k with rest := read.2, names := read.1 :: k.names })

theorem readFlags_of_none (h : readSwitches [] cs = none) : readFlags k cs = none := by
  rw [readFlags, h]
  rfl

theorem readFlags_of_some {items : List SwitchItem} (h : readSwitches [] cs = some (items, d :: ds)) : readFlags k cs =
    if d = ')' then if items.isEmpty then none else some (.switches items, k.moveTo ds)
    else some (.group (.plain items), k.moveTo ds) := by
  rw [readFlags, h]
  dsimp only [Option.bind_some]
  rw [List.head?_cons, if_neg (List.cons_ne_nil d ds), List.tail_cons]
  simp only [Option.some.injEq]

/-- **Flags** are read as in the text alone, or with the parenthesis behind it. -/
theorem fits_readFlags (k : Cursor) (cs : List Char) : Fits (readFlags k cs) (readFlags k.closed (cs ++ closing)) := by
  rcases readSwitches_closed [] cs with hread | ⟨hnone, items, hread⟩
  · cases hplain : readSwitches [] cs with
    | none => 
      rw [hplain] at hread
      rw [readFlags_of_none hplain, readFlags_of_none hread]
      exact .refused
    | some read =>
      obtain ⟨items, rest⟩ := read
      obtain ⟨d, ds, rfl⟩ := List.exists_cons_of_ne_nil (readSwitches_ne_nil hplain)
      rw [hplain] at hread
      rw [readFlags_of_some hplain, readFlags_of_some hread]
      split
      · split
        · exact .refused
        · exact .reads _ (.closed (k.moveTo ds))
      · exact .reads _ (.closed (k.moveTo ds))
  · rw [readFlags_of_none hnone, readFlags_of_some hread, if_pos rfl]
    split
    · exact .refused
    · exact .beyond _ (List.suffix_refl _)

/-- **An opening parenthesis** is read as in the text alone, or with the parenthesis behind that. -/
theorem fits_readOpening (hk : k.rest = c :: cs) : Fits (readOpening k) (readOpening k.closed) := by
  have hnext := Cursor.follows_next hk
  have hhead : k.closed.next.rest.head? = some '?' ↔ k.next.rest.head? = some '?' := hnext.head?_iff (by decide)
  by_cases hquestion : k.next.rest.head? = some '?'
  · obtain ⟨ds, hrest⟩ := List.head?_eq_some_iff.1 hquestion
    have hclosed : k.closed.next = k.next.closed := hnext.eq_closed hrest
    have hrest' : k.closed.next.rest = '?' :: (ds ++ closing) := by rw [hclosed, Cursor.rest_closed_of_cons hrest]
    rw [readOpening_of_question hrest, readOpening_of_question hrest', hclosed]
    simp only [looksAround_closed, prefix_closed_iff (by decide : ')' ∉ ['P', '<']),
      prefix_closed_iff (by decide : ')' ∉ ['<'])]
    split
    · exact .refused
    split
    · next hlong =>
      obtain ⟨rest, rfl⟩ := hlong
      exact fits_readNamed k.next rest
    split
    · next hshort =>
      obtain ⟨rest, rfl⟩ := hshort
      exact fits_readNamed k.next rest
    · exact fits_readFlags k.next ds
  · rw [readOpening_of_ne hquestion, readOpening_of_ne (mt hhead.1 hquestion)]
    exact .reads _ hnext

/-! ## Repetitions -/

theorem skipReluctant_of_question (h : k.rest = '?' :: cs) : skipReluctant k = k.moveTo cs := by
  rw [skipReluctant, h]
  rfl

theorem skipReluctant_of_ne (h : k.rest.head? ≠ some '?') : skipReluctant k = k := by
  unfold skipReluctant
  split
  · next hrest => exact absurd (by rw [hrest]; rfl) h
  · rfl

theorem skipReluctant_suffix (k : Cursor) : (skipReluctant k).rest <:+ k.rest := by
  unfold skipReluctant
  split
  · next hrest =>
    rw [hrest]
    exact List.suffix_cons _ _
  · exact List.suffix_refl _

theorem skipReluctant_follows (h : k.Follows k') : (skipReluctant k).Follows (skipReluctant k') := by
  by_cases hquestion : k.rest.head? = some '?'
  · obtain ⟨cs, hrest⟩ := List.head?_eq_some_iff.1 hquestion
    obtain rfl := h.eq_closed hrest
    rw [skipReluctant_of_question hrest, skipReluctant_of_question (Cursor.rest_closed_of_cons hrest)]
    exact .closed (k.moveTo cs)
  · rw [skipReluctant_of_ne hquestion, skipReluctant_of_ne (mt (h.head?_iff (by decide)).1 hquestion)]
    exact h

def trimmed (k : Cursor) : Cursor := k.moveTo (k.rest.dropWhile isBlank)

theorem trimmed_suffix (k : Cursor) : (trimmed k).rest <:+ k.rest := List.dropWhile_suffix _

theorem trimmed_follows (h : k.Follows k') : (trimmed k).Follows (trimmed k') := by
  cases h with
  | swallowed hnil => exact .swallowed (List.suffix_nil.1 (hnil ▸ trimmed_suffix k))
  | closed =>
    unfold trimmed
    rw [Cursor.rest_closed, dropWhile_closing rfl]
    exact .closed (k.moveTo (k.rest.dropWhile isBlank))

def digitsOf (k : Cursor) : List Char × Cursor := takeRun (fun c => c.isDigit) (trimmed k).rest.length (trimmed k)

theorem readDecimal_eq (k : Cursor) : readDecimal k =
    (if (digitsOf k).1.isEmpty || 0xFFFFFFFF < valueOf 10 (digitsOf k).1 then none
      else some (valueOf 10 (digitsOf k).1), (trimmed (digitsOf k).2).settle) := rfl

theorem readDecimal_suffix (k : Cursor) : (readDecimal k).2.rest <:+ k.rest := by
  rw [readDecimal_eq]
  exact (((Cursor.settle_suffix _).trans (trimmed_suffix _)).trans (takeRun_suffix _ _ _)).trans (trimmed_suffix k)

/-- **A number** is read as in the text alone. -/
theorem readDecimal_follows (h : k.Follows k') :
    (readDecimal k').1 = (readDecimal k).1 ∧ (readDecimal k).2.Follows (readDecimal k').2 := by
  obtain ⟨hdigits, hfollows⟩ := takeRun_follows (p := fun c => c.isDigit) rfl (trimmed_follows h) (Nat.le_refl _)
    (Nat.le_refl _)
  rw [readDecimal_eq, readDecimal_eq]
  unfold digitsOf
  rw [hdigits]
  exact ⟨rfl, (trimmed_follows hfollows).settle⟩

theorem readDecimal_of_nil (h : k.rest = []) : (readDecimal k).1 = none := by
  have hnil : (trimmed k).rest = [] := List.suffix_nil.1 (h ▸ trimmed_suffix k)
  rw [readDecimal_eq, digitsOf, takeRun_of_nil hnil]
  rfl

def closeCount (least : Nat) (most : Option Nat) (k : Cursor) : Option ((Nat × Option Nat) × Cursor) :=
  if k.rest.head? = some '\x7d' then if most.any (· < least) then none else some ((least, most), skipReluctant k.next)
  else none

theorem closeCount_eq (least : Nat) (most : Option Nat) (k : Cursor) : (match k.rest with
    | '\x7d' :: _ => if most.any (· < least) then none else some (least, most, skipReluctant k.next)
    | _ => none) = (closeCount least most k).map fun ((least, most), k) => (least, most, k) := by
  unfold closeCount
  split
  · next hrest =>
    rw [hrest, List.head?_cons, if_pos rfl]
    split <;> rfl
  · next hne =>
    rw [if_neg (head?_ne_of_forall hne)]
    rfl

def readMost (least : Nat) (k : Cursor) : Option ((Nat × Option Nat) × Cursor) :=
  if k.next.rest.head? = some '\x7d' then closeCount least none k.next
  else (readDecimal k.next).1.bind fun most => closeCount least (some most) (readDecimal k.next).2

theorem readCount_eq (k : Cursor) : readCount k =
    ((readDecimal k.next).1.bind fun least =>
      if (readDecimal k.next).2.rest.head? = some ',' then readMost least (readDecimal k.next).2
      else closeCount least (some least) (readDecimal k.next).2).map fun ((least, most), k) => (least, most, k) := by
  unfold readCount
  dsimp only
  generalize k.next = k
  by_cases hnil : k.rest = []
  · rw [if_pos (List.isEmpty_iff.2 hnil), readDecimal_of_nil hnil]
    rfl
  rw [if_neg (mt List.isEmpty_iff.1 hnil)]
  obtain ⟨least, k⟩ := readDecimal k
  cases least with
  | none =>
    dsimp only
    split
    · next heq => cases heq
    · next heq _ => cases heq
    · rfl
  | some least =>
    dsimp only [Option.bind_some]
    split
    · next least' rest hrest heq =>
      cases heq
      rw [hrest, List.head?_cons, if_pos rfl]
      unfold readMost
      generalize k.next = k
      split
      · next hbrace =>
        rw [hbrace, List.head?_cons, if_pos rfl, ← closeCount_eq]
        simp only [hbrace]
      · next hnil =>
        rw [hnil, if_neg (by simp), readDecimal_of_nil hnil]
        rfl
      · next hbrace _ =>
        rw [if_neg (head?_ne_of_forall hbrace)]
        obtain ⟨most, k⟩ := readDecimal k
        cases most with
        | none => rfl
        | some most => exact closeCount_eq least (some most) k
    · next least' heq hcomma =>
      cases heq
      rw [if_neg (head?_ne_of_forall hcomma)]
      exact closeCount_eq least (some least) k
    · next heq => cases heq

theorem closeCount_suffix {least : Nat} {most : Option Nat} {count : Nat × Option Nat}
    (h : closeCount least most k = some (count, k')) : k'.rest <:+ k.rest := by
  unfold closeCount at h
  split at h
  · split at h
    · cases h
    · cases h
      exact (skipReluctant_suffix _).trans (k.next_suffix.trans (List.tail_suffix _))
  · cases h

theorem readMost_suffix {least : Nat} {count : Nat × Option Nat} (h : readMost least k = some (count, k')) :
    k'.rest <:+ k.rest := by
  have hnext : k.next.rest <:+ k.rest := k.next_suffix.trans (List.tail_suffix _)
  unfold readMost at h
  split at h
  · exact (closeCount_suffix h).trans hnext
  · obtain ⟨most, -, h⟩ := Option.bind_eq_some_iff.1 h
    exact ((closeCount_suffix h).trans (readDecimal_suffix _)).trans hnext

theorem readCount_suffix {least : Nat} {most : Option Nat} (h : readCount k = some (least, most, k')) :
    k'.rest <:+ k.rest.tail := by
  rw [readCount_eq] at h
  obtain ⟨⟨count, k₁⟩, hcount, heq⟩ := Option.map_eq_some_iff.1 h
  cases heq
  refine List.IsSuffix.trans ?_ ((readDecimal_suffix k.next).trans k.next_suffix)
  obtain ⟨least, -, h⟩ := Option.bind_eq_some_iff.1 hcount
  split at h
  · exact readMost_suffix h
  · exact closeCount_suffix h

theorem fits_closeCount (least : Nat) (most : Option Nat) (h : k.Follows k') :
    Fits (closeCount least most k) (closeCount least most k') := by
  unfold closeCount
  simp only [h.head?_iff (by decide : '\x7d' ≠ ')')]
  split
  · next hbrace =>
    obtain ⟨cs, hrest⟩ := List.head?_eq_some_iff.1 hbrace
    split
    · exact .refused
    · exact .reads _ (skipReluctant_follows (h.next hrest))
  · exact .refused

theorem fits_readMost (least : Nat) (h : k.Follows k') (hk : k.rest = c :: cs) :
    Fits (readMost least k) (readMost least k') := by
  have hnext := h.next hk
  obtain ⟨hmost, hfollows⟩ := readDecimal_follows hnext
  unfold readMost
  rw [hmost]
  simp only [hnext.head?_iff (by decide : '\x7d' ≠ ')')]
  split
  · exact fits_closeCount least none hnext
  · cases (readDecimal k.next).1 with
    | none => exact .refused
    | some most => exact fits_closeCount least (some most) hfollows

/-- **A repetition in braces** is read as in the text alone. -/
theorem fits_readCount (hk : k.rest = c :: cs) : Fits
    ((readCount k).map fun (least, most, k) => ((least, most), k))
    ((readCount k.closed).map fun (least, most, k) => ((least, most), k)) := by
  have hid : ∀ a : Option ((Nat × Option Nat) × Cursor), (a.map fun ((least, most), k) => (least, most, k)).map
      (fun (least, most, k) => ((least, most), k)) = a := by
    rintro (_ | _) <;> rfl
  obtain ⟨hleast, hfollows⟩ := readDecimal_follows (Cursor.follows_next hk)
  rw [readCount_eq, readCount_eq, hid, hid, hleast]
  cases (readDecimal k.next).1 with
  | none => exact .refused
  | some least =>
    simp only [Option.bind_some, hfollows.head?_iff (by decide : ',' ≠ ')')]
    split
    · next hcomma =>
      obtain ⟨cs, hrest⟩ := List.head?_eq_some_iff.1 hcomma
      exact fits_readMost least hfollows hrest
    · exact fits_closeCount least (some least) hfollows

theorem readCount_closed_of_nil (hk : k.rest = c :: cs) (hnil : k.next.rest = []) : readCount k.closed = none := by
  rw [readCount_eq, (readDecimal_follows (Cursor.follows_next hk)).1, readDecimal_of_nil hnil]
  rfl

/-! ## Steps -/

inductive Part where
  /-- The end of the text. -/
  | ends
  /-- A closing parenthesis. -/
  | closes
  | bar
  | piece (a : Ast)
  | repeats (least : Nat) (most : Option Nat)
  /-- A group, to be read on from the cursor, with whether blanks are skipped behind it. -/
  | opens (kind : GroupKind) (verbose : Bool)

def astOf : Escape → Ast
  | .letter l => .letter l
  | .anchor a => .anchor a
  | .property name negated => .property name negated
  | .shorthand s negated => .shorthand s negated

def openedPart (verbose : Bool) : Opening → Part
  | .switches items => .piece (.switches items)
  | .group kind => .opens kind verbose

/-- Whether blanks are skipped behind an opening parenthesis, from whether they are around it. -/
def openedVerbose (outer inner : Bool) : Opening → Bool
  | .switches items => verboseOf items inner
  | .group (.plain items) => verboseOf items outer
  | .group .capturing => outer

def openedBy (verbose : Bool) (opening : Opening × Cursor) : Part × Cursor :=
  (openedPart verbose opening.1, { opening.2 with verbose := openedVerbose verbose opening.2.verbose opening.1 })

def pieceOf (c : Char) : Ast :=
  if c = '.' then .dot
  else if c = '^' then .anchor .lineStart
  else if c = '$' then .anchor .lineEnd
  else .letter ⟨c, false⟩

def readPartOf (c : Char) (cs : List Char) (k : Cursor) : Option (Part × Cursor) :=
  if c = '(' then (readOpening k).map (openedBy k.verbose)
  else if c = ')' then some (.closes, k.moveTo cs)
  else if c = '|' then some (.bar, k.moveTo cs)
  else if c = '[' then (readClass k).map fun (a, k) => (.piece a, k)
  else if c = '?' then some (.repeats 0 (some 1), skipReluctant (k.moveTo cs))
  else if c = '*' then some (.repeats 0 none, skipReluctant (k.moveTo cs))
  else if c = '+' then some (.repeats 1 none, skipReluctant (k.moveTo cs))
  else if c = '\x7b' then (readCount k).map fun (least, most, k) => (.repeats least most, k)
  else if c = '\\' then (readEscape k).map fun (e, k) => (.piece (astOf e), k)
  else some (.piece (pieceOf c), k.moveTo cs)

def readPart (k : Cursor) : Option (Part × Cursor) :=
  match k.rest with
  | [] => some (.ends, k)
  | c :: cs => readPartOf c cs k

def bodyOf (branches parts : List Ast) : Ast := Ast.ofBranches (Ast.ofParts parts.reverse :: branches).reverse

def afterPart (n : Nat) (inGroup : Bool) (branches parts : List Ast) : Part × Cursor → Option (Ast × Cursor)
  | (.ends, k) => if inGroup then none else some (bodyOf branches parts, k)
  | (.closes, k) => if inGroup then some (bodyOf branches parts, k) else none
  | (.bar, k) => readBody n inGroup k (Ast.ofParts parts.reverse :: branches) []
  | (.piece a, k) => readBody n inGroup k branches (a :: parts)
  | (.repeats least most, k) =>
    match parts with
    | part :: parts =>
      if isRepeatable part then readBody n inGroup k branches (.repetition least most part :: parts) else none
    | [] => none
  | (.opens kind verbose, k) => (readBody n true k [] []).bind fun (body, after) =>
    readBody n inGroup { after with verbose } branches (.group kind body :: parts)

variable {n m : Nat} {inGroup : Bool} {branches parts : List Ast}

theorem readPart_of_nil (h : k.rest = []) : readPart k = some (.ends, k) := by rw [readPart, h]

theorem readPart_of_cons (h : k.rest = c :: cs) : readPart k = readPartOf c cs k := by rw [readPart, h]

theorem readBody_succ : readBody (n + 1) inGroup k branches parts =
    (readPart k.settle).bind (afterPart n inGroup branches parts) := by
  rw [readBody]
  dsimp only
  generalize k.settle = k
  split
  · next hrest =>
    rw [readPart_of_nil hrest]
    rfl
  · next hrest =>
    rw [readPart_of_cons hrest]
    show _ = ((readOpening k).map (openedBy k.verbose)).bind _
    cases readOpening k with
    | none => rfl
    | some opening =>
      match opening with
      | (.switches items, inside) => rfl
      | (.group (.plain items), inside) =>
        show _ = (readBody n true { inside with verbose := verboseOf items k.verbose } [] []).bind _
        dsimp only
        cases readBody n true { inside with verbose := verboseOf items k.verbose } [] [] <;> rfl
      | (.group .capturing, inside) =>
        show _ = (readBody n true { inside with verbose := k.verbose } [] []).bind _
        dsimp only
        cases readBody n true { inside with verbose := k.verbose } [] [] <;> rfl
  · next hrest =>
    rw [readPart_of_cons hrest]
    rfl
  · next hrest =>
    rw [readPart_of_cons hrest]
    rfl
  · next hrest =>
    rw [readPart_of_cons hrest]
    show _ = ((readClass k).map fun (a, k) => (Part.piece a, k)).bind _
    cases readClass k <;> rfl
  · next hrest =>
    rw [readPart_of_cons hrest]
    rfl
  · next hrest =>
    rw [readPart_of_cons hrest]
    rfl
  · next hrest =>
    rw [readPart_of_cons hrest]
    rfl
  · next hrest =>
    rw [readPart_of_cons hrest]
    show _ = ((readCount k).map fun (least, most, k) => (Part.repeats least most, k)).bind _
    cases readCount k <;> rfl
  · next hrest =>
    rw [readPart_of_cons hrest]
    show _ = ((readEscape k).map fun (e, k) => (Part.piece (astOf e), k)).bind _
    cases readEscape k with
    | none => rfl
    | some read =>
      obtain ⟨e, k⟩ := read
      cases e <;> rfl
  · next hrest =>
    rw [readPart_of_cons hrest]
    rfl
  · next hrest =>
    rw [readPart_of_cons hrest]
    rfl
  · next hrest =>
    rw [readPart_of_cons hrest]
    rfl
  · next c cs hopen hclose hbar hbracket hquestion hstar hplus hbrace hback hdot hcaret hdollar hrest =>
    rw [readPart_of_cons hrest, readPartOf, if_neg hopen, if_neg hclose, if_neg hbar, if_neg hbracket, if_neg hquestion,
      if_neg hstar, if_neg hplus, if_neg hbrace, if_neg hback, pieceOf, if_neg hdot, if_neg hcaret, if_neg hdollar]
    rfl

theorem openedPart_ne (verbose : Bool) (opening : Opening) :
    openedPart verbose opening ≠ .ends ∧ openedPart verbose opening ≠ .closes := by
  cases opening with
  | switches items => exact ⟨nofun, nofun⟩
  | group kind => exact ⟨nofun, nofun⟩

theorem readPartOf_spec {part : Part} (hk : k.rest = c :: cs) (h : readPartOf c cs k = some (part, k')) :
    k'.rest <:+ cs ∧ part ≠ .ends ∧ (part = .closes → c = ')') := by
  have htail : k.rest.tail = cs := by rw [hk]; rfl
  unfold readPartOf at h
  split at h
  · obtain ⟨opening, hopening, heq⟩ := Option.map_eq_some_iff.1 h
    obtain ⟨hends, hcloses⟩ := openedPart_ne k.verbose opening.1
    have hsuffix : opening.2.rest <:+ cs := htail ▸ readOpening_suffix hopening
    cases heq
    exact ⟨hsuffix, hends, fun hclose => absurd hclose hcloses⟩
  split at h
  · next hclose =>
    cases h
    exact ⟨List.suffix_refl _, nofun, fun _ => hclose⟩
  split at h
  · cases h
    exact ⟨List.suffix_refl _, nofun, nofun⟩
  split at h
  · obtain ⟨⟨a, k₁⟩, hclass, heq⟩ := Option.map_eq_some_iff.1 h
    cases heq
    exact ⟨htail ▸ readClass_suffix hclass, nofun, nofun⟩
  split at h
  · cases h
    exact ⟨skipReluctant_suffix (k.moveTo cs), nofun, nofun⟩
  split at h
  · cases h
    exact ⟨skipReluctant_suffix (k.moveTo cs), nofun, nofun⟩
  split at h
  · cases h
    exact ⟨skipReluctant_suffix (k.moveTo cs), nofun, nofun⟩
  split at h
  · obtain ⟨⟨least, most, k₁⟩, hcount, heq⟩ := Option.map_eq_some_iff.1 h
    cases heq
    exact ⟨htail ▸ readCount_suffix hcount, nofun, nofun⟩
  split at h
  · obtain ⟨⟨e, k₁⟩, hescape, heq⟩ := Option.map_eq_some_iff.1 h
    cases heq
    exact ⟨htail ▸ (readEscape_suffix hescape).trans (List.tail_suffix _), nofun, nofun⟩
  · cases h
    exact ⟨List.suffix_refl _, nofun, nofun⟩

theorem readPart_suffix {part : Part} (h : readPart k = some (part, k')) : k'.rest <:+ k.rest.tail := by
  cases hrest : k.rest with
  | nil =>
    rw [readPart_of_nil hrest] at h
    cases h
    rw [hrest]
    exact List.suffix_refl _
  | cons c cs =>
    rw [readPart_of_cons hrest] at h
    exact (readPartOf_spec hrest h).1

theorem length_readPart_lt {part : Part} (h : readPart k = some (part, k')) (hne : part ≠ .ends) :
    k'.rest.length < k.rest.length := by
  cases hrest : k.rest with
  | nil =>
    rw [readPart_of_nil hrest] at h
    cases h
    exact absurd rfl hne
  | cons c cs =>
    rw [readPart_of_cons hrest] at h
    exact Nat.lt_succ_of_le (readPartOf_spec hrest h).1.length_le

theorem head?_of_closes (h : readPart k = some (.closes, k')) : k.rest.head? = some ')' := by
  cases hrest : k.rest with
  | nil =>
    rw [readPart_of_nil hrest] at h
    cases h
  | cons c cs =>
    rw [readPart_of_cons hrest] at h
    rw [List.head?_cons, (readPartOf_spec hrest h).2.2 rfl]

theorem readBody_suffix {ast : Ast} (h : readBody n inGroup k branches parts = some (ast, k')) : k'.rest <:+ k.rest := by
  induction n generalizing inGroup k k' branches parts ast with
  | zero => cases h
  | succ n ih =>
    rw [readBody_succ] at h
    obtain ⟨⟨part, k₁⟩, hpart, hafter⟩ := Option.bind_eq_some_iff.1 h
    have hsuffix : k₁.rest <:+ k.rest := ((readPart_suffix hpart).trans (List.tail_suffix _)).trans k.settle_suffix
    cases part with
    | ends =>
      cases inGroup with
      | true => cases hafter
      | false =>
        cases hafter
        exact hsuffix
    | closes =>
      cases inGroup with
      | false => cases hafter
      | true =>
        cases hafter
        exact hsuffix
    | bar => exact (ih hafter).trans hsuffix
    | piece a => exact (ih hafter).trans hsuffix
    | repeats least most =>
      cases parts with
      | nil => cases hafter
      | cons part parts =>
        dsimp only [afterPart] at hafter
        split at hafter
        · exact (ih hafter).trans hsuffix
        · cases hafter
    | opens kind verbose =>
      obtain ⟨⟨body, after⟩, hbody, hrest⟩ := Option.bind_eq_some_iff.1 hafter
      have hafter : after.rest <:+ k₁.rest := ih hbody
      exact ((ih hrest).trans hafter).trans hsuffix

theorem readBody_eq_of_lt (hn : k.rest.length < n) (hm : k.rest.length < m) :
    readBody n inGroup k branches parts = readBody m inGroup k branches parts := by
  induction n generalizing inGroup k m branches parts with
  | zero => cases hn
  | succ n ih =>
    obtain ⟨m, rfl⟩ : ∃ m', m = m' + 1 := Nat.exists_eq_add_of_le' (Nat.one_le_of_lt hm)
    have hlength := k.settle_suffix.length_le
    rw [readBody_succ, readBody_succ]
    cases hpart : readPart k.settle with
    | none => rfl
    | some next =>
      obtain ⟨part, k₁⟩ := next
      rw [Option.bind_some, Option.bind_some]
      by_cases hends : part = .ends
      · subst hends
        rfl
      have hlt := length_readPart_lt hpart hends
      cases part with
      | ends => exact absurd rfl hends
      | closes => rfl
      | bar => exact ih (by omega) (by omega)
      | piece a => exact ih (by omega) (by omega)
      | repeats least most =>
        cases parts with
        | nil => rfl
        | cons part parts =>
          dsimp only [afterPart]
          rw [ih (m := m) (by omega) (by omega)]
      | opens kind verbose =>
        dsimp only [afterPart]
        rw [ih (m := m) (by omega) (by omega)]
        cases hbody : readBody m true k₁ [] [] with
        | none => rfl
        | some read =>
          have hle := (readBody_suffix hbody).length_le
          exact ih (by dsimp only; omega) (by dsimp only; omega)

theorem afterPart_of_none {part : Part} (h : ∀ branches parts, readBody n true k branches parts = none)
    (hne : part ≠ .closes) : afterPart n true branches parts (part, k) = none := by
  cases part with
  | ends => rfl
  | closes => exact absurd rfl hne
  | bar => exact h _ _
  | piece a => exact h _ _
  | repeats least most =>
    cases parts with
    | nil => rfl
    | cons part parts =>
      dsimp only [afterPart]
      split
      · exact h _ _
      · rfl
  | opens kind verbose =>
    dsimp only [afterPart]
    rw [h]
    rfl

theorem readBody_of_not_mem (h : ')' ∉ k.rest) : readBody n true k branches parts = none := by
  induction n generalizing k branches parts with
  | zero => rfl
  | succ n ih =>
    rw [readBody_succ]
    have hsettled : ')' ∉ k.settle.rest := fun hmem => h (k.settle_suffix.subset hmem)
    cases hpart : readPart k.settle with
    | none => rfl
    | some next =>
      obtain ⟨part, k'⟩ := next
      have hnot : ')' ∉ k'.rest := fun hmem =>
        hsettled ((List.tail_suffix _).subset ((readPart_suffix hpart).subset hmem))
      refine afterPart_of_none (fun _ _ => ih hnot) ?_
      rintro rfl
      exact hsettled (List.mem_of_head? (head?_of_closes hpart))

theorem settle_of_head? (h : k.rest.head? = some c) (hc : isBlank c = false ∧ c ≠ '#') : k.settle = k := by
  obtain ⟨cs, hrest⟩ := List.head?_eq_some_iff.1 h
  unfold Cursor.settle
  split
  · rw [hrest, Cursor.skipBlanks, if_neg Bool.false_ne_true, hc.1, if_neg Bool.false_ne_true, if_neg hc.2, ← hrest]
  · rfl

theorem readBody_closed_of_brace (hbrace : k.rest.head? = some '\x7b') (hnil : k.next.rest = []) :
    readBody n inGroup k.closed branches parts = none := by
  cases n with
  | zero => rfl
  | succ n =>
    obtain ⟨cs, hrest⟩ := List.head?_eq_some_iff.1 hbrace
    have hrest' : k.closed.rest = '\x7b' :: (cs ++ closing) := Cursor.rest_closed_of_cons hrest
    have hsettle : k.closed.settle = k.closed := settle_of_head? (by rw [hrest']; rfl) (by decide)
    have hnone : readPartOf '\x7b' (cs ++ closing) k.closed = none := by
      show (readCount k.closed).map _ = none
      rw [readCount_closed_of_nil hrest hnil]
      rfl
    rw [readBody_succ, hsettle, readPart_of_cons hrest', hnone]
    rfl

/-- **What a step makes of a text**, and of the text with something behind it: where the text ends, the parenthesis
behind it comes next, and where the text alone is refused, no group goes on behind the step. -/
inductive FitsPart : Option (Part × Cursor) → Option (Part × Cursor) → Prop
  | reads (part : Part) {k k' : Cursor} (h : k.Follows k') : FitsPart (some (part, k)) (some (part, k'))
  | ends (k : Cursor) {k' : Cursor} (h : k'.rest = ['\\', 'b']) : FitsPart (some (.ends, k)) (some (.closes, k'))
  | lost {a : Option (Part × Cursor)} (h : ∀ n branches parts, a.bind (afterPart n true branches parts) = none) :
    FitsPart none a

theorem Fits.part {a a' : Option (Part × Cursor)} (h : Fits a a')
    (hne : ∀ part k, a' = some (part, k) → part ≠ .closes) : FitsPart a a' := by
  cases h with
  | reads part h => exact .reads part h
  | refused => exact .lost fun _ _ _ => rfl
  | beyond part h =>
    refine .lost fun n branches parts => afterPart_of_none (fun _ _ => readBody_of_not_mem fun hmem => ?_) (hne _ _ rfl)
    exact absurd (h.subset hmem) (by decide)

theorem Fits.mapPart {α : Type} {a a' : Option (α × Cursor)} (h : Fits a a') (f : α → Part) (hf : ∀ b, f b ≠ .closes) :
    FitsPart (a.map fun (b, k) => (f b, k)) (a'.map fun (b, k) => (f b, k)) := by
  refine (h.map f).part fun part k hpart => ?_
  obtain ⟨_, -, heq⟩ := Option.map_eq_some_iff.1 hpart
  cases heq
  exact hf _

theorem Fits.openedBy {a a' : Option (Opening × Cursor)} (h : Fits a a') (verbose : Bool) :
    Fits (a.map (openedBy verbose)) (a'.map (openedBy verbose)) := by
  cases h with
  | reads opening h =>
    rw [Option.map_some, Option.map_some, Pattern.openedBy, Pattern.openedBy, h.verbose_eq]
    exact .reads _ (h.withVerbose _)
  | refused => exact .refused
  | beyond opening h => exact .beyond _ h

/-- **A step** is read as in the text alone. -/
theorem fits_readPart (h : k.Follows k') : FitsPart (readPart k) (readPart k') := by
  cases hrest : k.rest with
  | nil => 
    rw [readPart_of_nil hrest]
    cases h with
    | swallowed => 
      rw [readPart_of_nil hrest]
      exact .reads .ends (.swallowed hrest)
    | closed =>
      have hrest' : k.closed.rest = ')' :: ['\\', 'b'] := by rw [Cursor.rest_closed, hrest]; rfl
      rw [readPart_of_cons hrest']
      exact .ends k rfl
  | cons c cs => 
    obtain rfl := h.eq_closed hrest
    rw [readPart_of_cons hrest, readPart_of_cons (Cursor.rest_closed_of_cons hrest)]
    unfold readPartOf
    split
    · refine ((fits_readOpening hrest).openedBy k.verbose).part fun part k₁ hpart => ?_
      obtain ⟨opening, -, heq⟩ := Option.map_eq_some_iff.1 hpart
      cases heq
      exact (openedPart_ne k.verbose opening.1).2
    split
    · exact .reads _ (.closed (k.moveTo cs))
    split
    · exact .reads _ (.closed (k.moveTo cs))
    split
    · exact (fits_readClass hrest).mapPart Part.piece nofun
    split
    · exact .reads _ (skipReluctant_follows (.closed (k.moveTo cs)))
    split
    · exact .reads _ (skipReluctant_follows (.closed (k.moveTo cs)))
    split
    · exact .reads _ (skipReluctant_follows (.closed (k.moveTo cs)))
    split
    · have hcount := (fits_readCount hrest).mapPart (Function.uncurry Part.repeats) nofun
      rw [Option.map_map, Option.map_map] at hcount
      exact hcount
    split
    · rcases fits_readEscape hrest with hescape | ⟨hnone, k₁, hsome, hbrace, hnil⟩
      · exact hescape.mapPart (fun e => Part.piece (astOf e)) nofun
      · rw [hnone, hsome]
        exact .lost fun n branches parts => readBody_closed_of_brace hbrace hnil
    · exact .reads _ (.closed (k.moveTo cs))

end

end Pattern
end LineShell
