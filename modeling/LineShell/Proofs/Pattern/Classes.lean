import LineShell.Proofs.Pattern.Escapes
import Mathlib.Data.List.TakeWhile
/-!
# Classes — brackets where something stands behind the text

Brackets are read part by part (`readClassPart`), each of which is read as in the text alone, or has gone on behind it,
where no bracket closes the class any more (`FitsInside`).  So a class is read where it is one in the text alone, and is
none where that refuses it (`fits_readClass`).
-/
namespace LineShell
namespace Pattern

section

variable {k k' : Cursor} {c d : Char} {cs ds : List Char}

/-! ## Items -/

/-- **What a reader makes of a text in brackets**, and of the text with something behind it, where no bracket stands. -/
inductive FitsInside {α : Type} : Option (α × Cursor) → Option (α × Cursor) → Prop
  | reads (a : α) {k k' : Cursor} (h : k.Follows k') : FitsInside (some (a, k)) (some (a, k'))
  | lost {a : Option (α × Cursor)} (h : ∀ b k, a = some (b, k) → ']' ∉ k.rest) : FitsInside none a

theorem not_mem_of_suffix (h : cs <:+ ['\\', 'b']) : ']' ∉ cs := fun hmem => absurd (h.subset hmem) (by decide)

theorem Fits.inside {α : Type} {a a' : Option (α × Cursor)} (h : Fits a a') : FitsInside a a' := by
  cases h with
  | reads a h => exact .reads a h
  | refused => exact .lost nofun
  | beyond a h =>
    refine .lost fun b k hb => ?_
    cases hb
    exact not_mem_of_suffix h

theorem readClassPiece_suffix {e : Escape} (h : readClassPiece k = some (e, k')) : k'.rest <:+ k.rest.tail := by
  unfold readClassPiece at h
  split at h
  · cases h
  · exact (readEscape_suffix h).trans (List.tail_suffix _)
  · next hrest =>
    cases h
    rw [hrest]
    exact List.suffix_refl _

theorem fits_readClassPiece (h : k.Follows k') : FitsEscape (readClassPiece k) (readClassPiece k') := by
  cases hrest : k.rest with
  | nil =>
    have hnone : readClassPiece k = none := by rw [readClassPiece, hrest]
    rw [hnone]
    exact .inl (.of_none fun e k₁ he => (readClassPiece_suffix he).trans (h.tail_suffix hrest))
  | cons c cs =>
    obtain rfl := h.eq_closed hrest
    by_cases hback : c = '\\'
    · subst hback
      have hread : ∀ {k : Cursor} {cs : List Char}, k.rest = '\\' :: cs → readClassPiece k = readEscape k := by
        intro k cs hrest
        unfold readClassPiece
        rw [hrest]
        rfl
      rw [hread hrest, hread (Cursor.rest_closed_of_cons hrest)]
      exact fits_readEscape hrest
    · have hread : ∀ {k : Cursor} {cs : List Char}, k.rest = c :: cs →
          readClassPiece k = some (.letter ⟨c, false⟩, k.moveTo cs) := by
        intro k cs hrest
        unfold readClassPiece
        rw [hrest]
        split
        · next heq => cases heq
        · next heq => exact absurd (List.cons.inj heq).1 hback
        · next heq =>
          cases heq
          rfl
      rw [hread hrest, hread (Cursor.rest_closed_of_cons hrest)]
      exact .inl (.reads _ (.closed (k.moveTo cs)))

def itemOf : Escape → Option ClassAst
  | .letter l => some (.letter l)
  | .property name negated => some (.property name negated)
  | .shorthand s negated => some (.shorthand s negated)
  | .anchor _ => none

def rangeOf : Escape → Escape → Option ClassAst
  | .letter first, .letter last => if first.char ≤ last.char then some (.range first last) else none
  | _, _ => none

def isSingle (k : Cursor) : Bool := k.rest.head? != some '-' || k.peek == some ']' || k.peek == some '-'

def itemBehind (first : Escape) (k : Cursor) : Option (ClassAst × Cursor) :=
  if k.rest = [] then none
  else if isSingle k then (itemOf first).map fun item => (item, k)
  else (readClassPiece k.next).bind fun (last, k) => (rangeOf first last).map fun item => (item, k)

theorem readClassItem_eq (k : Cursor) :
    readClassItem k = (readClassPiece k).bind fun (first, k) => itemBehind first k.settle := by
  show Option.bind (readClassPiece k) _ = _
  refine congrArg (Option.bind (readClassPiece k)) (funext fun ⟨first, k⟩ => ?_)
  dsimp only [itemBehind]
  generalize k.settle = k
  by_cases hnil : k.rest = []
  · rw [if_pos hnil, if_pos (List.isEmpty_iff.2 hnil)]
  rw [if_neg hnil, if_neg (mt List.isEmpty_iff.1 hnil)]
  by_cases hsingle : isSingle k = true
  · rw [if_pos hsingle]
    refine (if_pos hsingle).trans ?_
    cases first <;> rfl
  · rw [if_neg hsingle]
    refine (if_neg hsingle).trans ?_
    show Option.bind _ _ = _
    refine congrArg (Option.bind _) (funext fun ⟨last, k⟩ => ?_)
    cases first <;> cases last <;> try rfl
    show (if _ then _ else _) = Option.map _ (if _ then _ else _)
    split <;> rfl

theorem itemBehind_of_nil {first : Escape} (h : k.rest = []) : itemBehind first k = none := if_pos h

theorem itemBehind_of_cons {first : Escape} (h : k.rest = c :: cs) : itemBehind first k =
    if isSingle k then (itemOf first).map fun item => (item, k)
    else (readClassPiece k.next).bind fun (last, k) => (rangeOf first last).map fun item => (item, k) :=
  if_neg (by rw [h]; exact List.cons_ne_nil c cs)

theorem itemBehind_suffix {first : Escape} {item : ClassAst} (h : itemBehind first k = some (item, k')) :
    k'.rest <:+ k.rest := by
  unfold itemBehind at h
  split at h
  · cases h
  split at h
  · obtain ⟨_, -, heq⟩ := Option.map_eq_some_iff.1 h
    cases heq
    exact List.suffix_refl _
  · obtain ⟨⟨last, k₁⟩, hlast, hmap⟩ := Option.bind_eq_some_iff.1 h
    obtain ⟨_, -, heq⟩ := Option.map_eq_some_iff.1 hmap
    cases heq
    exact (((readClassPiece_suffix hlast).trans (List.tail_suffix _)).trans k.next_suffix).trans (List.tail_suffix _)

theorem itemBehind_anchor (a : Anchor) (k : Cursor) : itemBehind (.anchor a) k = none := by
  unfold itemBehind
  split
  · rfl
  split
  · rfl
  · cases readClassPiece k.next <;> rfl

theorem dropWhile_closing {p : Char → Bool} (hp : p ')' = false) (cs : List Char) :
    (cs ++ closing).dropWhile p = cs.dropWhile p ++ closing := by
  induction cs with
  | nil => simp [closing, hp]
  | cons c cs ih =>
    rw [List.cons_append, List.dropWhile_cons, List.dropWhile_cons]
    split
    · exact ih
    · rfl

theorem peek_closed (hrest : k.rest = c :: cs) : k.closed.peek = k.peek ∨ k.peek = none ∧ k.closed.peek = some ')' := by
  have hhead : ∀ ds : List Char, (ds ++ closing).head? = ds.head? ∨ ds.head? = none ∧ (ds ++ closing).head? = some ')' := by
    rintro (_ | _)
    · exact .inr ⟨rfl, rfl⟩
    · exact .inl rfl
  unfold Cursor.peek
  rw [Cursor.verbose_closed, Cursor.rest_closed, hrest, List.cons_append, List.tail_cons, List.tail_cons,
    dropWhile_closing rfl]
  split
  · generalize cs.dropWhile isBlank = ds
    cases ds with
    | nil => exact .inr ⟨rfl, rfl⟩
    | cons d ds =>
      by_cases hd : d = '#'
      · subst hd
        rw [List.cons_append]
        show ((ds ++ closing).dropWhile isBlank).head? = (ds.dropWhile isBlank).head? ∨
          (ds.dropWhile isBlank).head? = none ∧ ((ds ++ closing).dropWhile isBlank).head? = some ')'
        rw [dropWhile_closing rfl]
        exact hhead _
      · rw [List.cons_append]
        split
        · next heq => exact absurd (List.cons.inj heq).1 hd
        · split
          · next heq => exact absurd (List.cons.inj heq).1 hd
          · exact .inl rfl
  · exact hhead cs

theorem isSingle_closed (hrest : k.rest = c :: cs) : isSingle k.closed = isSingle k := by
  unfold isSingle
  rw [Cursor.rest_closed, hrest, List.cons_append, List.head?_cons, List.head?_cons]
  rcases peek_closed hrest with heq | ⟨hnone, hparen⟩
  · rw [heq]
  · rw [hnone, hparen]
    rfl

/-- **What an item is** that one begins is the same. -/
theorem fits_itemBehind {first : Escape} (h : k.Follows k') : FitsInside (itemBehind first k) (itemBehind first k') := by
  cases hrest : k.rest with
  | nil =>
    rw [itemBehind_of_nil hrest]
    refine .lost fun b k₁ hb hmem => ?_
    have hmem' : ']' ∈ k'.rest := (itemBehind_suffix hb).subset hmem
    cases h with
    | swallowed => cases hrest ▸ hmem'
    | closed =>
      rw [Cursor.rest_closed, hrest] at hmem'
      exact absurd hmem' (by decide)
  | cons c cs =>
    obtain rfl := h.eq_closed hrest
    have hrest' : k.closed.rest = c :: (cs ++ closing) := Cursor.rest_closed_of_cons hrest
    rw [itemBehind_of_cons hrest, itemBehind_of_cons hrest', isSingle_closed hrest]
    split
    · exact (fits_map (.closed k) _ _).inside
    · rcases fits_readClassPiece (Cursor.follows_next hrest) with hfits | ⟨hnone, k₁, hsome, -⟩
      · refine (hfits.bind (fun last k k' h => ?_) fun last item k k' h => ?_).inside
        · exact fits_map h (rangeOf first last) id
        · obtain ⟨_, -, heq⟩ := Option.map_eq_some_iff.1 h
          cases heq
          exact List.suffix_refl _
      · have hrange : rangeOf first (.anchor .wordBoundary) = none := by cases first <;> rfl
        rw [hnone, hsome, Option.bind_some]
        dsimp only
        rw [hrange]
        exact .lost nofun

theorem readClassItem_suffix {item : ClassAst} (h : readClassItem k = some (item, k')) : k'.rest <:+ k.rest.tail := by
  rw [readClassItem_eq] at h
  obtain ⟨⟨first, k₁⟩, hfirst, hitem⟩ := Option.bind_eq_some_iff.1 h
  exact ((itemBehind_suffix hitem).trans k₁.settle_suffix).trans (readClassPiece_suffix hfirst)

theorem fits_readClassItem (h : k.Follows k') : FitsInside (readClassItem k) (readClassItem k') := by
  rw [readClassItem_eq, readClassItem_eq]
  rcases fits_readClassPiece h with hfits | ⟨hnone, k₁, hsome, -⟩
  · generalize readClassPiece k = a, readClassPiece k' = a' at hfits
    cases hfits with
    | reads first h => exact fits_itemBehind h.settle
    | refused => exact .lost nofun
    | beyond first h =>
      refine .lost fun item k₁ hitem => ?_
      exact not_mem_of_suffix (((itemBehind_suffix hitem).trans (Cursor.settle_suffix _)).trans h)
  · rw [hnone, hsome]
    refine .lost fun item k₂ hitem => ?_
    cases (itemBehind_anchor _ _).symm.trans hitem

/-! ## The start -/

def asciiSpans (text : List Char) : Option (List (Nat × Nat) × List Char) :=
  match text.dropWhile (· != ':') with
  | ':' :: ']' :: after => (asciiClass? (text.takeWhile (· != ':'))).map fun spans => (spans, after)
  | _ => none

theorem asciiSpans_of_not_mem (h : ':' ∉ cs) : asciiSpans cs = none := by
  unfold asciiSpans
  have hnil : cs.dropWhile (· != ':') = [] :=
    List.dropWhile_eq_nil_iff.2 fun c hc => bne_iff_ne.2 (ne_of_mem_of_not_mem hc h)
  rw [hnil]

theorem asciiSpans_of_colon (h : ':' ∉ cs) : asciiSpans (cs ++ ':' :: ds) =
    if ds.head? = some ']' then (asciiClass? cs).map fun spans => (spans, ds.tail) else none := by
  have hname : ∀ c ∈ cs, (c != ':') = true := fun c hc => bne_iff_ne.2 (ne_of_mem_of_not_mem hc h)
  unfold asciiSpans
  rw [List.dropWhile_append_of_pos hname, List.takeWhile_append_of_pos hname, List.dropWhile_cons_of_neg (by decide),
    List.takeWhile_cons_of_neg (by decide), List.append_nil]
  split
  · next heq =>
    cases heq
    rfl
  · next hne =>
    rw [if_neg (head?_ne_of_forall fun after hafter => hne after (by rw [hafter]))]

theorem asciiSpans_suffix {spans : List (Nat × Nat)} (h : asciiSpans cs = some (spans, ds)) : ds <:+ cs := by
  unfold asciiSpans at h
  split at h
  · next after hafter =>
    obtain ⟨_, -, heq⟩ := Option.map_eq_some_iff.1 h
    cases heq
    have hsuffix : ':' :: ']' :: ds <:+ cs := hafter ▸ List.dropWhile_suffix _
    exact ((List.suffix_cons _ _).trans (List.suffix_cons _ _)).trans hsuffix
  · cases h

theorem asciiSpans_closed (cs : List Char) :
    asciiSpans (cs ++ closing) = (asciiSpans cs).map fun (spans, after) => (spans, after ++ closing) := by
  by_cases hmem : ':' ∈ cs
  · obtain ⟨name, ds, rfl, hname⟩ := List.eq_append_cons_of_mem hmem
    rw [List.append_assoc, List.cons_append, asciiSpans_of_colon hname, asciiSpans_of_colon hname]
    cases ds with
    | nil => rfl
    | cons d ds =>
      rw [List.cons_append, List.head?_cons, List.head?_cons]
      split
      · rw [Option.map_map]
        rfl
      · rfl
  · rw [asciiSpans_of_not_mem hmem, asciiSpans_of_not_mem fun h => (List.mem_append.1 h).elim hmem (by decide)]
    rfl

def asciiClassOf (k : Cursor) (named : Bool × List Char) : Option (ClassAst × Cursor) :=
  (asciiSpans named.2).map fun (spans, after) => (.ascii spans named.1, k.moveTo after)

theorem asciiClassOf_eq (k : Cursor) (named : Bool × List Char) : (match named.2.dropWhile (· != ':') with
    | ':' :: ']' :: after => (asciiClass? (named.2.takeWhile (· != ':'))).map fun spans =>
      (ClassAst.ascii spans named.1, k.moveTo after)
    | _ => none) = asciiClassOf k named := by
  unfold asciiClassOf asciiSpans
  split
  · rw [Option.map_map]
    rfl
  · rfl

theorem negated_eq (cs : List Char) : (match cs with
    | '^' :: rest => (true, rest)
    | rest => (false, rest)) = (cs.head? == some '^', if cs.head? = some '^' then cs.tail else cs) := by
  split
  · rfl
  · next hne =>
    have hhead := head?_ne_of_forall hne
    rw [if_neg hhead, beq_false_of_ne hhead]

theorem readAsciiClass_of_colon (h : k.rest = '[' :: ':' :: cs) : readAsciiClass k =
    (asciiSpans (if cs.head? = some '^' then cs.tail else cs)).map fun (spans, after) =>
      (.ascii spans (cs.head? == some '^'), k.moveTo after) := by
  unfold readAsciiClass
  rw [h]
  exact (asciiClassOf_eq k _).trans (congrArg (asciiClassOf k) (negated_eq cs))

theorem readAsciiClass_of_ne (h : ∀ ds, k.rest ≠ '[' :: ':' :: ds) : readAsciiClass k = none := by
  unfold readAsciiClass
  split
  · next hrest => exact absurd hrest (h _)
  · rfl

theorem readAsciiClass_suffix {item : ClassAst} (h : readAsciiClass k = some (item, k')) : k'.rest <:+ k.rest.tail := by
  by_cases hcolon : ∃ ds, k.rest = '[' :: ':' :: ds
  · obtain ⟨ds, hrest⟩ := hcolon
    rw [readAsciiClass_of_colon hrest] at h
    obtain ⟨⟨spans, after⟩, hspans, heq⟩ := Option.map_eq_some_iff.1 h
    cases heq
    have hname : (if ds.head? = some '^' then ds.tail else ds) <:+ ds := by
      split
      · exact List.tail_suffix ds
      · exact List.suffix_refl ds
    rw [hrest]
    exact ((asciiSpans_suffix hspans).trans hname).trans (List.suffix_cons ':' ds)
  · rw [readAsciiClass_of_ne (not_exists.1 hcolon)] at h
    cases h

/-- **A named class** is read as it is in the text alone. -/
theorem readAsciiClass_closed (hk : k.rest = c :: cs) :
    readAsciiClass k.closed = (readAsciiClass k).map fun (item, k) => (item, k.closed) := by
  by_cases hcolon : ∃ ds, k.rest = '[' :: ':' :: ds
  · obtain ⟨ds, hrest⟩ := hcolon
    have hrest' : k.closed.rest = '[' :: ':' :: (ds ++ closing) := by rw [Cursor.rest_closed, hrest]; rfl
    have hhead : (ds ++ closing).head? = some '^' ↔ ds.head? = some '^' :=
      (Cursor.Follows.closed (k.moveTo ds)).head?_iff (by decide)
    have hname : (if (ds ++ closing).head? = some '^' then (ds ++ closing).tail else ds ++ closing) =
        (if ds.head? = some '^' then ds.tail else ds) ++ closing := by
      simp only [hhead]
      split
      · next hcaret =>
        obtain ⟨rest, rfl⟩ := List.head?_eq_some_iff.1 hcaret
        rfl
      · rfl
    have hnegated : ((ds ++ closing).head? == some '^') = (ds.head? == some '^') := by
      rw [Bool.eq_iff_iff, beq_iff_eq, beq_iff_eq, hhead]
    rw [readAsciiClass_of_colon hrest, readAsciiClass_of_colon hrest', hname, hnegated, asciiSpans_closed]
    cases asciiSpans (if ds.head? = some '^' then ds.tail else ds) <;> rfl
  · have hcolon' : ∀ ds, k.closed.rest ≠ '[' :: ':' :: ds := fun ds heq => by
      rw [Cursor.rest_closed, hk] at heq
      match cs, heq with
      | [], heq => cases heq
      | d :: ds, heq =>
        cases heq
        exact hcolon ⟨ds, hk⟩
    rw [readAsciiClass_of_ne (not_exists.1 hcolon), readAsciiClass_of_ne hcolon']
    rfl

theorem readDashes_suffix (n : Nat) (k : Cursor) : (readDashes n k).2.rest <:+ k.rest := by
  induction n generalizing k with
  | zero => exact List.suffix_refl _
  | succ n ih =>
    rw [readDashes]
    split
    · exact ((ih k.next).trans k.next_suffix).trans (List.tail_suffix _)
    · exact List.suffix_refl _

theorem readDashes_of_ne {n : Nat} (h : k.rest.head? ≠ some '-') : readDashes n k = ([], k) := by
  cases n with
  | zero => rfl
  | succ n =>
    rw [readDashes]
    split
    · next hrest => exact absurd (by rw [hrest]; rfl) h
    · rfl

theorem readDashes_of_dash {n : Nat} (h : k.rest = '-' :: cs) : readDashes (n + 1) k =
    (.letter ⟨'-', false⟩ :: (readDashes n k.next).1, (readDashes n k.next).2) := by
  rw [readDashes, h]
  rfl

theorem readDashes_follows {n m : Nat} (h : k.Follows k') (hn : k.rest.length ≤ n) (hm : k'.rest.length ≤ m) :
    (readDashes m k').1 = (readDashes n k).1 ∧ (readDashes n k).2.Follows (readDashes m k').2 := by
  induction n generalizing k k' m with
  | zero =>
    have hne : k.rest.head? ≠ some '-' := by rw [List.length_eq_zero_iff.1 (Nat.le_zero.1 hn)]; nofun
    rw [readDashes_of_ne hne, readDashes_of_ne (mt (h.head?_iff (by decide)).1 hne)]
    exact ⟨rfl, h⟩
  | succ n ih =>
    by_cases hdash : k.rest.head? = some '-'
    · obtain ⟨cs, hrest⟩ := List.head?_eq_some_iff.1 hdash
      obtain rfl := h.eq_closed hrest
      have hrest' : k.closed.rest = '-' :: (cs ++ closing) := Cursor.rest_closed_of_cons hrest
      have hlt := Cursor.length_next_lt hrest
      have hlt' := Cursor.length_next_lt hrest'
      obtain ⟨m, rfl⟩ : ∃ m', m = m' + 1 := Nat.exists_eq_add_of_le' (Nat.one_le_of_lt (Nat.lt_of_lt_of_le hlt' hm))
      obtain ⟨hitems, hfollows⟩ := ih (m := m) (Cursor.follows_next hrest) (by omega) (by omega)
      rw [readDashes_of_dash hrest, readDashes_of_dash hrest', hitems]
      exact ⟨rfl, hfollows⟩
    · rw [readDashes_of_ne hdash, readDashes_of_ne (mt (h.head?_iff (by decide)).1 hdash)]
      exact ⟨rfl, h⟩

def insideOf (k : Cursor) : Cursor := if k.next.rest.head? = some '^' then k.next.next else k.next

def startOf (negated : Bool) (k : Cursor) : Bool × List ClassAst × Cursor :=
  let dashes := readDashes k.rest.length k
  if dashes.1 = [] ∧ dashes.2.rest.head? = some ']' then (negated, [.letter ⟨']', false⟩], dashes.2.next)
  else (negated, dashes)

theorem startOf_eq (start : Bool × Cursor) : (match readDashes start.2.rest.length start.2 with
    | (dashes, k) => match dashes, k.rest with
      | [], ']' :: _ => (start.1, [ClassAst.letter ⟨']', false⟩], k.next)
      | _, _ => (start.1, dashes, k)) = startOf start.1 start.2 := by
  unfold startOf
  obtain ⟨dashes, k⟩ := readDashes start.2.rest.length start.2
  dsimp only
  split
  · next hrest => rw [if_pos ⟨rfl, by rw [hrest]; rfl⟩]
  · next hne => rw [if_neg fun h => head?_ne_of_forall (fun rest => hne rest h.1) h.2]

theorem insideOf_eq (k : Cursor) : (match k.next.rest with
    | '^' :: _ => (true, k.next.next)
    | _ => (false, k.next)) = (k.next.rest.head? == some '^', insideOf k) := by
  unfold insideOf
  split
  · next hrest =>
    rw [hrest]
    rfl
  · next hne =>
    have hhead := head?_ne_of_forall hne
    rw [if_neg hhead, beq_false_of_ne hhead]

theorem readClassStart_eq (k : Cursor) : readClassStart k = startOf (k.next.rest.head? == some '^') (insideOf k) :=
  (startOf_eq _).trans (congrArg (fun start : Bool × Cursor => startOf start.1 start.2) (insideOf_eq k))

theorem insideOf_suffix (k : Cursor) : (insideOf k).rest <:+ k.rest.tail := by
  unfold insideOf
  split
  · exact ((k.next.next_suffix).trans (List.tail_suffix _)).trans k.next_suffix
  · exact k.next_suffix

theorem insideOf_follows (hk : k.rest = c :: cs) : (insideOf k).Follows (insideOf k.closed) := by
  have hnext := Cursor.follows_next hk
  unfold insideOf
  simp only [hnext.head?_iff (by decide : '^' ≠ ')')]
  split
  · next hcaret =>
    obtain ⟨rest, hrest⟩ := List.head?_eq_some_iff.1 hcaret
    exact hnext.next hrest
  · exact hnext

theorem startOf_suffix (negated : Bool) (k : Cursor) : (startOf negated k).2.2.rest <:+ k.rest := by
  unfold startOf
  dsimp only
  split
  · exact ((Cursor.next_suffix _).trans (List.tail_suffix _)).trans (readDashes_suffix _ _)
  · exact readDashes_suffix _ _

theorem startOf_follows (negated : Bool) (h : k.Follows k') : (startOf negated k').1 = (startOf negated k).1 ∧
    (startOf negated k').2.1 = (startOf negated k).2.1 ∧ (startOf negated k).2.2.Follows (startOf negated k').2.2 := by
  obtain ⟨hitems, hfollows⟩ := readDashes_follows h (Nat.le_refl _) (Nat.le_refl _)
  unfold startOf
  simp only [hitems, hfollows.head?_iff (by decide : ']' ≠ ')')]
  split
  · next hbracket =>
    obtain ⟨rest, hrest⟩ := List.head?_eq_some_iff.1 hbracket.2
    exact ⟨rfl, rfl, hfollows.next hrest⟩
  · exact ⟨rfl, hitems, hfollows⟩

theorem readClassStart_suffix (k : Cursor) : (readClassStart k).2.2.rest <:+ k.rest.tail := by
  rw [readClassStart_eq]
  exact (startOf_suffix _ _).trans (insideOf_suffix k)

/-- **Brackets start** as they do in the text alone. -/
theorem readClassStart_follows (hk : k.rest = c :: cs) :
    (readClassStart k.closed).1 = (readClassStart k).1 ∧ (readClassStart k.closed).2.1 = (readClassStart k).2.1 ∧
      (readClassStart k).2.2.Follows (readClassStart k.closed).2.2 := by
  have hcaret : (k.closed.next.rest.head? == some '^') = (k.next.rest.head? == some '^') := by
    rw [Bool.eq_iff_iff, beq_iff_eq, beq_iff_eq, (Cursor.follows_next hk).head?_iff (by decide)]
  rw [readClassStart_eq, readClassStart_eq, hcaret]
  exact startOf_follows _ (insideOf_follows hk)

/-! ## Bodies -/

inductive ClassPart where
  | ends
  | operate (op : SetOperation)
  | item (a : ClassAst)
  /-- Brackets inside the brackets, to be read on from the cursor. -/
  | opens (negated : Bool) (items : List ClassAst)

def operationOf (c : Char) : Option SetOperation :=
  if c = '&' then some .intersection
  else if c = '-' then some .difference
  else if c = '~' then some .symmetricDifference
  else none

def operationAt : List Char → Option SetOperation
  | c :: d :: _ => if d = c then operationOf c else none
  | _ => none

theorem operationAt_closed (c : Char) (cs : List Char) : operationAt (c :: (cs ++ closing)) = operationAt (c :: cs) := by
  cases cs with
  | cons d ds => rfl
  | nil =>
    show (if ')' = c then operationOf c else none) = none
    split
    · next heq =>
      subst heq
      rfl
    · rfl

def readClassPart (k : Cursor) : Option (ClassPart × Cursor) :=
  if k.rest.head? = some '[' then
    match readAsciiClass k with
    | some (item, k) => some (.item item, k)
    | none => some (.opens (readClassStart k).1 (readClassStart k).2.1, (readClassStart k).2.2)
  else if k.rest.head? = some ']' then some (.ends, k.moveTo k.rest.tail)
  else
    match operationAt k.rest with
    | some op => some (.operate op, k.moveTo k.rest.tail.tail)
    | none => (readClassItem k).map fun (item, k) => (.item item, k)

variable {n m : Nat} {left : Option (SetOperation × ClassAst)} {items : List ClassAst}

def afterClassPart (n : Nat) (left : Option (SetOperation × ClassAst)) (items : List ClassAst) :
    ClassPart × Cursor → Option (ClassAst × Cursor)
  | (.ends, k) => some (joinOperation left (ClassAst.ofItems items.reverse), k)
  | (.operate op, k) => readClassBody n k (some (op, joinOperation left (ClassAst.ofItems items.reverse))) []
  | (.item a, k) => readClassBody n k left (a :: items)
  | (.opens negated start, k) =>
    (readClassBody n k none start.reverse).bind fun (inner, k) => readClassBody n k left (.bracket negated inner :: items)

theorem afterClassPart_opens {negated : Bool} {start : List ClassAst} :
    afterClassPart n left items (.opens negated start, k) = (readClassBody n k none start.reverse).bind
      fun (inner, k) => readClassBody n k left (.bracket negated inner :: items) := rfl

theorem readClassBody_succ :
    readClassBody (n + 1) k left items = (readClassPart k.settle).bind (afterClassPart n left items) := by
  rw [readClassBody]
  unfold readClassPart
  dsimp only
  generalize k.settle = k
  split
  · next hrest =>
    have hnone : readClassItem k = none := by
      rw [readClassItem_eq, readClassPiece, hrest]
      rfl
    rw [hrest, hnone]
    rfl
  · next hrest =>
    rw [hrest]
    cases readAsciiClass k with
    | some named => rfl
    | none =>
      obtain ⟨negated, start, inside⟩ := readClassStart k
      show _ = (readClassBody n inside none start.reverse).bind fun (inner, k) => _
      dsimp only
      cases readClassBody n inside none start.reverse <;> rfl
  · next hrest =>
    rw [hrest]
    rfl
  · next hrest =>
    rw [hrest]
    rfl
  · next hrest =>
    rw [hrest]
    rfl
  · next hrest =>
    rw [hrest]
    rfl
  · next hnil hopen hclose hand hminus htilde =>
    have hop : operationAt k.rest = none := by
      unfold operationAt
      split
      · next c d rest hrest =>
        split
        · next heq =>
          subst heq
          unfold operationOf
          rw [if_neg fun h : d = '&' => hand rest (h ▸ hrest), if_neg fun h : d = '-' => hminus rest (h ▸ hrest),
            if_neg fun h : d = '~' => htilde rest (h ▸ hrest)]
        · rfl
      · rfl
    rw [if_neg (head?_ne_of_forall hopen), if_neg (head?_ne_of_forall hclose), hop]
    cases readClassItem k <;> rfl

theorem readClassPart_suffix {part : ClassPart} (h : readClassPart k = some (part, k')) :
    k'.rest <:+ k.rest.tail ∧ k.rest ≠ [] := by
  unfold readClassPart at h
  split at h
  · next hopen =>
    refine ⟨?_, fun hnil => by simp [hnil] at hopen⟩
    split at h
    · next hascii =>
      cases h
      exact readAsciiClass_suffix hascii
    · cases h
      exact readClassStart_suffix k
  split at h
  · next hclose =>
    cases h
    exact ⟨List.suffix_refl _, fun hnil => by simp [hnil] at hclose⟩
  split at h
  · next hop =>
    cases h
    exact ⟨List.tail_suffix _, fun hnil => by simp [hnil, operationAt] at hop⟩
  · obtain ⟨⟨item, k₁⟩, hitem, heq⟩ := Option.map_eq_some_iff.1 h
    cases heq
    refine ⟨readClassItem_suffix hitem, fun hnil => ?_⟩
    rw [readClassItem_eq, readClassPiece, hnil] at hitem
    cases hitem

theorem length_readClassPart_lt {part : ClassPart} (h : readClassPart k = some (part, k')) :
    k'.rest.length < k.rest.length := by
  obtain ⟨hsuffix, hne⟩ := readClassPart_suffix h
  have hlength := hsuffix.length_le
  have hpos := List.length_pos_iff.2 hne
  rw [List.length_tail] at hlength
  omega

theorem head?_of_ends (h : readClassPart k = some (.ends, k')) : k.rest.head? = some ']' := by
  unfold readClassPart at h
  split at h
  · split at h <;> cases h
  split at h
  · assumption
  split at h
  · cases h
  · obtain ⟨_, -, heq⟩ := Option.map_eq_some_iff.1 h
    cases heq

theorem readClassPart_of_bracket (h : k.rest.head? = some ']') :
    readClassPart k = some (.ends, k.moveTo k.rest.tail) := by
  rw [readClassPart, h, if_neg (by decide), if_pos rfl]

/-- **A step** is read as it is in the text alone, or has gone on behind it. -/
theorem fits_readClassPart (h : k.Follows k') : FitsInside (readClassPart k) (readClassPart k') := by
  cases hrest : k.rest with
  | nil =>
    have hnone : readClassPart k = none := Option.eq_none_iff_forall_ne_some.2 fun part hpart =>
      (readClassPart_suffix hpart).2 hrest
    rw [hnone]
    refine .lost fun part k₁ hpart => not_mem_of_suffix ?_
    exact (readClassPart_suffix hpart).1.trans (h.tail_suffix hrest)
  | cons c cs =>
    obtain rfl := h.eq_closed hrest
    have hrest' : k.closed.rest = c :: (cs ++ closing) := Cursor.rest_closed_of_cons hrest
    unfold readClassPart
    rw [hrest', hrest, List.head?_cons, List.head?_cons, operationAt_closed]
    split
    · obtain ⟨hnegated, hitems, hinside⟩ := readClassStart_follows hrest
      rw [readAsciiClass_closed hrest]
      cases readAsciiClass k with
      | none =>
        rw [hnegated, hitems]
        exact .reads _ hinside
      | some named => exact .reads _ (.closed named.2)
    split
    · exact .reads _ (.closed (k.moveTo cs))
    cases hop : operationAt (c :: cs) with
    | some op =>
      cases cs with
      | nil => cases hop
      | cons d ds => exact .reads _ (.closed (k.moveTo ds))
    | none =>
      have hfits := fits_readClassItem (.closed k)
      generalize readClassItem k = a, readClassItem k.closed = a' at hfits
      cases hfits with
      | reads item h => exact .reads _ h
      | lost h =>
        refine .lost fun part k₁ hpart => ?_
        obtain ⟨⟨item, _⟩, hitem, heq⟩ := Option.map_eq_some_iff.1 hpart
        cases heq
        exact h item _ hitem

theorem readClassBody_of_not_mem (h : ']' ∉ k.rest) : readClassBody n k left items = none := by
  induction n generalizing k left items with
  | zero => rfl
  | succ n ih =>
    rw [readClassBody_succ]
    have hsettled : ']' ∉ k.settle.rest := fun hmem => h (k.settle_suffix.subset hmem)
    cases hpart : readClassPart k.settle with
    | none => rfl
    | some next =>
      obtain ⟨part, k'⟩ := next
      have hnot : ']' ∉ k'.rest := fun hmem =>
        hsettled ((List.tail_suffix _).subset ((readClassPart_suffix hpart).1.subset hmem))
      cases part with
      | ends => exact absurd (List.mem_of_head? (head?_of_ends hpart)) hsettled
      | operate op => exact ih hnot
      | item a => exact ih hnot
      | opens negated start =>
        rw [Option.bind_some, afterClassPart_opens, ih hnot]
        rfl

theorem readClassBody_suffix {ast : ClassAst} (h : readClassBody n k left items = some (ast, k')) :
    k'.rest <:+ k.rest := by
  induction n generalizing k k' left items ast with
  | zero => cases h
  | succ n ih =>
    rw [readClassBody_succ] at h
    obtain ⟨⟨part, k₁⟩, hpart, hafter⟩ := Option.bind_eq_some_iff.1 h
    have hsuffix : k₁.rest <:+ k.rest :=
      ((readClassPart_suffix hpart).1.trans (List.tail_suffix _)).trans k.settle_suffix
    cases part with
    | ends =>
      cases hafter
      exact hsuffix
    | operate op => exact (ih hafter).trans hsuffix
    | item a => exact (ih hafter).trans hsuffix
    | opens negated start =>
      obtain ⟨⟨inner, k₂⟩, hinner, hrest⟩ := Option.bind_eq_some_iff.1 hafter
      exact ((ih hrest).trans (ih hinner)).trans hsuffix

/-- **What stands between brackets** is read as it is in the text alone. -/
theorem fits_readClassBody (h : k.Follows k') (hn : k.rest.length < n) (hm : k'.rest.length < m) :
    Fits (readClassBody n k left items) (readClassBody m k' left items) := by
  induction n generalizing k k' m left items with
  | zero => cases hn
  | succ n ih =>
    obtain ⟨m, rfl⟩ : ∃ m', m = m' + 1 := Nat.exists_eq_add_of_le' (Nat.one_le_of_lt hm)
    have hlength := k.settle_suffix.length_le
    have hlength' := k'.settle_suffix.length_le
    have hfits := fits_readClassPart h.settle
    have hends : ∀ after, readClassPart k'.settle = some (.ends, after) → readClassPart k.settle ≠ none := by
      intro after hafter
      rw [readClassPart_of_bracket ((h.settle.head?_iff (by decide)).1 (head?_of_ends hafter))]
      nofun
    rw [readClassBody_succ, readClassBody_succ]
    generalize hpart : readClassPart k.settle = a, hpart' : readClassPart k'.settle = a' at hfits hends
    cases hfits with
    | lost hlost =>
      -- No bracket is left to end the class with.
      refine .of_none fun ast k₂ hafter => ?_
      obtain ⟨⟨part, k₁⟩, rfl, hafter⟩ := Option.bind_eq_some_iff.1 hafter
      have hnot := hlost part k₁ rfl
      cases part with
      | ends => exact absurd rfl (hends k₁ rfl)
      | operate op => cases (readClassBody_of_not_mem hnot).symm.trans hafter
      | item a => cases (readClassBody_of_not_mem hnot).symm.trans hafter
      | opens negated start =>
        rw [Option.bind_some, afterClassPart_opens, readClassBody_of_not_mem hnot] at hafter
        cases hafter
    | @reads part k₁ k₁' hk =>
      have hlt := length_readClassPart_lt hpart
      have hlt' := length_readClassPart_lt hpart'
      cases part with
      | ends => exact .reads _ hk
      | operate op => exact ih hk (by omega) (by omega)
      | item a => exact ih hk (by omega) (by omega)
      | opens negated start =>
        have hinner : Fits (readClassBody n k₁ none start.reverse) (readClassBody m k₁' none start.reverse) :=
          ih hk (by omega) (by omega)
        rw [Option.bind_some, Option.bind_some, afterClassPart_opens, afterClassPart_opens]
        generalize hbody : readClassBody n _ none start.reverse = b, hbody' : readClassBody m _ none start.reverse = b'
          at hinner
        cases hinner with
        | reads inner hk' =>
          have hle := (readClassBody_suffix hbody).length_le
          have hle' := (readClassBody_suffix hbody').length_le
          exact ih hk' (by omega) (by omega)
        | refused => exact .refused
        | beyond inner hsuffix =>
          refine .of_none fun ast k₂ hafter => ?_
          cases (readClassBody_of_not_mem (not_mem_of_suffix hsuffix)).symm.trans hafter

/-! ## Brackets -/

theorem readClass_suffix {ast : Ast} (h : readClass k = some (ast, k')) : k'.rest <:+ k.rest.tail := by
  obtain ⟨⟨inner, k₁⟩, hbody, heq⟩ := Option.map_eq_some_iff.1 h
  cases heq
  exact (readClassBody_suffix hbody).trans (readClassStart_suffix k)

theorem length_readClassStart_lt (hk : k.rest = c :: cs) : (readClassStart k).2.2.rest.length < k.rest.length := by
  have hlength := (readClassStart_suffix k).length_le
  rw [hk, List.tail_cons] at hlength
  rw [hk]
  exact Nat.lt_succ_of_le hlength

/-- **A class in brackets** is read as it is in the text alone. -/
theorem fits_readClass (hk : k.rest = c :: cs) : Fits (readClass k) (readClass k.closed) := by
  have hk' : k.closed.rest = c :: (cs ++ closing) := Cursor.rest_closed_of_cons hk
  obtain ⟨hnegated, hitems, hinside⟩ := readClassStart_follows hk
  unfold readClass
  dsimp only
  rw [hnegated, hitems]
  exact (fits_readClassBody hinside (length_readClassStart_lt hk) (length_readClassStart_lt hk')).map
    (Ast.bracket (readClassStart k).1)

end

end Pattern
end LineShell
