import LineShell.CommandLine.Splitting
import Mathlib.Data.List.Basic
/-!
# Pieces — how a cut text is put together

A text is cut from left to right, so a text in front of another matters to the cuts behind it only by whether it ends
inside quotes.  `passes` says that of a text that is not cut itself: such a text comes whole at the front of the first
piece (`piecesFrom_append`), and a separator behind it ends that piece (`piecesFrom_separator`).
-/
namespace LineShell

def quotedAfter (quoted : Bool) (c : Char) : Bool := if c = '"' then !quoted else quoted

def piecesFrom (isSeparator : Char → Bool) : (quoted : Bool) → List Char → List (List Char)
  | _, [] => [[]]
  | quoted, c :: text =>
    if !quotedAfter quoted c && isSeparator c then [] :: piecesFrom isSeparator (quotedAfter quoted c) text
    else (piecesFrom isSeparator (quotedAfter quoted c) text).modifyHead (c :: ·)

/-- Whether a text that is nowhere cut ends inside quotes; nothing for one that is cut. -/
def passes (isSeparator : Char → Bool) : (quoted : Bool) → List Char → Option Bool
  | quoted, [] => some quoted
  | quoted, c :: text =>
    if !quotedAfter quoted c && isSeparator c then none else passes isSeparator (quotedAfter quoted c) text

variable {isSeparator : Char → Bool} {quoted quoted' : Bool}

theorem modifyHead_nil_append (pieces : List (List Char)) : pieces.modifyHead ([] ++ ·) = pieces :=
  congrFun List.modifyHead_id pieces

theorem finish_foldl_feed (isSeparator : Char → Bool) : ∀ (text : List Char) (s : Splitter),
    (text.foldl (Splitter.feed isSeparator) s).finish =
      s.pieces.reverse ++ (piecesFrom isSeparator s.quoted text).modifyHead (s.current.reverse ++ ·)
  | [], s => by simp [Splitter.finish, piecesFrom]
  | c :: text, s => by
    have hfeed : Splitter.feed isSeparator s c =
        if !quotedAfter s.quoted c && isSeparator c then ⟨quotedAfter s.quoted c, s.current.reverse :: s.pieces, []⟩
        else ⟨quotedAfter s.quoted c, s.pieces, c :: s.current⟩ := rfl
    rw [List.foldl_cons, finish_foldl_feed isSeparator text, hfeed, piecesFrom]
    split
    · rw [List.reverse_nil, modifyHead_nil_append]
      simp
    · rw [List.modifyHead_modifyHead]
      simp [Function.comp_def]

theorem splitUnquoted_eq (isSeparator : Char → Bool) (text : List Char) :
    splitUnquoted isSeparator text = piecesFrom isSeparator false text := by
  rw [splitUnquoted, finish_foldl_feed]
  exact modifyHead_nil_append _

/-! ## Texts that are not cut -/

theorem passes_append (isSeparator : Char → Bool) : ∀ (quoted : Bool) (front text : List Char),
    passes isSeparator quoted (front ++ text) =
      (passes isSeparator quoted front).bind (fun quoted => passes isSeparator quoted text)
  | _, [], _ => rfl
  | quoted, c :: front, text => by
    rw [List.cons_append, passes, passes]
    split
    · rfl
    · exact passes_append isSeparator _ front text

theorem passes_of_plain : ∀ text : List Char, (∀ c ∈ text, c ≠ '"' ∧ isSeparator c = false) →
    passes isSeparator false text = some false
  | [], _ => rfl
  | c :: text, h => by
    obtain ⟨hq, hs⟩ := h c List.mem_cons_self
    simp only [passes, quotedAfter, hq, hs, if_false, Bool.and_false, Bool.false_eq_true]
    exact passes_of_plain text (fun c' hc' => h c' (List.mem_cons_of_mem _ hc'))

theorem passes_of_quoted : ∀ text : List Char, '"' ∉ text → passes isSeparator true text = some true
  | [], _ => rfl
  | c :: text, h => by
    have hc : c ≠ '"' := (List.ne_of_not_mem_cons h).symm
    simp only [passes, quotedAfter, hc, if_false, Bool.not_true, Bool.false_and, Bool.false_eq_true]
    exact passes_of_quoted text (List.not_mem_of_not_mem_cons h)

/-- **A text that is not cut comes whole** at the front of the first piece. -/
theorem piecesFrom_append : ∀ {quoted : Bool} (front text : List Char),
    passes isSeparator quoted front = some quoted' →
    piecesFrom isSeparator quoted (front ++ text) = (piecesFrom isSeparator quoted' text).modifyHead (front ++ ·)
  | _, [], text, h => by
    obtain rfl := Option.some.inj h
    exact (modifyHead_nil_append _).symm
  | quoted, c :: front, text, h => by
    rw [passes] at h
    rw [List.cons_append, piecesFrom]
    split at h
    · cases h
    · next hc =>
      rw [if_neg hc, piecesFrom_append front text h, List.modifyHead_modifyHead]
      rfl

theorem piecesFrom_of_passes {text : List Char} (h : passes isSeparator quoted text = some quoted') :
    piecesFrom isSeparator quoted text = [text] := by
  have hpieces := piecesFrom_append text [] h
  rwa [List.append_nil, piecesFrom, List.modifyHead_cons, List.append_nil] at hpieces

/-- **A separator outside quotes ends a piece.** -/
theorem piecesFrom_separator {front : List Char} {c : Char} (text : List Char)
    (h : passes isSeparator quoted front = some false) (hq : c ≠ '"') (hc : isSeparator c = true) :
    piecesFrom isSeparator quoted (front ++ c :: text) = front :: piecesFrom isSeparator false text := by
  rw [piecesFrom_append front (c :: text) h, piecesFrom]
  simp only [quotedAfter, hq, hc, if_false, Bool.not_false, Bool.and_true, if_true, List.modifyHead_cons,
    List.append_nil]

end LineShell
