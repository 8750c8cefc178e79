import LineShell.Builtin.Selecting
import LineShell.Proofs.Pattern.Bodies
import LineShell.Proofs.Pattern.Searching
import Mathlib.Data.List.Basic
/-!
# WholeWords — `grep` for whole words

For whole words a pattern is put in parentheses between word boundaries, as text.  Where `grep` takes the pattern both with
the flag and without it, the flag selects the lines in which some part that the pattern spans begins and ends at a word
boundary (`matchesLine_whole_iff`), and so no line that is not selected without it.  But the text may close the
parentheses itself, or open them for a group of another kind, and so be taken with the flag alone; and its last comment
may take the closing parenthesis, and so the text be refused with the flag alone (`whole_words_narrow`).
-/
namespace LineShell
namespace Pattern

variable {ignoreCase : Bool} {text : List Char} {ast : Ast}

def Expr.wrapped (e : Expr) : Expr := .concat [.look (.wordBoundary true), .group e, .look (.wordBoundary true)]

theorem ofText?_eq_some_iff {p : Pattern} : ofText? ignoreCase text = some p ↔ ∃ ast e mode,
    readAst text = some ast ∧ ast.toExpr { ignoreCase } = some (e, mode) ∧ e.fits = true ∧ p = ⟨Machine.ofExpr e⟩ := by
  show Option.bind (readAst text) _ = some p ↔ _
  rw [Option.bind_eq_some_iff]
  refine exists_congr fun ast => ?_
  show readAst text = some ast ∧ Option.bind (ast.toExpr { ignoreCase }) _ = some p ↔ _
  rw [Option.bind_eq_some_iff]
  constructor
  · rintro ⟨hast, ⟨e, mode⟩, hexpr, h⟩
    dsimp only at h
    split at h
    · next hfits => exact ⟨e, mode, hast, hexpr, hfits, (Option.some.inj h).symm⟩
    · cases h
  · rintro ⟨e, mode, hast, hexpr, hfits, rfl⟩
    exact ⟨hast, (e, mode), hexpr, if_pos hfits⟩

theorem Ast.depth_wrapped (ast : Ast) : ast.wrapped.depth = ast.depth + 2 := by
  simp [Ast.wrapped, Ast.depth, Ast.depths]

theorem Ast.toExpr_wrapped (ast : Ast) : ast.wrapped.toExpr { ignoreCase } =
    (ast.toExpr { ignoreCase }).map fun (e, _) => (e.wrapped, { ignoreCase }) := by
  rw [Ast.wrapped]
  simp only [Ast.toExpr, Ast.toExprs]
  cases ast.toExpr { ignoreCase } <;> rfl

theorem Expr.fits_of_wrapped {e : Expr} (h : e.wrapped.fits = true) : e.fits = true := by
  simp only [Expr.wrapped, Expr.fits, Expr.weight, Expr.weights, Bool.and_eq_true, decide_eq_true_eq] at h ⊢
  simp only [if_true, Bool.false_eq_true, if_false] at h
  omega

/-- **Some part of a line is spanned that begins and ends at a word boundary.** -/
def Expr.MatchesWordIn (e : Expr) (line : List Char) : Prop :=
  ∃ p q, Spot.Onward ⟨none, line⟩ p ∧ (Look.wordBoundary true).At p ∧ e.Spans p q ∧ (Look.wordBoundary true).At q

theorem Expr.MatchesWordIn.matchesIn {e : Expr} {line : List Char} (h : e.MatchesWordIn line) : e.MatchesIn line := by
  obtain ⟨p, q, hon, -, hspans, -⟩ := h
  exact ⟨p, q, hon, hspans⟩

theorem Expr.matchesIn_wrapped_iff (e : Expr) (line : List Char) : e.wrapped.MatchesIn line ↔ e.MatchesWordIn line := by
  constructor
  · rintro ⟨p, q, hon, _, ⟨hp, rfl⟩, _, hspans, _, ⟨hq, rfl⟩, rfl⟩
    exact ⟨p, _, hon, hp, hspans, hq⟩
  · rintro ⟨p, q, hon, hp, hspans, hq⟩
    exact ⟨p, q, hon, p, ⟨hp, rfl⟩, q, hspans, q, ⟨hq, rfl⟩, rfl⟩

theorem readAst_eq_some_iff : readAst text = some ast ↔ readWhole text = some ast ∧ ast.depth ≤ maxDepth := by
  rw [readAst_eq, Option.filter_eq_some_iff, decide_eq_true_eq]

theorem readWhole_wrapped_or (h : readAst text = some ast) :
    (readAst (text ++ closing) = some ast ∧ readWhole (wrapped text) = none) ∨
      readAst (text ++ closing) = none ∧ readWhole (wrapped text) = some ast.wrapped := by
  obtain ⟨halone, hdepth⟩ := readAst_eq_some_iff.1 h
  have hwraps := wraps text
  rw [readAst_eq (text ++ closing)]
  generalize readWhole text = alone, readWhole (text ++ closing) = past, readWhole (wrapped text) = between at halone hwraps
  cases hwraps with
  | question => cases halone
  | early => cases halone
  | refused => cases halone
  | behind ast' =>
    cases halone
    exact .inr ⟨rfl, rfl⟩
  | swallowed ast' =>
    cases halone
    exact .inl ⟨Option.filter_eq_some_iff.2 ⟨rfl, decide_eq_true hdepth⟩, rfl⟩

end Pattern

namespace Grep

open Pattern

variable {ignoreCase : Bool} {pattern : String} {p q : LineShell.Pattern}

/-- A pattern that is one with a parenthesis and a word boundary behind it too: its last comment is left open, and takes
them. -/
def LeavesComment (pattern : String) : Prop := readAst (pattern.toList ++ closing) ≠ none

/-- A pattern that nests too deep, or is too large, to stand in a group between word boundaries. -/
def Crowded (ignoreCase : Bool) (pattern : String) : Prop := ∃ ast, readAst pattern.toList = some ast ∧
  (maxDepth < ast.depth + 2 ∨ ∃ e mode, ast.toExpr { ignoreCase } = some (e, mode) ∧ e.wrapped.fits = false)

theorem patternText_whole (pattern : String) : (patternText true pattern).toList = wrapped pattern.toList := by
  rw [patternText, if_pos rfl, String.toList_append, String.toList_append]
  rfl

theorem pattern?_whole_eq_some_iff : pattern? true ignoreCase pattern = some q ↔ ∃ ast e mode,
    readAst (wrapped pattern.toList) = some ast ∧ ast.toExpr { ignoreCase } = some (e, mode) ∧ e.fits = true ∧
      q = ⟨Machine.ofExpr e⟩ := by
  rw [pattern?, patternText_whole, ofText?_eq_some_iff]

theorem exists_expr_of_taken (hp : pattern? false ignoreCase pattern = some p)
    (hq : pattern? true ignoreCase pattern = some q) :
    ∃ e : Expr, p = ⟨Machine.ofExpr e⟩ ∧ q = ⟨Machine.ofExpr e.wrapped⟩ := by
  obtain ⟨ast, e, mode, hast, hexpr, -, rfl⟩ := ofText?_eq_some_iff.1 hp
  obtain ⟨ast', e', mode', hast', hexpr', -, rfl⟩ := pattern?_whole_eq_some_iff.1 hq
  obtain ⟨hwrapped, -⟩ := readAst_eq_some_iff.1 hast'
  rcases readWhole_wrapped_or hast with ⟨-, hnone⟩ | ⟨-, hsome⟩
  · cases hnone.symm.trans hwrapped
  · cases hsome.symm.trans hwrapped
    rw [Ast.toExpr_wrapped] at hexpr'
    have hexpr : ast.toExpr { ignoreCase } = some (e, mode) := hexpr
    rw [hexpr] at hexpr'
    cases hexpr'
    exact ⟨e, rfl, rfl⟩

/-- **The flag for whole words** leaves the lines in which some part that the pattern spans begins and ends at a word
boundary. -/
theorem matchesLine_whole_iff (hp : pattern? false ignoreCase pattern = some p)
    (hq : pattern? true ignoreCase pattern = some q) :
    ∃ e : Expr, (∀ line, p.matchesLine line = true ↔ e.MatchesIn line) ∧
      ∀ line, q.matchesLine line = true ↔ e.MatchesWordIn line := by
  obtain ⟨e, rfl, rfl⟩ := exists_expr_of_taken hp hq
  refine ⟨e, fun line => search_ofExpr_iff e line, fun line => ?_⟩
  rw [← Expr.matchesIn_wrapped_iff]
  exact search_ofExpr_iff e.wrapped line

theorem selected_sublist {p q : LineShell.Pattern} (h : ∀ line, q.matchesLine line = true → p.matchesLine line = true)
    (data : Bytes) : (selected q.matchesLine data).Sublist (selected p.matchesLine data) :=
  List.monotone_filter_right _ h

/-- A pattern taken with the flag alone opens the parentheses for another group, or closes them itself. -/
theorem taken_whole_alone (hp : pattern? false ignoreCase pattern = none)
    (hq : pattern? true ignoreCase pattern = some q) :
    pattern.toList.head? = some '?' ∨ ClosesGroup pattern.toList := by
  obtain ⟨ast, e, mode, hast, hexpr, hfits, -⟩ := pattern?_whole_eq_some_iff.1 hq
  obtain ⟨hwrapped, hdepth⟩ := readAst_eq_some_iff.1 hast
  have hwraps := wraps pattern.toList
  generalize halone : readWhole pattern.toList = alone, readWhole (pattern.toList ++ closing) = past,
    readWhole (wrapped pattern.toList) = between at hwrapped hwraps
  cases hwraps with
  | question h => exact .inl h
  | early h => exact .inr h
  | refused => cases hwrapped
  | swallowed => cases hwrapped
  | behind inner =>
    -- Then the pattern is taken without the flag too.
    cases hwrapped
    rw [Ast.toExpr_wrapped] at hexpr
    obtain ⟨⟨e', mode'⟩, hexpr', heq⟩ := Option.map_eq_some_iff.1 hexpr
    cases heq
    rw [Ast.depth_wrapped] at hdepth
    have hplain : pattern? false ignoreCase pattern = some ⟨Machine.ofExpr e'⟩ :=
      ofText?_eq_some_iff.2 ⟨inner, e', mode', readAst_eq_some_iff.2 ⟨halone, by omega⟩, hexpr',
        Expr.fits_of_wrapped hfits, rfl⟩
    cases hp.symm.trans hplain

/-- A pattern is refused with the flag alone where its last comment takes the closing parenthesis, and where there is no
room for what the flag puts around it. -/
theorem refused_whole_iff (hp : pattern? false ignoreCase pattern = some p) :
    pattern? true ignoreCase pattern = none ↔ LeavesComment pattern ∨ Crowded ignoreCase pattern := by
  obtain ⟨ast, e, mode, hast, hexpr, hfits, -⟩ := ofText?_eq_some_iff.1 hp
  have hast : readAst pattern.toList = some ast := hast
  rcases readWhole_wrapped_or hast with ⟨hpast, hnone⟩ | ⟨hpast, hsome⟩
  · refine iff_of_true (Option.eq_none_iff_forall_ne_some.2 fun q hq => ?_) (.inl (by rw [LeavesComment, hpast]; nofun))
    obtain ⟨ast', _, _, hast', -⟩ := pattern?_whole_eq_some_iff.1 hq
    cases hnone.symm.trans (readAst_eq_some_iff.1 hast').1
  · constructor
    · refine fun hq => .inr ⟨ast, hast, Classical.byContradiction fun hroom => ?_⟩
      obtain ⟨hdepth, hfits'⟩ := not_or.1 hroom
      have hwrapped : readAst (wrapped pattern.toList) = some ast.wrapped :=
        readAst_eq_some_iff.2 ⟨hsome, by rw [Ast.depth_wrapped]; omega⟩
      have hexpr' : ast.wrapped.toExpr { ignoreCase } = some (e.wrapped, { ignoreCase }) := by
        rw [Ast.toExpr_wrapped, hexpr]
        rfl
      have hlarge : e.wrapped.fits = true := Classical.byContradiction fun h =>
        hfits' ⟨e, mode, hexpr, Bool.eq_false_iff.2 h⟩
      cases hq.symm.trans (pattern?_whole_eq_some_iff.2 ⟨_, _, _, hwrapped, hexpr', hlarge, rfl⟩)
    · rintro (hcomment | ⟨ast', hast', hroom⟩)
      · exact absurd hpast hcomment
      cases hast.symm.trans hast'
      refine Option.eq_none_iff_forall_ne_some.2 fun q hq => ?_
      obtain ⟨inner, e', mode', hinner, hexpr', hfits', -⟩ := pattern?_whole_eq_some_iff.1 hq
      obtain ⟨hwhole, hdepth⟩ := readAst_eq_some_iff.1 hinner
      cases hsome.symm.trans hwhole
      rw [Ast.depth_wrapped] at hdepth
      rw [Ast.toExpr_wrapped] at hexpr'
      obtain ⟨⟨e₁, mode₁⟩, hexpr₁, heq⟩ := Option.map_eq_some_iff.1 hexpr'
      cases heq
      rcases hroom with hdeep | ⟨e₂, mode₂, hexpr₂, hlarge⟩
      · omega
      · cases hexpr₁.symm.trans hexpr₂
        cases hfits'.symm.trans hlarge

/-- **The flag for whole words narrows what `grep` prints** wherever the pattern is taken with the flag and without it, to
the lines in which some part that it spans begins and ends at a word boundary.  It is taken with the flag alone only if it
opens the parentheses for another group, or closes them itself; and where it is taken without the flag, it is refused with
it exactly if its last comment takes the closing parenthesis or there is no room around it. -/
theorem whole_words_narrow (ignoreCase : Bool) (pattern : String) :
    (∀ p q, pattern? false ignoreCase pattern = some p → pattern? true ignoreCase pattern = some q →
      (∃ e : Expr, (∀ line, p.matchesLine line = true ↔ e.MatchesIn line) ∧
        ∀ line, q.matchesLine line = true ↔ e.MatchesWordIn line) ∧
      ∀ data, (selected q.matchesLine data).Sublist (selected p.matchesLine data)) ∧
    (pattern? false ignoreCase pattern = none → pattern? true ignoreCase pattern ≠ none →
      pattern.toList.head? = some '?' ∨ ClosesGroup pattern.toList) ∧
    (pattern? false ignoreCase pattern ≠ none →
      (pattern? true ignoreCase pattern = none ↔ LeavesComment pattern ∨ Crowded ignoreCase pattern)) := by
  refine ⟨fun p q hp hq => ?_, fun hp hq => ?_, fun hp => ?_⟩
  · obtain ⟨e, hplain, hwhole⟩ := matchesLine_whole_iff hp hq
    exact ⟨⟨e, hplain, hwhole⟩,
      selected_sublist fun line hline => (hplain line).2 ((hwhole line).1 hline).matchesIn⟩
  · obtain ⟨q, hq⟩ := Option.ne_none_iff_exists'.1 hq
    exact taken_whole_alone hp hq
  · obtain ⟨p, hp⟩ := Option.ne_none_iff_exists'.1 hp
    exact refused_whole_iff hp

/-- A word, a pattern that closes the parentheses, and one whose comment takes the closing one. -/
theorem whole_words_narrow_cases :
    (∃ p q, pattern? false false "cat" = some p ∧ pattern? true false "cat" = some q ∧
      (∃ e : Expr, (∀ line, p.matchesLine line = true ↔ e.MatchesIn line) ∧
        ∀ line, q.matchesLine line = true ↔ e.MatchesWordIn line) ∧
      ∀ data, (selected q.matchesLine data).Sublist (selected p.matchesLine data)) ∧
    ("a)(b".toList.head? = some '?' ∨ ClosesGroup "a)(b".toList) ∧
    (LeavesComment "(?x)a#" ∨ Crowded false "(?x)a#") :=
  ⟨⟨_, _, rfl, rfl, (whole_words_narrow false "cat").1 _ _ rfl rfl⟩,
    (whole_words_narrow false "a)(b").2.1 rfl nofun,
    ((whole_words_narrow false "(?x)a#").2.2 nofun).1 rfl⟩

/-- Two pairs of parentheses come of what is no pattern, and an open comment takes what is put behind a pattern. -/
theorem whole_words_differ :
    (pattern? false false "a)(b" = none ∧ pattern? true false "a)(b" ≠ none) ∧
      pattern? false false "(?x)a#" ≠ none ∧ pattern? true false "(?x)a#" = none :=
  ⟨⟨rfl, nofun⟩, nofun, rfl⟩

end Grep
end LineShell
